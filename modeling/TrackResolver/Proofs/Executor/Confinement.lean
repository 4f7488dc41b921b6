import TrackResolver.Context.Inspect
import TrackResolver.Proofs.Context
import TrackResolver.Proofs.Engine.Discreet
import TrackResolver.Proofs.Executor.Accounts

/-!
# What the settings of an engine can change

An engine is started, and asked for a link, with a view that tells its own settings only. So contexts
that `AgreeOn` the engines of a call are the same to it, whatever else they hold, if these engines are
discreet; and the table of one engine can show in the outcome of that engine, and of no other.

The view does not keep the rest of the context from an engine that is not discreet: a diagnostic of it
shows the settings of all.

Results:
* `AgreeOn.alike_view`: what each of the engines is told.
* `launch_eq`, `launch_others`: what becomes of the engines of a search.
* `search_eq`, `retrieve_eq`: what a call comes to.
* `performAll_eq`: what a whole sequence of calls does to an executor.
* `settings_confined`: these together.
* `not_settings_confined`: an engine that tells what a diagnostic shows it.
-/
namespace TrackResolver

/-- The contexts are the same for these engines: in the common fields and in every setting of theirs.
An engine without settings may have a table or not. -/
structure Context.AgreeOn (names : List String) (c c' : Context) : Prop where
  proxy : c.proxy = c'.proxy
  flac : c.flac = c'.flac
  mode : c.mode = c'.mode
  setting : ∀ engine ∈ names, ∀ key,
    setting? c.settings engine key = setting? c'.settings engine key

namespace Context.AgreeOn

variable {names : List String} {c c' c'' : Context}

theorem refl (names : List String) (c : Context) : AgreeOn names c c :=
  ⟨rfl, rfl, rfl, fun _ _ _ => rfl⟩

theorem trans (h : AgreeOn names c c') (h' : AgreeOn names c' c'') : AgreeOn names c c'' where
  proxy := h.proxy.trans h'.proxy
  flac := h.flac.trans h'.flac
  mode := h.mode.trans h'.mode
  setting engine he key := (h.setting engine he key).trans (h'.setting engine he key)

/-- A table can be put in place of another if no engine of `names` loses or gains a setting by it. -/
theorem insert {engine : String} {table : Settings}
    (h : engine ∈ names → ∀ key, setting? c.settings engine key = table.get? key) :
    AgreeOn names c { c with settings := c.settings.insert engine table } where
  proxy := rfl
  flac := rfl
  mode := rfl
  setting other hother key := by
    rw [setting?, setting?, Dict.get?_insert]
    by_cases heq : other = engine
    · subst heq
      rw [if_pos rfl]
      exact h hother key
    · rw [if_neg heq]

theorem alike_view (h : AgreeOn names c c') {engine : String} (he : engine ∈ names) :
    (c.view engine).Alike (c'.view engine) where
  engine := rfl
  settings := by
    refine Dict.ext_get? fun key => ?_
    exact (get?_settingsOf c engine key).trans
      ((h.setting engine he key).trans (get?_settingsOf c' engine key).symm)
  proxy := h.proxy
  flac := h.flac
  mode := h.mode
  cancelled := rfl

end Context.AgreeOn

open Context

/-! ## One call -/

theorem Registry.mem_lineup {r : Registry} {names : List String} {lineup : List Entry}
    (hl : r.lineup names = .ok lineup) {entry : Entry} (he : entry ∈ lineup) :
    entry.name ∈ names ∧ r.get? entry.name = some entry.engine := by
  unfold Registry.lineup at hl
  split at hl
  · cases hl
  split at hl
  · cases hl
  split at hl
  · cases hl
  · cases hl
    obtain ⟨name, hname, hentry⟩ := List.mem_filterMap.1 he
    obtain ⟨e, hget, rfl⟩ := Option.map_eq_some_iff.1 hentry
    exact ⟨hname, hget⟩

section
variable {r : Registry} {names : List String} {lineup : List Entry} {c c' : Context}

theorem launch_eq (hl : r.lineup names = .ok lineup) (hd : r.Discreet names)
    (h : AgreeOn names c c') (song : Song) : launch lineup song c = launch lineup song c' := by
  refine List.map_congr_left fun entry hentry => ?_
  obtain ⟨hname, hget⟩ := Registry.mem_lineup hl hentry
  rw [(hd _ hname _ hget).search song _ _ (h.alike_view hname)]

/-- The same slot, or one of `engine` in either. -/
def SameBut (engine : String) (s u : Slot) : Prop :=
  s.engine = u.engine ∧ (s.engine ≠ engine → s = u)

theorem launch_others (hl : r.lineup names = .ok lineup) {engine : String}
    (hd : r.Discreet (names.filter (· ≠ engine)))
    (h : AgreeOn (names.filter (· ≠ engine)) c c') (song : Song) :
    List.Forall₂ (SameBut engine) (launch lineup song c) (launch lineup song c') := by
  refine List.forall₂_map_left_iff.2 (List.forall₂_map_right_iff.2 (List.forall₂_same.2 ?_))
  intro entry hentry
  refine ⟨rfl, fun hne => ?_⟩
  obtain ⟨hname, hget⟩ := Registry.mem_lineup hl hentry
  have hmem : entry.name ∈ names.filter (· ≠ engine) :=
    List.mem_filter.2 ⟨hname, by simpa using hne⟩
  rw [(hd _ hmem _ hget).search song _ _ (h.alike_view hmem)]

end

namespace Executor

variable (x : Executor) {c c' : Context}

theorem search_eq {names : List String} (hd : x.registry.Discreet names)
    (h : AgreeOn names c c') (song : Song) (patience : Option Duration) :
    x.search names song c patience = x.search names song c' patience := by
  cases hl : x.registry.lineup names with
  | error why => rw [Executor.search, Executor.search, hl]
  | ok lineup => rw [search_of_lineup hl, search_of_lineup hl, launch_eq hl hd h, h.mode]

theorem retrieve_eq {f : Found} (hd : x.registry.Discreet [f.source])
    (h : AgreeOn [f.source] c c') : x.retrieve f c = x.retrieve f c' := by
  have hmem : f.source ∈ [f.source] := List.mem_singleton.2 rfl
  have hsame : x.registry.retrieve f c = x.registry.retrieve f c' := by
    unfold Registry.retrieve
    split
    · rfl
    · split
      · rfl
      · next e hget => rw [(hd _ hmem e hget).retrieve f _ _ (h.alike_view hmem)]
  rw [Executor.retrieve, Executor.retrieve, hsame]

end Executor

/-! ## One call after another -/

/-- The same call, under contexts that agree on the engines that it can reach. -/
inductive Op.Agrees : Op → Op → Prop
  | list : Agrees .list .list
  | inspect : Agrees .inspect .inspect
  | search {names : List String} {c c' : Context} (h : AgreeOn names c c') (song : Song)
    (patience : Option Duration) :
    Agrees (.search names song c patience) (.search names song c' patience)
  | retrieve {f : Found} {c c' : Context} (h : AgreeOn [f.source] c c') :
    Agrees (.retrieve f c) (.retrieve f c')

/-- The engines that the call can reach. -/
def Op.reach : Op → List String
  | list | inspect => []
  | search names .. => names
  | retrieve f _ => [f.source]

namespace Executor

theorem perform_eq (x : Executor) {op op' : Op} (hd : x.registry.Discreet op.reach)
    (h : op.Agrees op') : x.perform op = x.perform op' := by
  cases h with
  | list | inspect => rfl
  | @search names c c' h song patience =>
    have hasked : x.registry.Discreet names := hd
    rw [perform, perform, search_eq x hasked h]
  | retrieve h => rw [perform, perform, retrieve_eq x hd h]

theorem performAll_eq (x : Executor) {ops ops' : List Op}
    (hd : ∀ op ∈ ops, x.registry.Discreet op.reach) (h : List.Forall₂ Op.Agrees ops ops') :
    x.performAll ops = x.performAll ops' := by
  induction h generalizing x with
  | nil => rfl
  | @cons op op' ops ops' hop _ ih =>
    obtain ⟨hfirst, hrest⟩ := List.forall_mem_cons.1 hd
    rw [performAll_cons, performAll_cons, ← perform_eq x hfirst hop]
    cases hy : x.perform op with
    | none => rfl
    | some y => exact ih y (by rw [perform_registry hy]; exact hrest)

end Executor

open Executor

/-- **Settings stay with their engine**, as long as the engines go by what their views tell. A search
comes to the same, at the same time and with the same accounts, under contexts that agree on the
engines asked for; where they agree on all but one, every other engine does the same. A retrieval
depends on the settings of the engine that it goes to. So a sequence of calls leaves the same executor,
whatever else the contexts hold. -/
theorem settings_confined (x : Executor) :
    (∀ names, x.registry.Discreet names → ∀ c c', AgreeOn names c c' → ∀ song patience,
      x.search names song c patience = x.search names song c' patience) ∧
    (∀ names lineup, x.registry.lineup names = .ok lineup → ∀ engine,
      x.registry.Discreet (names.filter (· ≠ engine)) → ∀ c c',
      AgreeOn (names.filter (· ≠ engine)) c c' → ∀ song,
        List.Forall₂ (SameBut engine) (launch lineup song c) (launch lineup song c')) ∧
    (∀ f, x.registry.Discreet [f.source] → ∀ c c', AgreeOn [f.source] c c' →
      x.retrieve f c = x.retrieve f c') ∧
    (∀ ops ops', (∀ op ∈ ops, x.registry.Discreet op.reach) → List.Forall₂ Op.Agrees ops ops' →
      x.performAll ops = x.performAll ops') :=
  ⟨fun _ hd _ _ h => search_eq x hd h, fun _ _ hl _ hd _ _ h => launch_others hl hd h,
    fun _ hd _ _ h => retrieve_eq x hd h, fun _ _ hd h => performAll_eq x hd h⟩

/-- An engine that finds its own token, and one that tells what it sees. -/
def vault : Executor := .ofScripts
  [{ id := "keyed", search := .setting "token" none }, { id := "mirror", search := .describe }]

/-- A token for the first, and then an empty table for the second and a token for a third. -/
theorem settings_confined_vault :
    let c := ({ mode := .orderFirst } : Context).set "keyed" "token" "k1"
    let c' : Context := { c with
      settings :=
        (c.settings.insert "mirror" .empty).insert "other" (Dict.empty.insert "token" "k2") }
    c ≠ c' ∧ Context.AgreeOn ["keyed", "mirror"] c c' ∧
    vault.registry.Discreet ["keyed", "mirror"] ∧
    ∃ call, vault.search ["keyed", "mirror"] { name := "" } c none = some call ∧
      vault.search ["keyed", "mirror"] { name := "" } c' none = some call ∧
      call.answer = .found { source := "keyed", identifier := "k1" } := by
  intro c c'
  have hmirror : AgreeOn ["keyed", "mirror"] c
      { c with settings := c.settings.insert "mirror" .empty } := .insert fun _ _ => rfl
  have hother : AgreeOn ["keyed", "mirror"]
      { c with settings := c.settings.insert "mirror" .empty } c' := .insert (by simp)
  have h := hmirror.trans hother
  have hd : vault.registry.Discreet ["keyed", "mirror"] := Executor.discreet_ofScripts _ _
  obtain ⟨call, hs⟩ : ∃ call, vault.search ["keyed", "mirror"] { name := "" } c none = some call :=
    ⟨_, rfl⟩
  refine ⟨?_, h, hd, call, hs, ?_, by cases hs; rfl⟩
  · intro heq
    have hnone : none = some "k2" :=
      congrArg (fun d : Context => setting? d.settings "other" "token") heq
    cases hnone
  · rw [← (settings_confined vault).1 _ hd _ _ h, hs]

/-- An engine that tells what a diagnostic shows of its view, whatever it is asked for. -/
def gossip : Engine where
  id := "gossip"
  search _ v := .finishes .zero (.answered (.ok { source := "gossip", identifier := v.inspect }))
  retrieve _ v := .ok ⟨"gossip", v.inspect⟩

/-- An engine that is not discreet: what it finds holds the token of another, which the search does not
ask for. -/
theorem not_settings_confined :
    ¬ ∀ (x : Executor) (names : List String) (c c' : Context), AgreeOn names c c' →
      ∀ song patience, x.search names song c patience = x.search names song c' patience := by
  intro h
  let c : Context := { mode := .orderFirst }
  let c' : Context := c.set "vault" "token" "k1"
  have hagree : AgreeOn ["gossip"] c c' := .insert (by simp)
  have hsame := h ⟨.ofList [gossip], .empty⟩ ["gossip"] c c' hagree { name := "" } none
  have hfound : SearchAnswer.found { source := "gossip", identifier := (c.view "gossip").inspect } =
      .found { source := "gossip", identifier := (c'.view "gossip").inspect } :=
    congrArg Call.answer (Option.some.inj hsame)
  have htext : (c.view "gossip").inspect = (c'.view "gossip").inspect :=
    congrArg Found.identifier (SearchAnswer.found.inj hfound)
  exact absurd htext (by decide +kernel)

end TrackResolver
