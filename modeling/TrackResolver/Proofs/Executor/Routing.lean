import TrackResolver.Proofs.Executor.Search

/-!
# From a search to the link of its result

A result that a search gave can be handed back to the executor at any later time. It carries the name
of one of the engines that were asked for, and that engine, which found it, is the one that is asked
for the link.

Results:
* `leads_registry`: no sequence of calls changes the registry.
* `tally_enterRetrieval`: a retrieval is counted for one engine, and for no other.
* `found_routes`: where a result that a search gave leads.
-/
namespace TrackResolver

open Slot

namespace Executor

/-- The executor `y` is what searches and retrievals make of `x`. -/
inductive Leads (x : Executor) : Executor → Prop
  | refl : x.Leads x
  | search {y : Executor} {names : List String} {song : Song} {c : Context}
    {patience : Option Duration} {call : Call SearchAnswer} (h : x.Leads y)
    (hs : y.search names song c patience = some call) : x.Leads call.after
  | retrieve {y : Executor} (f : Found) (c : Context) (h : x.Leads y) :
    x.Leads (y.retrieve f c).after

theorem search_registry {x : Executor} {names : List String} {song : Song} {c : Context}
    {patience : Option Duration} {call : Call SearchAnswer}
    (h : x.search names song c patience = some call) : call.after.registry = x.registry := by
  unfold Executor.search at h
  split at h
  · cases h; rfl
  · obtain ⟨closed, -, rfl⟩ := Option.map_eq_some_iff.1 h; rfl

theorem retrieve_registry (x : Executor) (f : Found) (c : Context) :
    (x.retrieve f c).after.registry = x.registry := by
  unfold Executor.retrieve
  dsimp only
  split <;> rfl

theorem leads_registry {x y : Executor} (h : x.Leads y) : y.registry = x.registry := by
  induction h with
  | refl => rfl
  | search _ hs ih => rw [search_registry hs, ih]
  | retrieve f c _ ih => rw [retrieve_registry, ih]

/-! ## One retrieval -/

/-- A result that has a link needs no engine. -/
theorem retrieve_of_link (x : Executor) {f : Found} {p : Playable} (h : f.link = some p)
    (c : Context) : x.retrieve f c = ⟨.ok p, .zero, x⟩ := by
  simp only [Executor.retrieve, Registry.retrieve, h, Retrieval.answer]

theorem retrieve_of_get? {x : Executor} {f : Found} (h : f.link = none) {e : Engine}
    (he : x.registry.get? f.source = some e) (c : Context) :
    x.registry.retrieve f c = .asked f.source (e.retrieve f (c.view f.source)) := by
  simp only [Registry.retrieve, h, he]

theorem answer_asked (engine : String) (answer : Except EngineError Playable) :
    (Retrieval.asked engine answer).answer = answer.mapError (.engineFailed engine) := by
  cases answer <;> rfl

theorem tally_insert (l : Ledger) (engine other : String) (t : Tally) :
    Ledger.tally (l.insert engine t) other = if other = engine then t else l.tally other := by
  unfold Ledger.tally
  rw [Dict.get?_insert]
  split <;> rfl

theorem tally_enterRetrieval (l : Ledger) (engine other : String) :
    (l.enterRetrieval engine).tally other =
      if other = engine then (l.tally engine).retrieved else l.tally other :=
  tally_insert l engine other _

section
variable {x : Executor} {f : Found} {e : Engine}

theorem answer_of_get? (h : f.link = none) (he : x.registry.get? f.source = some e) (c : Context) :
    (x.retrieve f c).answer =
      (e.retrieve f (c.view f.source)).mapError (.engineFailed f.source) := by
  rw [← answer_asked, ← retrieve_of_get? h he]
  rfl

/-- The engine that is asked is asked once, and no other is. -/
theorem tally_of_get? (h : f.link = none) (he : x.registry.get? f.source = some e) (c : Context)
    (other : String) : (x.retrieve f c).after.ledger.tally other =
      if other = f.source then (x.ledger.tally f.source).retrieved else x.ledger.tally other := by
  simp only [Executor.retrieve, retrieve_of_get? h he]
  exact tally_enterRetrieval x.ledger f.source other

end

end Executor

open Executor

/-- The engine behind a result that a search gave. -/
theorem exists_engine_of_found {x : Executor} (hr : x.registry.Reachable) {names : List String}
    {song : Song} {c : Context} {patience : Option Duration} {call : Call SearchAnswer} {f : Found}
    (hs : x.search names song c patience = some call) (hf : call.answer = .found f) :
    f.source ∈ names ∧ ∃ e t, x.registry.get? f.source = some e ∧ t ≤ call.elapsed ∧
      e.search song (c.view f.source) = .finishes t (.answered (.ok f)) := by
  have hwf := Registry.wellFormed_of_reachable hr
  cases hl : x.registry.lineup names with
  | error why =>
    rw [Executor.search, hl, Option.some.injEq] at hs
    subst hs; cases hf
  | ok lineup =>
    obtain ⟨-, -, hnames, hget⟩ := (Registry.lineup_eq_ok_iff hwf).1 hl
    obtain ⟨s, hmem, t, ht, hrun, hsource⟩ := exists_wins_of_settle (settle_of_found hl hs hf).1
    obtain ⟨entry, hentry, rfl⟩ := mem_launch.1 hmem
    rw [hsource]
    refine ⟨?_, entry.engine, t, hget entry hentry, ht, hrun⟩
    rw [← hnames]; exact List.mem_map_of_mem hentry

/-- **A result leads back to its engine.** What a search gives carries the name of an engine that was
asked for, and is what the engine of that name answered in this very call. Whatever calls come in
between, retrieving it gives its own link and asks nobody, or asks that engine, once and with its own
settings; the name is always known, and the engine takes the result for its own. -/
theorem found_routes {x : Executor} (hr : x.registry.Reachable) {names : List String} {song : Song}
    {c : Context} {patience : Option Duration} {call : Call SearchAnswer} {f : Found}
    (hs : x.search names song c patience = some call) (hf : call.answer = .found f) :
    f.source ∈ names ∧ ∃ e t, x.registry.get? f.source = some e ∧ t ≤ call.elapsed ∧
      e.search song (c.view f.source) = .finishes t (.answered (.ok f)) ∧
      e.ensureOwned f = .ok () ∧
      ∀ y, call.after.Leads y → ∀ c',
        (∀ p, f.link = some p → y.retrieve f c' = ⟨.ok p, .zero, y⟩) ∧
        (f.link = none →
          y.registry.retrieve f c' = .asked f.source (e.retrieve f (c'.view f.source)) ∧
          (c'.view f.source).engine = f.source ∧
          (c'.view f.source).settings = c'.settingsOf f.source ∧
          (y.retrieve f c').answer =
            (e.retrieve f (c'.view f.source)).mapError (.engineFailed f.source) ∧
          ∀ other, (y.retrieve f c').after.ledger.tally other =
            if other = f.source then (y.ledger.tally f.source).retrieved
            else y.ledger.tally other) ∧
        ∀ unknown why, (y.retrieve f c').answer ≠ .error (.unknownEngines unknown why) := by
  obtain ⟨hmem, e, t, he, ht, hrun⟩ := exists_engine_of_found hr hs hf
  have hid : e.id = f.source := (Registry.wellFormed_of_reachable hr).id_of_get? he
  refine ⟨hmem, e, t, he, ht, hrun, ?_, ?_⟩
  · rw [Engine.ensureOwned, Found.ensureFrom, if_pos hid.symm]
  · intro y hy c'
    have hy : y.registry.get? f.source = some e := by
      rw [leads_registry hy, search_registry hs]; exact he
    cases hlink : f.link with
    | some p =>
      have hready := retrieve_of_link y hlink c'
      refine ⟨?_, ?_, ?_⟩
      · intro q hq
        cases hq; exact hready
      · intro hnone; cases hnone
      · intro unknown why hunknown
        rw [hready] at hunknown
        cases hunknown
    | none =>
      have hasked := retrieve_of_get? hlink hy c'
      have hanswer := answer_of_get? hlink hy c'
      refine ⟨?_, fun _ => ⟨hasked, rfl, rfl, hanswer, tally_of_get? hlink hy c'⟩, ?_⟩
      · intro p hp; cases hp
      · intro unknown why hunknown
        rw [hanswer] at hunknown
        cases he' : e.retrieve f (c'.view f.source) with
        | ok p => rw [he'] at hunknown; cases hunknown
        | error why' => rw [he'] at hunknown; cases hunknown

def honest : Script := { id := "honest", after := .ofMillis 7 }

/-- An engine that lies about its name, before one that has been replaced. -/
def relaid : Executor where
  registry := .after
    [.register (Script.engine { id := "honest", search := .fail .noMatch }),
     .register (Script.engine { id := "liar", search := .pose "honest" }),
     .deregister "honest",
     .register honest.engine]

theorem found_routes_relaid :
    relaid.registry.Reachable ∧
    ∃ call, relaid.search ["liar", "honest"] { name := "" } { mode := .orderFirst } none =
        some call ∧
      call.answer = .found { source := "honest", identifier := "honest-track" } ∧
      (call.after.retrieve { source := "honest", identifier := "honest-track" } {}).answer =
        .ok ⟨"honest", "https://honest.example/honest-track"⟩ := by
  have hr : relaid.registry.Reachable := ⟨_, rfl⟩
  obtain ⟨call, hs⟩ : ∃ call, relaid.search ["liar", "honest"] { name := "" }
    { mode := .orderFirst } none = some call := ⟨_, rfl⟩
  have hf : call.answer = .found { source := "honest", identifier := "honest-track" } := by
    cases hs; rfl
  refine ⟨hr, call, hs, hf, ?_⟩
  obtain ⟨-, e, t, he, -, -, -, hroute⟩ := found_routes hr hs hf
  obtain rfl : honest.engine = e := Option.some.inj he
  obtain ⟨-, hask, -⟩ := hroute _ .refl {}
  obtain ⟨-, -, -, hanswer, -⟩ := hask rfl
  exact hanswer

end TrackResolver
