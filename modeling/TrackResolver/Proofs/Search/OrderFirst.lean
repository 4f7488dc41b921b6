import TrackResolver.Proofs.Executor.Search

/-!
# Searching by order

The first position that succeeds wins, however early a later one does, and nothing can be decided
before a position that never resolves.

Results:
* `result?_settleFrom`: the times at which slots are filled do not change what a walk comes to.
* `settle_orderFirst_wins`, `settle_orderFirst_hangs`: how a search by order is settled.
* `search_orderFirst`: the selection, for a whole call.
-/
namespace TrackResolver

open Slot Duration

/-- How a run ends, whenever it does; `none` if it hangs. -/
def Run.ending? {α : Type} : Run α → Option (Ending α)
  | finishes _ ending => some ending
  | hangs => none

/-- What a search comes to, whenever it does. -/
def Settlement.result? : Settlement → Option (Except FailureReport Found)
  | pending => none
  | settled _ result => some result

/-- What a slot comes to, whenever it does. -/
def Slot.outcome (s : Slot) : String × Option (Ending Found) := (s.engine, s.run.ending?)

/-- The first position that succeeds is `k`, with `f`. -/
def FirstInOrder (slots : List Slot) (k : Nat) (f : Found) : Prop :=
  (∃ s t, slots[k]? = some s ∧ s.Wins t f) ∧ ∀ s ∈ slots.take k, ¬ s.Succeeds

/-! ## Times do not matter -/

theorem result?_settleFrom (slots : List Slot) : ∀ (others : List Slot),
    slots.map outcome = others.map outcome →
    ∀ (t u : Duration) (failures : List (String × EngineError)),
      (settleFrom t failures slots).result? = (settleFrom u failures others).result? := by
  induction slots with
  | nil =>
    intro others h t u failures
    rw [List.map_nil, eq_comm, List.map_eq_nil_iff] at h
    subst h; rfl
  | cons s rest ih =>
    intro others h t u failures
    cases others with
    | nil => cases h
    | cons s' rest' =>
      rw [List.map_cons, List.map_cons, List.cons.injEq] at h
      obtain ⟨hs, hrest⟩ := h
      obtain ⟨engine, run⟩ := s
      obtain ⟨engine', run'⟩ := s'
      obtain ⟨rfl, hrun⟩ := Prod.mk.inj hs
      cases run with
      | hangs =>
        cases run' with
        | hangs => rfl
        | finishes => cases hrun
      | finishes v ending =>
        cases run' with
        | hangs => cases hrun
        | finishes v' ending' =>
          cases hrun
          simp only [settleFrom]
          cases judge engine ending with
          | ok f => rfl
          | error e => exact ih rest' hrest _ _ _

theorem result?_reported (names : List String) (s : Settlement) :
    (s.reported names).result? = s.result?.map fun result => result.mapError (·.inOrderOf names) := by
  cases s <;> rfl

theorem result?_settle_orderFirst {slots others : List Slot}
    (h : slots.map outcome = others.map outcome) :
    (settle .orderFirst slots).result? = (settle .orderFirst others).result? := by
  have hnames : slots.map (·.engine) = others.map (·.engine) := by
    have := congrArg (List.map Prod.fst) h
    rw [List.map_map, List.map_map] at this; exact this
  rw [settle_orderFirst, settle_orderFirst, result?_reported, result?_reported, hnames,
    settleInOrder, settleInOrder, result?_settleFrom slots others h]

/-! ## How a search by order is settled -/

theorem settle_orderFirst_wins {slots : List Slot} {k : Nat} {f : Found}
    (h : FirstInOrder slots k f) (hh : ∀ s ∈ slots.take k, ¬ s.Hangs) :
    ∃ time, LastFilled (slots.take (k + 1)) time ∧
      settle .orderFirst slots = .settled time (.ok f) := by
  obtain ⟨⟨s, t, hk, hw⟩, hfirst⟩ := h
  have hfailed : ∀ u ∈ slots.take k, u.Failed := by
    intro u hu
    rcases u.hangs_or_wins_or_fails with h | h | h
    · exact absurd h (hh u hu)
    · exact absurd h (hfirst u hu)
    · exact h
  have hmem : s ∈ slots.take (k + 1) := by rw [take_succ_of_getElem? hk]; simp
  refine ⟨_, lastFilled_latest hmem hw.time?, settle_of_settled_ok ?_⟩
  have hwalk := settleInOrder_wins hfailed hw (slots.drop (k + 1))
  rw [← eq_take_cons_drop hk, ← take_succ_of_getElem? hk] at hwalk
  exact hwalk

theorem settle_orderFirst_hangs {slots : List Slot} {k : Nat} {s : Slot} (hk : slots[k]? = some s)
    (hs : s.Hangs) (hfirst : ∀ u ∈ slots.take k, ¬ u.Succeeds) :
    settle .orderFirst slots = .pending := by
  refine settle_of_pending ?_
  -- the walk stops at `s` or at a slot before it that is not filled either
  rcases exists_decisive (slots.take k) with hall | ⟨passed, u, rest, he, hp, hu⟩
  · have hwalk := settleInOrder_hangs hall hs (slots.drop (k + 1))
    rw [← eq_take_cons_drop hk] at hwalk
    exact hwalk
  · have hhang : u.Hangs := hu.resolve_right (hfirst u (by rw [he]; simp))
    have hwalk := settleInOrder_hangs hp hhang (rest ++ s :: slots.drop (k + 1))
    rw [← List.cons_append, ← List.append_assoc, ← he, ← eq_take_cons_drop hk] at hwalk
    exact hwalk

/-! ## The call -/

theorem answer_of_waits {x : Executor} {names : List String} {lineup : List Entry} {song : Song}
    {c : Context} (hl : x.registry.lineup names = .ok lineup) :
    (x.search names song c none).map (·.answer) =
      (settle c.mode (launch lineup song c)).result?.map fun result =>
        (Closing.settled result).answer := by
  cases hs : settle c.mode (launch lineup song c) with
  | pending => rw [search_pending hl hs]; rfl
  | settled time result => rw [search_settled hl hs (awaits_none time)]; rfl

/-- A caller who gets an answer gets the one that a caller who waits for ever gets. -/
theorem answer_of_not_abandoned {x : Executor} {names : List String} {lineup : List Entry}
    {song : Song} {c : Context} {patience : Option Duration} {call : Call SearchAnswer}
    (hl : x.registry.lineup names = .ok lineup) (h : x.search names song c patience = some call)
    (ha : call.answer ≠ .abandoned) :
    (x.search names song c none).map (·.answer) = some call.answer := by
  rcases search_cases hl h with ⟨result, hs, -, hr⟩ | ⟨p, -, -, hr⟩
  · rw [answer_of_waits hl, hs, hr]; rfl
  · exact absurd hr ha

/-- **Selection by order.** The first position that succeeds wins if every position before it
resolves, at the latest of the times up to it. A position that never resolves keeps the call pending
if none before it succeeds. And the answer does not depend on the times: any two calls for the same
names whose engines come to the same, position by position, answer the same. -/
theorem search_orderFirst {x : Executor} {names : List String} {lineup : List Entry} {song : Song}
    {c : Context} (hr : x.registry.Reachable) (hl : x.registry.lineup names = .ok lineup)
    (hm : c.mode = .orderFirst) :
    (launch lineup song c).map (·.engine) = names ∧
    (∀ k f, FirstInOrder (launch lineup song c) k f →
      (∀ s ∈ (launch lineup song c).take k, ¬ s.Hangs) →
      ∃ time, LastFilled ((launch lineup song c).take (k + 1)) time ∧
        ∀ patience, Awaits patience time → ∃ call, x.search names song c patience = some call ∧
          call.answer = .found f ∧ call.elapsed = time) ∧
    (∀ k s, (launch lineup song c)[k]? = some s → s.Hangs →
      (∀ u ∈ (launch lineup song c).take k, ¬ u.Succeeds) → StaysPending x names song c) ∧
    (∀ (y : Executor) (lineup' : List Entry) (song' : Song) (c' : Context),
      y.registry.Reachable → y.registry.lineup names = .ok lineup' → c'.mode = .orderFirst →
      (launch lineup song c).map (·.run.ending?) = (launch lineup' song' c').map (·.run.ending?) →
      (x.search names song c none).map (·.answer) =
          (y.search names song' c' none).map (·.answer) ∧
        ∀ p q a b, x.search names song c p = some a → y.search names song' c' q = some b →
          a.answer ≠ .abandoned → b.answer ≠ .abandoned → a.answer = b.answer) := by
  refine ⟨launch_engines hr hl song c, ?_, ?_, ?_⟩
  · intro k f hk hh
    obtain ⟨time, hgreatest, hs⟩ := settle_orderFirst_wins hk hh
    rw [← hm] at hs
    exact ⟨time, hgreatest, fun patience hp => ⟨_, search_settled hl hs hp, rfl, rfl⟩⟩
  · intro k s hk hs hfirst
    exact staysPending_of_settle hl (by rw [hm]; exact settle_orderFirst_hangs hk hs hfirst)
  · intro y lineup' song' c' hr' hl' hm' hsame
    have houtcome : (launch lineup song c).map outcome = (launch lineup' song' c').map outcome := by
      have hzip : ∀ l : List Slot, l.map outcome =
          (l.map (·.engine)).zip (l.map (·.run.ending?)) := by
        intro l; rw [List.zip_map']; rfl
      rw [hzip, hzip, hsame, launch_engines hr hl, launch_engines hr' hl']
    have hpatient : (x.search names song c none).map (·.answer) =
        (y.search names song' c' none).map (·.answer) := by
      rw [answer_of_waits hl, answer_of_waits hl', hm, hm', result?_settle_orderFirst houtcome]
    refine ⟨hpatient, ?_⟩
    intro p q a b ha hb hna hnb
    rw [answer_of_not_abandoned hl ha hna, answer_of_not_abandoned hl' hb hnb] at hpatient
    exact Option.some.inj hpatient

/-- An engine that answers in another's name, late, before one that succeeds and one that is faster
still. -/
def tardy : Executor := .ofScripts
  [{ id := "fake", after := .ofMillis 30, search := .pose "slow" },
   { id := "slow", after := .ofMillis 20 },
   { id := "quick", after := .ofMillis 5 }]

theorem search_orderFirst_tardy :
    tardy.registry.Reachable ∧
    tardy.registry.lineup ["fake", "slow", "quick"] = .ok tardy.registry.entries ∧
    ∃ call, tardy.search ["fake", "slow", "quick"] { name := "" } { mode := .orderFirst } none =
        some call ∧
      call.answer = .found { source := "slow", identifier := "slow-track" } ∧
      call.elapsed = .ofMillis 30 := by
  have hr : tardy.registry.Reachable := Executor.reachable_ofScripts _
  have hl : tardy.registry.lineup ["fake", "slow", "quick"] = .ok tardy.registry.entries := rfl
  refine ⟨hr, hl, ?_⟩
  have hm : ({ mode := .orderFirst } : Context).mode = .orderFirst := rfl
  obtain ⟨-, hwin, -⟩ := @search_orderFirst _ _ _ { name := "" } _ hr hl hm
  obtain ⟨time, hgreatest, hcall⟩ := hwin 1 { source := "slow", identifier := "slow-track" }
    ⟨⟨_, .ofMillis 20, rfl, rfl, rfl⟩, by
      intro s hs
      rw [List.mem_singleton.1 hs]
      exact Failed.not_succeeds ⟨.ofMillis 30, _, .foreign rfl (by decide)⟩⟩
    (by intro s hs; rw [List.mem_singleton.1 hs]; exact nofun)
  obtain ⟨call, hc, ha, ht⟩ := hcall none (awaits_none _)
  have hlatest : LastFilled ((launch tardy.registry.entries { name := "" }
      { mode := .orderFirst }).take 2) (.ofMillis 30) :=
    lastFilled_latest (t := .ofMillis 30) List.mem_cons_self rfl
  exact ⟨call, hc, ha, ht.trans (hgreatest.unique hlatest)⟩

end TrackResolver
