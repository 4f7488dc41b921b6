import TrackResolver.Proofs.Search.Failures
import TrackResolver.Proofs.Search.FastFirst
import TrackResolver.Proofs.Search.OrderFirst

/-!
# What a search comes to, and when

Either policy settles on a winner that it `Commits` to, or on a report of all engines, and on
nothing else. So a call `EndsAt` the time at which one of the two comes, or when its caller goes
away.

Results:
* `settle_eq_ok_iff`: a search settles with a result exactly if its policy commits to it.
* `settle_eq_error_iff`: it settles with a report exactly if every engine has failed.
* `settle_by`: it settles by the time at which all engines have resolved.
* `exists_call_iff`: which calls end at all.
* `endsAt_of_search`: when a call ends.
-/
namespace TrackResolver

open Slot Duration

theorem Slot.Failed.not_hangs {s : Slot} (h : s.Failed) : ¬ s.Hangs := by
  intro hh
  obtain ⟨t, e, hf⟩ := h
  have ht := hf.time?
  rw [hh.time?] at ht
  cases ht

/-- The policy commits to `f` at `time`: by order to the first position that succeeds, when the last
position up to it has resolved, and by speed to the first success in time. -/
def Commits (mode : SearchMode) (slots : List Slot) (time : Duration) (f : Found) : Prop :=
  match mode with
  | .orderFirst => ∃ k, FirstInOrder slots k f ∧ (∀ s ∈ slots.take k, ¬ s.Hangs) ∧
      LastFilled (slots.take (k + 1)) time
  | .fastFirst => ∃ k, FirstInTime slots k time f

variable {mode : SearchMode} {slots : List Slot} {time : Duration}

theorem settle_orderFirst_ok_iff {f : Found} :
    settle .orderFirst slots = .settled time (.ok f) ↔ Commits .orderFirst slots time f := by
  constructor
  · intro h
    rcases exists_decisive slots with hall | ⟨passed, s, rest, rfl, hp, hs⟩
    · rw [settle_orderFirst, settleInOrder_fails hall] at h; cases h
    · rcases hs with hh | ⟨t, g, hw⟩
      · rw [settle_orderFirst, settleInOrder_hangs hp hh] at h; cases h
      · rw [settle_orderFirst, settleInOrder_wins hp hw] at h
        cases h
        have hk : (passed ++ s :: rest)[passed.length]? = some s := by simp
        have htake : (passed ++ s :: rest).take passed.length = passed := by simp
        refine ⟨passed.length, ⟨⟨s, t, hk, hw⟩, ?_⟩, ?_, ?_⟩
        · rw [htake]; exact fun u hu => (hp u hu).not_succeeds
        · rw [htake]; exact fun u hu => (hp u hu).not_hangs
        · rw [take_succ_of_getElem? hk, htake]
          exact lastFilled_latest (by simp) hw.time?
  · rintro ⟨k, hfirst, hh, ht⟩
    obtain ⟨t, ht', hs⟩ := settle_orderFirst_wins hfirst hh
    rw [hs, ht'.unique ht]

theorem settle_eq_ok_iff (hn : slots.Nodup) {f : Found} :
    settle mode slots = .settled time (.ok f) ↔ Commits mode slots time f := by
  cases mode with
  | orderFirst => exact settle_orderFirst_ok_iff
  | fastFirst => exact settle_fastFirst_ok_iff hn

theorem exists_lastFilled (hne : slots ≠ []) (h : ∀ s ∈ slots, s.Failed) :
    ∃ time, LastFilled slots time := by
  obtain ⟨s, hs⟩ := List.exists_mem_of_ne_nil _ hne
  obtain ⟨t, e, hf⟩ := h s hs
  exact ⟨_, lastFilled_latest hs hf.time?⟩

theorem settle_eq_error_iff (hn : (slots.map (·.engine)).Nodup) (hne : slots ≠ [])
    {report : FailureReport} :
    settle mode slots = .settled time (.error report) ↔
      (∀ s ∈ slots, s.Failed) ∧ LastFilled slots time ∧ report = ⟨failuresOf slots⟩ := by
  have hfails : ∀ {u : Duration}, (∀ s ∈ slots, s.Failed) → LastFilled slots u →
      settle mode slots = .settled u (.error ⟨failuresOf slots⟩) := by
    intro u hall hu
    rw [settle_eq]
    exact settleInOrder_reported hn hall (arranged_perm mode slots) hu
  constructor
  · intro h
    rcases exists_decisive (arranged mode slots) with hall | ⟨passed, s, rest, he, hp, hs⟩
    · have hall : ∀ s ∈ slots, s.Failed := fun s hs => hall s (mem_arranged.2 hs)
      obtain ⟨u, hlast⟩ := exists_lastFilled hne hall
      rw [hfails hall hlast] at h
      cases h
      exact ⟨hall, hlast, rfl⟩
    · rcases hs with hh | ⟨t, g, hw⟩
      · rw [settle_of_pending (he ▸ settleInOrder_hangs hp hh rest)] at h; cases h
      · rw [settle_of_settled_ok (he ▸ settleInOrder_wins hp hw rest)] at h; cases h
  · rintro ⟨hall, ht, rfl⟩
    exact hfails hall ht

theorem Commits.unique (hn : slots.Nodup) {u : Duration} {f g : Found}
    (h : Commits mode slots time f) (h' : Commits mode slots u g) : time = u ∧ f = g := by
  have hs := (settle_eq_ok_iff hn).2 h
  rw [(settle_eq_ok_iff hn).2 h'] at hs
  cases hs
  exact ⟨rfl, rfl⟩

theorem Commits.succeeds {f : Found} (h : Commits mode slots time f) :
    ∃ s ∈ slots, s.Succeeds := by
  cases mode with
  | orderFirst =>
    obtain ⟨k, ⟨⟨s, t, hk, hw⟩, -⟩, -⟩ := h
    exact ⟨s, List.mem_of_getElem? hk, t, f, hw⟩
  | fastFirst =>
    obtain ⟨k, ⟨s, hk, hw⟩, -⟩ := h
    exact ⟨s, List.mem_of_getElem? hk, time, f, hw⟩

/-- A policy commits to nothing if every engine fails. -/
theorem Commits.not_failed {f : Found} (h : Commits mode slots time f) :
    ¬ ∀ s ∈ slots, s.Failed := by
  intro hall
  obtain ⟨s, hs, hw⟩ := h.succeeds
  exact (hall s hs).not_succeeds hw

/-- A search of which every engine resolves has a winner, or every engine fails. -/
theorem commits_or_failed (hn : slots.Nodup) (h : ∀ s ∈ slots, ¬ s.Hangs) :
    (∃ time f, Commits mode slots time f) ∨ ∀ s ∈ slots, s.Failed := by
  simp only [← settle_eq_ok_iff hn]
  rcases exists_decisive (arranged mode slots) with hall | ⟨passed, s, rest, he, hp, hs⟩
  · exact Or.inr fun s hs => hall s (mem_arranged.2 hs)
  · have hmem : s ∈ arranged mode slots := by rw [he]; simp
    obtain ⟨t, f, hw⟩ := hs.resolve_left (h s (mem_arranged.1 hmem))
    exact Or.inl ⟨_, f, settle_of_settled_ok (he ▸ settleInOrder_wins hp hw rest)⟩

/-- A search settles at a time at which one of its slots is filled. -/
theorem exists_filled_of_settle (hn : (slots.map (·.engine)).Nodup) (hne : slots ≠ [])
    {result : Except FailureReport Found} (h : settle mode slots = .settled time result) :
    ∃ s ∈ slots, s.run.time? = some time := by
  cases result with
  | error report =>
    obtain ⟨-, ht, -⟩ := (settle_eq_error_iff hn hne).1 h
    exact ht.1
  | ok f =>
    have hcommits := (settle_eq_ok_iff (List.Nodup.of_map _ hn)).1 h
    cases mode with
    | orderFirst =>
      obtain ⟨k, -, -, ht⟩ := hcommits
      obtain ⟨s, hs, hst⟩ := ht.1
      exact ⟨s, List.mem_of_mem_take hs, hst⟩
    | fastFirst =>
      obtain ⟨k, ⟨s, hk, hw⟩, -⟩ := hcommits
      exact ⟨s, List.mem_of_getElem? hk, hw.time?⟩

/-- Engines that all resolve by some time settle the search by then. -/
theorem settle_by (hn : (slots.map (·.engine)).Nodup) (hne : slots ≠ []) {bound : Duration}
    (h : ∀ s ∈ slots, ∃ t ≤ bound, s.run.time? = some t) :
    ∃ time ≤ bound, ∃ result, settle mode slots = .settled time result := by
  have hends : ∀ s ∈ slots, ¬ s.Hangs := by
    intro s hs hh
    obtain ⟨t, -, ht⟩ := h s hs
    rw [hh.time?] at ht
    cases ht
  have hsettled : ∃ time result, settle mode slots = .settled time result := by
    rcases commits_or_failed (List.Nodup.of_map _ hn) hends with ⟨time, f, hf⟩ | hall
    · exact ⟨time, _, (settle_eq_ok_iff (List.Nodup.of_map _ hn)).2 hf⟩
    · obtain ⟨time, ht⟩ := exists_lastFilled hne hall
      exact ⟨time, _, (settle_eq_error_iff hn hne).2 ⟨hall, ht, rfl⟩⟩
  obtain ⟨time, result, hs⟩ := hsettled
  obtain ⟨s, hmem, hst⟩ := exists_filled_of_settle hn hne hs
  obtain ⟨t, hle, ht⟩ := h s hmem
  rw [hst, Option.some.injEq] at ht
  exact ⟨time, ht ▸ hle, result, hs⟩

/-! ## The end of a call -/

/-- When a call ends: when a winner is committed or the last engine fails, if the caller waits for
it, and else when the caller goes away. -/
inductive EndsAt (mode : SearchMode) (slots : List Slot) (patience : Option Duration) :
    Duration → Prop
  | won {time : Duration} {f : Found} (h : Commits mode slots time f) (hp : Awaits patience time) :
    EndsAt mode slots patience time
  | lost {time : Duration} (h : ∀ s ∈ slots, s.Failed) (ht : LastFilled slots time)
    (hp : Awaits patience time) : EndsAt mode slots patience time
  | left {p : Duration} (hp : patience = some p)
    (hwon : ∀ time f, Commits mode slots time f → p ≤ time)
    (hlost : (∀ s ∈ slots, s.Failed) → ∀ time, LastFilled slots time → p ≤ time) :
    EndsAt mode slots patience p

section
variable {x : Executor} {names : List String} {lineup : List Entry} {song : Song} {c : Context}
  {patience : Option Duration}

theorem settle_launch_ok_iff (hr : x.registry.Reachable) (hl : x.registry.lineup names = .ok lineup)
    {f : Found} : settle c.mode (launch lineup song c) = .settled time (.ok f) ↔
      Commits c.mode (launch lineup song c) time f :=
  settle_eq_ok_iff (launch_nodup hr hl song c)

theorem settle_launch_error_iff (hr : x.registry.Reachable)
    (hl : x.registry.lineup names = .ok lineup) {report : FailureReport} :
    settle c.mode (launch lineup song c) = .settled time (.error report) ↔
      (∀ s ∈ launch lineup song c, s.Failed) ∧ LastFilled (launch lineup song c) time ∧
        report = ⟨failuresOf (launch lineup song c)⟩ :=
  settle_eq_error_iff (launch_engines_nodup hr hl song c) (launch_ne_nil hr hl song c)

/-- Engines that all fail settle the search. -/
theorem exists_settle_of_failed (hr : x.registry.Reachable)
    (hl : x.registry.lineup names = .ok lineup) (hall : ∀ s ∈ launch lineup song c, s.Failed) :
    ∃ time, settle c.mode (launch lineup song c) =
      .settled time (.error ⟨failuresOf (launch lineup song c)⟩) := by
  obtain ⟨time, hlast⟩ := exists_lastFilled (launch_ne_nil hr hl song c) hall
  exact ⟨time, (settle_launch_error_iff hr hl).2 ⟨hall, hlast, rfl⟩⟩

/-- A call ends if its caller goes away at some time, if a winner is committed, or if all fail. -/
theorem exists_call_iff (hr : x.registry.Reachable) (hl : x.registry.lineup names = .ok lineup) :
    (∃ call, x.search names song c patience = some call) ↔
      patience ≠ none ∨ (∃ time f, Commits c.mode (launch lineup song c) time f) ∨
        ∀ s ∈ launch lineup song c, s.Failed := by
  simp only [← settle_launch_ok_iff hr hl]
  constructor
  · rintro ⟨call, hcall⟩
    rcases search_cases hl hcall with ⟨result, hs, -, -⟩ | ⟨p, rfl, -, -⟩
    · cases result with
      | ok f => exact Or.inr (Or.inl ⟨_, f, hs⟩)
      | error report => exact Or.inr (Or.inr ((settle_launch_error_iff hr hl).1 hs).1)
    · exact Or.inl nofun
  · intro h
    cases patience with
    | some p =>
      rw [search_of_lineup hl]
      cases settle c.mode (launch lineup song c) with
      | pending => exact ⟨_, rfl⟩
      | settled time result =>
        simp only [Settlement.close]
        split <;> exact ⟨_, rfl⟩
    | none =>
      rcases h.resolve_left (absurd rfl) with ⟨time, f, hs⟩ | hall
      · exact ⟨_, search_settled hl hs (awaits_none time)⟩
      · obtain ⟨time, hs⟩ := exists_settle_of_failed hr hl hall
        exact ⟨_, search_settled hl hs (awaits_none time)⟩

/-- A caller goes away if nothing is settled before. -/
theorem endsAt_left (hr : x.registry.Reachable) (hl : x.registry.lineup names = .ok lineup)
    {p : Duration} (h : ∀ time result,
      settle c.mode (launch lineup song c) = .settled time result → p ≤ time) :
    EndsAt c.mode (launch lineup song c) (some p) p := by
  refine .left rfl ?_ ?_
  · intro time f hf
    exact h time _ ((settle_launch_ok_iff hr hl).2 hf)
  · intro hall time ht
    exact h time _ ((settle_launch_error_iff hr hl).2 ⟨hall, ht, rfl⟩)

theorem endsAt_of_search (hr : x.registry.Reachable) (hl : x.registry.lineup names = .ok lineup)
    {call : Call SearchAnswer} (h : x.search names song c patience = some call) :
    EndsAt c.mode (launch lineup song c) patience call.elapsed := by
  cases hs : settle c.mode (launch lineup song c) with
  | pending =>
    rw [search_pending hl hs] at h
    obtain ⟨p, rfl, rfl⟩ := Option.map_eq_some_iff.1 h
    refine endsAt_left hr hl ?_
    intro t result ht
    rw [hs] at ht
    cases ht
  | settled time result =>
    by_cases hp : Awaits patience time
    · rw [search_settled hl hs hp, Option.some.injEq] at h
      subst h
      cases result with
      | ok f => exact .won ((settle_launch_ok_iff hr hl).1 hs) hp
      | error report =>
        obtain ⟨hall, ht, -⟩ := (settle_launch_error_iff hr hl).1 hs
        exact .lost hall ht hp
    · obtain ⟨p, rfl, hle⟩ := exists_of_not_awaits hp
      rw [search_given_up hl hs hle, Option.some.injEq] at h
      subst h
      refine endsAt_left hr hl ?_
      intro t result ht
      rw [hs] at ht
      cases ht
      exact hle

end

end TrackResolver
