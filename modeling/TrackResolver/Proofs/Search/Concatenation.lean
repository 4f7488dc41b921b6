import TrackResolver.Proofs.Search.Failures

/-!
# Searching by order in two parts

A search by order over two lists of names, one behind the other, comes to what the search over the
first comes to, `followedBy` that over the second. The engines of both are started together, so what
the second list comes to is not delayed by the first, and the later of the two times counts.

Results:
* `settleFrom_shift`: a walk that begins late, and behind failures, is one that begins at once,
  behind those.
* `settleFrom_concat`, `settle_orderFirst_append`: the walk over two stretches, and the search.
* `search_append`: the three ways in which a call for both lists goes.
-/
namespace TrackResolver

open Slot

/-- What a search comes to that goes on with a second one if the first fails. -/
def Settlement.followedBy : Settlement → Settlement → Settlement
  | pending, _ => pending
  | settled time (.ok f), _ => settled time (.ok f)
  | settled _ (.error _), pending => pending
  | settled time (.error _), settled later (.ok f) => settled (max time later) (.ok f)
  | settled time (.error report), settled later (.error more) =>
    settled (max time later) (.error ⟨report.failures ++ more.failures⟩)

/-! ## The walk -/

theorem settleFrom_shift (slots : List Slot) : ∀ (time later : Duration)
    (failures more : List (String × EngineError)),
    settleFrom (max time later) (failures ++ more) slots =
      (Settlement.settled time (.error ⟨failures⟩)).followedBy (settleFrom later more slots) := by
  induction slots with
  | nil => intro time later failures more; rfl
  | cons slot rest ih =>
    intro time later failures more
    obtain ⟨engine, run⟩ := slot
    cases run with
    | hangs => rfl
    | finishes t ending =>
      simp only [settleFrom]
      cases judge engine ending with
      | ok f => simp only [Settlement.followedBy, max_assoc]
      | error e =>
        simp only [max_assoc, List.append_assoc]
        exact ih _ _ _ _

theorem settleFrom_concat (first second : List Slot) : ∀ (time : Duration)
    (failures : List (String × EngineError)),
    settleFrom time failures (first ++ second) =
      (settleFrom time failures first).followedBy (settleInOrder second) := by
  induction first with
  | nil =>
    intro time failures
    have hshift := settleFrom_shift second time .zero failures []
    rwa [max_eq_left (Duration.zero_le time), List.append_nil] at hshift
  | cons slot rest ih =>
    intro time failures
    obtain ⟨engine, run⟩ := slot
    cases run with
    | hangs => rfl
    | finishes t ending =>
      simp only [List.cons_append, settleFrom]
      cases judge engine ending with
      | ok f => rfl
      | error e => exact ih _ _

/-! ## The search -/

/-- The report of a walk in the order of the request is in that order. -/
theorem settle_orderFirst_eq {slots : List Slot} (hn : (slots.map (·.engine)).Nodup) :
    settle .orderFirst slots = settleInOrder slots := by
  rw [settle_orderFirst]
  rcases exists_decisive slots with hall | ⟨passed, s, rest, he, hp, hh | ⟨t, f, hw⟩⟩
  · rw [settleInOrder_fails hall]
    show Settlement.settled _ (.error (FailureReport.inOrderOf _ _)) = _
    rw [inOrderOf_eq hn (map_fst_failures hall) (List.Perm.refl _)]
  · rw [he, settleInOrder_hangs hp hh]; rfl
  · rw [he, settleInOrder_wins hp hw]; rfl

theorem settle_orderFirst_append {first second : List Slot}
    (hn : ((first ++ second).map (·.engine)).Nodup) :
    settle .orderFirst (first ++ second) =
      (settle .orderFirst first).followedBy (settle .orderFirst second) := by
  have hparts := hn
  rw [List.map_append, List.nodup_append] at hparts
  rw [settle_orderFirst_eq hn, settle_orderFirst_eq hparts.1, settle_orderFirst_eq hparts.2.1]
  exact settleFrom_concat first second .zero []

/-! ## The call -/

/-- **A search by order goes on where the first list fails.** Whoever searches a second list behind the
first is given the result of the first, if it has one, as early as without the second, and waits for
ever if the first does. If all engines of the first list fail, the second list decides: its result is
given, or its failures are reported behind those of the first, at the later of the two times, and
whoever would wait for ever for the second list alone still does. -/
theorem search_append {x : Executor} (hr : x.registry.Reachable) {first second : List String}
    (hfirst : first ≠ []) (hsecond : second ≠ []) {lineup : List Entry}
    (hl : x.registry.lineup (first ++ second) = .ok lineup) (song : Song) {c : Context}
    (hm : c.mode = .orderFirst) :
    (∀ part ∈ [first, second], (∃ t f, Gives x part song c t (.found f)) ∨
      (∃ t report, Gives x part song c t (.refused (.allFailed report))) ∨
      StaysPending x part song c) ∧
    (∀ t f, Gives x first song c t (.found f) → Gives x (first ++ second) song c t (.found f)) ∧
    (StaysPending x first song c → StaysPending x (first ++ second) song c) ∧
    ∀ t report, Gives x first song c t (.refused (.allFailed report)) →
      (∀ u f, Gives x second song c u (.found f) →
        Gives x (first ++ second) song c (max t u) (.found f)) ∧
      (∀ u more, Gives x second song c u (.refused (.allFailed more)) →
        Gives x (first ++ second) song c (max t u)
          (.refused (.allFailed ⟨report.failures ++ more.failures⟩))) ∧
      (StaysPending x second song c → StaysPending x (first ++ second) song c) := by
  obtain ⟨a, b, ha, hb, rfl⟩ :=
    Registry.lineup_append (Registry.wellFormed_of_reachable hr) hfirst hsecond hl
  have hslots : launch (a ++ b) song c = launch a song c ++ launch b song c := List.map_append
  have hsettle : settle c.mode (launch (a ++ b) song c) =
      (settle c.mode (launch a song c)).followedBy (settle c.mode (launch b song c)) := by
    have hn := launch_engines_nodup hr hl song c
    rw [hslots] at hn ⊢
    rw [hm]
    exact settle_orderFirst_append hn
  refine ⟨?_, ?_, ?_, ?_⟩
  · intro part hpart
    rcases List.mem_pair.1 hpart with rfl | rfl
    · exact gives_or_staysPending ha song c
    · exact gives_or_staysPending hb song c
  · intro t f hf
    rw [gives_found_iff ha] at hf
    rw [gives_found_iff hl, hsettle, hf]
    rfl
  · intro hpending
    rw [staysPending_iff ha] at hpending
    rw [staysPending_iff hl, hsettle, hpending]
    rfl
  · intro t report hfails
    rw [gives_allFailed_iff ha] at hfails
    rw [hfails] at hsettle
    refine ⟨?_, ?_, ?_⟩
    · intro u f hf
      rw [gives_found_iff hb] at hf
      rw [gives_found_iff hl, hsettle, hf]
      rfl
    · intro u more hmore
      rw [gives_allFailed_iff hb] at hmore
      rw [gives_allFailed_iff hl, hsettle, hmore]
      rfl
    · intro hpending
      rw [staysPending_iff hb] at hpending
      rw [staysPending_iff hl, hsettle, hpending]
      rfl

/-- A slow engine that finds nothing, one that breaks off at once, and one that succeeds in between. -/
def tandem : Executor := .ofScripts
  [{ id := "slow", after := .ofMillis 30, search := .fail .noMatch },
   { id := "broken", search := .die },
   { id := "quick", after := .ofMillis 5 }]

theorem search_append_tandem :
    tandem.registry.Reachable ∧
    tandem.registry.lineup (["slow", "broken"] ++ ["quick"]) = .ok tandem.registry.entries ∧
    Gives tandem ["slow", "broken"] { name := "" } { mode := .orderFirst } (.ofMillis 30)
      (.refused (.allFailed ⟨[("slow", .noMatch),
        ("broken", .provider "engine task ended without reporting a result")]⟩)) ∧
    Gives tandem ["quick"] { name := "" } { mode := .orderFirst } (.ofMillis 5)
      (.found { source := "quick", identifier := "quick-track" }) ∧
    Gives tandem (["slow", "broken"] ++ ["quick"]) { name := "" } { mode := .orderFirst }
      (.ofMillis 30) (.found { source := "quick", identifier := "quick-track" }) := by
  have hr : tandem.registry.Reachable := Executor.reachable_ofScripts _
  have hl : tandem.registry.lineup (["slow", "broken"] ++ ["quick"]) =
    .ok tandem.registry.entries := rfl
  have ha : tandem.registry.lineup ["slow", "broken"] = .ok (tandem.registry.entries.take 2) := rfl
  have hfails : Gives tandem ["slow", "broken"] { name := "" } { mode := .orderFirst } (.ofMillis 30)
      (.refused (.allFailed ⟨[("slow", .noMatch),
        ("broken", .provider "engine task ended without reporting a result")]⟩)) :=
    (gives_allFailed_iff ha).2 (settle_orderFirst_eq (by decide))
  have hfinds : Gives tandem ["quick"] { name := "" } { mode := .orderFirst } (.ofMillis 5)
    (.found { source := "quick", identifier := "quick-track" }) := ⟨_, rfl, rfl, rfl⟩
  obtain ⟨-, -, -, hrest⟩ :=
    search_append hr (by decide) (by decide) hl { name := "" } (c := { mode := .orderFirst }) rfl
  exact ⟨hr, hl, hfails, hfinds, (hrest _ _ hfails).1 _ _ hfinds⟩

end TrackResolver
