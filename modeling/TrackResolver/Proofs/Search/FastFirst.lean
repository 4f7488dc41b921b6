import TrackResolver.Proofs.Executor.Search

/-!
# Searching by speed

The first success in time wins; of two at one time, the one that was requested earlier. Failures and
engines that never resolve make no difference to it.

Results:
* `pair_order`: slots that are filled at one time are looked at in the order of the request.
* `firstInTime_of_arranged`: the success at which the walk stops is the first in time.
* `settle_fastFirst_wins`, `settle_fastFirst_pending_iff`: how a search by speed is settled.
* `search_fastFirst`: the selection, for a whole call.
-/
namespace TrackResolver

open Slot Duration

/-- The first success in time stands at position `k` and comes at `t` with `f`. -/
def FirstInTime (slots : List Slot) (k : Nat) (t : Duration) (f : Found) : Prop :=
  (∃ s, slots[k]? = some s ∧ s.Wins t f) ∧
    ∀ j s u g, slots[j]? = some s → s.Wins u g → t < u ∨ t = u ∧ k ≤ j

/-- No other success comes earlier. -/
theorem FirstInTime.le {slots : List Slot} {k : Nat} {t u : Duration} {f g : Found} {s : Slot}
    (h : FirstInTime slots k t f) (hs : s ∈ slots) (hw : s.Wins u g) : t ≤ u := by
  obtain ⟨j, hj⟩ := List.mem_iff_getElem?.1 hs
  rcases h.2 j s u g hj hw with hlt | ⟨heq, -⟩
  · exact le_of_lt hlt
  · exact le_of_eq heq

theorem FirstInTime.unique {slots : List Slot} {j k : Nat} {t u : Duration} {f g : Found}
    (h : FirstInTime slots j t f) (h' : FirstInTime slots k u g) : j = k ∧ t = u ∧ f = g := by
  obtain ⟨⟨s, hj, hs⟩, hfirst⟩ := h
  obtain ⟨⟨s', hk, hs'⟩, hfirst'⟩ := h'
  have hle := hfirst k s' u g hk hs'
  have hge := hfirst' j s t f hj hs
  have hjk : j = k := by
    rcases hle with h1 | ⟨h1, h2⟩ <;> rcases hge with h3 | ⟨h3, h4⟩
    · exact absurd h1 (lt_asymm h3)
    · exact absurd h1 (by rw [h3]; exact lt_irrefl _)
    · exact absurd h3 (by rw [h1]; exact lt_irrefl _)
    · omega
  subst hjk
  rw [hj, Option.some.injEq] at hk
  subst hk
  exact ⟨rfl, hs.unique hs'⟩

/-! ## The order in which slots are looked at -/

theorem notAfter_of_time? {s u : Slot} {a b : Duration} (hs : s.run.time? = some a)
    (hu : u.run.time? = some b) : s.notAfter u = true ↔ a ≤ b := by
  rw [notAfter, hs, hu]; exact decide_eq_true_iff

theorem notAfter_trans (a b c : Slot) (hab : a.notAfter b = true) (hbc : b.notAfter c = true) :
    a.notAfter c = true := by
  unfold notAfter at *
  cases ha : a.run.time? <;> cases hb : b.run.time? <;> cases hc : c.run.time? <;>
    simp_all only [decide_eq_true_eq, Bool.false_eq_true]
  exact le_trans hab hbc

theorem notAfter_total (a b : Slot) : (a.notAfter b || b.notAfter a) = true := by
  unfold notAfter
  cases ha : a.run.time? with
  | none => cases b.run.time? <;> simp
  | some t =>
    cases hb : b.run.time? with
    | none => simp
    | some u => simpa using le_total t u

/-- The slots in the order in which they are looked at, earlier ones first. -/
theorem arranged_pairwise (slots : List Slot) :
    (arranged .fastFirst slots).Pairwise fun s u => s.notAfter u = true :=
  List.pairwise_mergeSort notAfter_trans notAfter_total slots

section
variable {slots passed rest : List Slot} {s : Slot}

theorem notAfter_of_mem_passed (he : arranged .fastFirst slots = passed ++ s :: rest) :
    ∀ u ∈ passed, u.notAfter s = true := by
  have hsorted := arranged_pairwise slots
  rw [he] at hsorted
  obtain ⟨-, -, hbefore⟩ := List.pairwise_append.1 hsorted
  exact fun u hu => hbefore u hu s List.mem_cons_self

theorem notAfter_of_mem_rest (he : arranged .fastFirst slots = passed ++ s :: rest) :
    ∀ u ∈ rest, s.notAfter u = true := by
  have hsorted := arranged_pairwise slots
  rw [he] at hsorted
  obtain ⟨-, hrest, -⟩ := List.pairwise_append.1 hsorted
  exact (List.pairwise_cons.1 hrest).1

/-- Of two slots in the order of the request, of which the second is not filled before the first,
the first is looked at first. -/
theorem pair_order (hn : slots.Nodup) {j k : Nat} {u : Slot} (hj : slots[j]? = some u)
    (hk : slots[k]? = some s) (hjk : j < k) (hus : u.notAfter s = true)
    (he : arranged .fastFirst slots = passed ++ s :: rest) : u ∈ passed := by
  have hu : u ∈ slots.take k :=
    List.mem_iff_getElem?.2 ⟨j, by rw [List.getElem?_take_of_lt hjk]; exact hj⟩
  have hpair : [u, s].Sublist (arranged .fastFirst slots) := by
    refine List.pair_sublist_mergeSort notAfter_trans notAfter_total hus ?_
    rw [eq_take_cons_drop hk]
    exact (List.singleton_sublist.2 hu).append (List.singleton_sublist.2 List.mem_cons_self)
  have hnodup : (passed ++ s :: rest).Nodup := he ▸ (arranged_perm _ _).nodup_iff.2 hn
  rw [he] at hpair
  obtain ⟨l, r, hlr, hl, hr⟩ := List.sublist_append_iff.1 hpair
  cases l with
  | cons a l =>
    rw [List.cons_append, List.cons.injEq] at hlr
    obtain ⟨rfl, -⟩ := hlr
    exact hl.subset List.mem_cons_self
  | nil =>
    -- then `s` stands behind itself
    rw [List.nil_append] at hlr
    subst hlr
    have hs : s ∉ rest := (List.nodup_cons.1 (List.nodup_append.1 hnodup).2.1).1
    cases hr with
    | cons _ h => exact absurd (h.subset (by simp)) hs
    | cons_cons _ h => exact absurd (h.subset (by simp)) hs

/-! ## How a search by speed is settled -/

/-- What succeeds is the slot at which the walk stops, or stands behind it. -/
theorem eq_or_mem_rest_of_succeeds (he : arranged .fastFirst slots = passed ++ s :: rest)
    (hp : ∀ u ∈ passed, u.Failed) {u : Slot} (hu : u ∈ slots) (hsu : u.Succeeds) :
    u = s ∨ u ∈ rest := by
  have hmem : u ∈ arranged .fastFirst slots := mem_arranged.2 hu
  rw [he, List.mem_append, List.mem_cons] at hmem
  exact hmem.resolve_left fun hup => (hp u hup).not_succeeds hsu

/-- Before the first slot that does not fail there is none that is never filled. -/
theorem exists_succeeds_of_arranged (h : ∃ s ∈ slots, s.Succeeds) :
    ∃ passed s rest, arranged .fastFirst slots = passed ++ s :: rest ∧
      (∀ u ∈ passed, u.Failed) ∧ s.Succeeds := by
  obtain ⟨w, hw, hwins⟩ := h
  rcases exists_decisive (arranged .fastFirst slots) with hall | ⟨passed, s, rest, he, hp, hs⟩
  · exact absurd hwins (hall w (mem_arranged.2 hw)).not_succeeds
  refine ⟨passed, s, rest, he, hp, hs.resolve_left fun hh => ?_⟩
  rcases eq_or_mem_rest_of_succeeds he hp hw hwins with rfl | hwr
  · exact hh.not_succeeds hwins
  · -- a slot that is never filled stands before none that is
    obtain ⟨t, f, hwf⟩ := hwins
    have := notAfter_of_mem_rest he w hwr
    rw [notAfter, hh.time?, hwf.time?] at this
    cases this

theorem firstInTime_of_arranged (hn : slots.Nodup)
    (he : arranged .fastFirst slots = passed ++ s :: rest) (hp : ∀ u ∈ passed, u.Failed)
    {t : Duration} {f : Found} (hw : s.Wins t f) : ∃ k, FirstInTime slots k t f := by
  have hs : s ∈ arranged .fastFirst slots := by rw [he]; simp
  obtain ⟨k, hk⟩ := List.mem_iff_getElem?.1 (mem_arranged.1 hs)
  refine ⟨k, ⟨s, hk, hw⟩, ?_⟩
  intro j u v g hj hu
  rcases eq_or_mem_rest_of_succeeds he hp (List.mem_of_getElem? hj) ⟨v, g, hu⟩ with rfl | hur
  · obtain ⟨hlt, -⟩ := List.getElem?_eq_some_iff.1 hj
    have hjk : j = k := (List.getElem?_inj hlt hn).1 (hj.trans hk.symm)
    exact Or.inr ⟨(hw.unique hu).1, hjk ▸ Nat.le_refl _⟩
  · have hle : t ≤ v := (notAfter_of_time? hw.time? hu.time?).1 (notAfter_of_mem_rest he u hur)
    rcases lt_or_eq_of_le hle with hlt | rfl
    · exact Or.inl hlt
    · -- one that came earlier in the request would have been passed, and it did not fail
      refine Or.inr ⟨rfl, Nat.not_lt.1 fun hjk => ?_⟩
      have hup := pair_order hn hj hk hjk ((notAfter_of_time? hu.time? hw.time?).2 (le_refl _)) he
      exact (hp u hup).not_succeeds ⟨t, g, hu⟩

/-- The slots that are looked at before `s` are filled before `s`. -/
theorem lastFilled_of_arranged (he : arranged .fastFirst slots = passed ++ s :: rest)
    {t : Duration} (ht : s.run.time? = some t) : LastFilled (passed ++ [s]) t := by
  refine ⟨⟨s, by simp, ht⟩, ?_⟩
  rintro v ⟨u, hu, hv⟩
  rcases List.mem_append.1 hu with hu | hu
  · exact (notAfter_of_time? hv ht).1 (notAfter_of_mem_passed he u hu)
  · rw [List.mem_singleton.1 hu, ht, Option.some.injEq] at hv
    exact hv ▸ le_refl _

end

theorem settle_fastFirst_wins {slots : List Slot} (hn : slots.Nodup)
    (h : ∃ s ∈ slots, s.Succeeds) :
    ∃ k t f, FirstInTime slots k t f ∧ settle .fastFirst slots = .settled t (.ok f) := by
  obtain ⟨passed, s, rest, he, hp, t, f, hw⟩ := exists_succeeds_of_arranged h
  obtain ⟨k, hfirst⟩ := firstInTime_of_arranged hn he hp hw
  refine ⟨k, t, f, hfirst, settle_of_settled_ok ?_⟩
  have hs : s ∈ passed ++ [s] := by simp
  have hlatest := lastFilled_latest hs hw.time?
  rw [he, settleInOrder_wins hp hw, hlatest.unique (lastFilled_of_arranged he hw.time?)]

theorem settle_fastFirst_hangs {slots : List Slot} (hs : ∀ s ∈ slots, ¬ s.Succeeds)
    (hh : ∃ s ∈ slots, s.Hangs) : settle .fastFirst slots = .pending := by
  refine settle_of_pending ?_
  rcases exists_decisive (arranged .fastFirst slots) with hall | ⟨passed, s, rest, he, hp, hd⟩
  · obtain ⟨u, hu, hhang⟩ := hh
    obtain ⟨t, e, hf⟩ := hall u (mem_arranged.2 hu)
    have := hf.time?
    rw [hhang.time?] at this; cases this
  · have hmem : s ∈ arranged .fastFirst slots := by rw [he]; simp
    have hhang : s.Hangs := hd.resolve_right (hs s (mem_arranged.1 hmem))
    rw [he, settleInOrder_hangs hp hhang]

/-- A search by speed waits for ever exactly if no engine succeeds and some engine never resolves. -/
theorem settle_fastFirst_pending_iff {slots : List Slot} (hn : slots.Nodup) :
    settle .fastFirst slots = .pending ↔
      (∀ s ∈ slots, ¬ s.Succeeds) ∧ ∃ s ∈ slots, s.Hangs := by
  constructor
  · intro hpending
    have hlost : ∀ s ∈ slots, ¬ s.Succeeds := by
      intro s hs hw
      obtain ⟨k, t, f, -, hsettle⟩ := settle_fastFirst_wins hn ⟨s, hs, hw⟩
      rw [hpending] at hsettle
      cases hsettle
    refine ⟨hlost, ?_⟩
    rcases exists_decisive (arranged .fastFirst slots) with hall | ⟨passed, s, rest, he, -, hs⟩
    · rw [settle_eq, settleInOrder_fails hall] at hpending
      cases hpending
    · have hmem : s ∈ arranged .fastFirst slots := by rw [he]; simp
      exact ⟨s, mem_arranged.1 hmem, hs.resolve_right (hlost s (mem_arranged.1 hmem))⟩
  · rintro ⟨hs, hh⟩
    exact settle_fastFirst_hangs hs hh

theorem settle_fastFirst_ok_iff {slots : List Slot} (hn : slots.Nodup) {t : Duration} {f : Found} :
    settle .fastFirst slots = .settled t (.ok f) ↔ ∃ k, FirstInTime slots k t f := by
  constructor
  · intro hs
    by_cases hw : ∃ s ∈ slots, s.Succeeds
    · obtain ⟨k, u, g, hfirst, hs'⟩ := settle_fastFirst_wins hn hw
      rw [hs] at hs'
      cases hs'
      exact ⟨k, hfirst⟩
    · obtain ⟨s, hmem, u, -, hwin⟩ := exists_wins_of_settle hs
      exact absurd ⟨s, hmem, u, f, hwin⟩ hw
  · rintro ⟨k, hfirst⟩
    obtain ⟨s, hk, hw⟩ := hfirst.1
    obtain ⟨j, u, g, hfirst', hs⟩ := settle_fastFirst_wins hn ⟨s, List.mem_of_getElem? hk, t, f, hw⟩
    obtain ⟨-, rfl, rfl⟩ := hfirst.unique hfirst'
    exact hs

/-! ## The call -/

/-- **Selection by speed.** A caller who still waits when the first success in time comes is given
it, at that very time, and is given nothing else; so there is a result exactly if some engine
succeeds while the caller waits. Where none succeeds, one that never resolves keeps the call
pending. -/
theorem search_fastFirst {x : Executor} {names : List String} {lineup : List Entry} {song : Song}
    {c : Context} (hr : x.registry.Reachable) (hl : x.registry.lineup names = .ok lineup)
    (hm : c.mode = .fastFirst) :
    (launch lineup song c).map (·.engine) = names ∧
    (∀ patience t f, (∃ call, x.search names song c patience = some call ∧
        call.answer = .found f ∧ call.elapsed = t) ↔
      (∃ k, FirstInTime (launch lineup song c) k t f) ∧ Awaits patience t) ∧
    (∀ patience, (∃ call f, x.search names song c patience = some call ∧
        call.answer = .found f) ↔
      ∃ s ∈ launch lineup song c, ∃ t f, s.Wins t f ∧ Awaits patience t) ∧
    ((∀ s ∈ launch lineup song c, ¬ s.Succeeds) → (∃ s ∈ launch lineup song c, s.Hangs) →
      StaysPending x names song c) := by
  have hn : (launch lineup song c).Nodup := launch_nodup hr hl song c
  have hfound : ∀ patience t f, (∃ call, x.search names song c patience = some call ∧
      call.answer = .found f ∧ call.elapsed = t) ↔
      (∃ k, FirstInTime (launch lineup song c) k t f) ∧ Awaits patience t := by
    intro patience t f
    rw [← settle_fastFirst_ok_iff hn, ← hm]
    constructor
    · rintro ⟨call, hcall, hf, rfl⟩
      exact settle_of_found hl hcall hf
    · rintro ⟨hs, hp⟩
      exact ⟨_, search_settled hl hs hp, rfl, rfl⟩
  refine ⟨launch_engines hr hl song c, hfound, ?_, ?_⟩
  · intro patience
    constructor
    · rintro ⟨call, f, hcall, hf⟩
      obtain ⟨⟨k, ⟨s, hk, hw⟩, -⟩, hp⟩ := (hfound patience call.elapsed f).1 ⟨call, hcall, hf, rfl⟩
      exact ⟨s, List.mem_of_getElem? hk, call.elapsed, f, hw, hp⟩
    · rintro ⟨s, hs, t, f, hw, hp⟩
      obtain ⟨k, u, g, hfirst, -⟩ := settle_fastFirst_wins hn ⟨s, hs, t, f, hw⟩
      obtain ⟨call, hcall, hg, -⟩ := (hfound patience u g).2
        ⟨⟨k, hfirst⟩, fun p hmem => lt_of_le_of_lt (hfirst.le hs hw) (hp p hmem)⟩
      exact ⟨call, g, hcall, hg⟩
  · intro hs hh
    exact staysPending_of_settle hl (by rw [hm]; exact settle_fastFirst_hangs hs hh)

/-- An engine that never resolves, one that answers in another's name, one that breaks off, and
three that succeed, two of them at one time. -/
def crowd : Executor := .ofScripts
  [{ id := "stuck", search := .hang },
   { id := "fake", after := .ofMillis 1, search := .pose "early" },
   { id := "broken", after := .ofMillis 2, search := .die },
   { id := "late", after := .ofMillis 20 },
   { id := "early", after := .ofMillis 10 },
   { id := "equal", after := .ofMillis 10 }]

theorem search_fastFirst_crowd :
    crowd.registry.Reachable ∧
    crowd.registry.lineup ["stuck", "fake", "broken", "late", "early", "equal"] =
      .ok crowd.registry.entries ∧
    ∃ call, crowd.search ["stuck", "fake", "broken", "late", "early", "equal"] { name := "" } {}
        (some (.ofMillis 11)) = some call ∧
      call.answer = .found { source := "early", identifier := "early-track" } ∧
      call.elapsed = .ofMillis 10 := by
  have hr : crowd.registry.Reachable := Executor.reachable_ofScripts _
  have hl : crowd.registry.lineup ["stuck", "fake", "broken", "late", "early", "equal"] =
    .ok crowd.registry.entries := rfl
  refine ⟨hr, hl, ?_⟩
  have hm : ({} : Context).mode = .fastFirst := rfl
  obtain ⟨-, hfound, -⟩ := @search_fastFirst _ _ _ { name := "" } _ hr hl hm
  refine (hfound (some (.ofMillis 11)) (.ofMillis 10) _).2 ⟨⟨4, ⟨_, rfl, rfl, rfl⟩, ?_⟩, ?_⟩
  · intro j s u g hj hw
    match j, hj with
    | 0, hj => cases hj; cases hw.1
    | 1, hj => cases hj; cases hw.1; exact absurd hw.2 (by decide)
    | 2, hj => cases hj; cases hw.1
    | 3, hj => cases hj; cases hw.1; exact Or.inl (by decide)
    | 4, hj => cases hj; cases hw.1; exact Or.inr ⟨rfl, by decide⟩
    | 5, hj => cases hj; cases hw.1; exact Or.inr ⟨rfl, by decide⟩
  · rintro p ⟨⟩; decide

end TrackResolver
