import Mathlib.Data.List.Basic
import TrackResolver.Proofs.Executor.Search

/-!
# Searches in which every engine fails

The failures are collected in the order in which the slots are looked at and then put back into the
order of the request. As no name is requested twice, that order is the only one they can take.

Results:
* `inOrderOf_eq`: a report, however shuffled, is put back into the order of the names.
* `settleInOrder_reported`: so slots that all fail settle alike in whatever order they are looked at.
* `search_allFailed`: the whole call, under either policy.
-/
namespace TrackResolver

open Slot Duration

/-! ## Putting a report in order -/

theorem inOrderOf_pairwise (names : List String) (r : FailureReport) :
    (r.inOrderOf names).failures.Pairwise fun a b => names.idxOf a.1 ≤ names.idxOf b.1 := by
  have h : (r.inOrderOf names).failures.Pairwise
      fun a b => decide (names.idxOf a.1 ≤ names.idxOf b.1) = true :=
    List.pairwise_mergeSort
      (fun a b c hab hbc => by simp only [decide_eq_true_eq] at *; omega)
      (fun a b => by simp only [Bool.or_eq_true, decide_eq_true_eq]; omega) r.failures
  exact h.imp fun hab => by simpa using hab

theorem idxOf_pairwise {names : List String} (hn : names.Nodup) :
    names.Pairwise fun a b => names.idxOf a ≤ names.idxOf b := by
  rw [List.pairwise_iff_getElem]
  intro i j hi hj hij
  rw [hn.idxOf_getElem i hi, hn.idxOf_getElem j hj]
  exact Nat.le_of_lt hij

theorem inOrderOf_eq {names : List String} (hn : names.Nodup)
    {shuffled failures : List (String × EngineError)} (hnames : failures.map (·.1) = names)
    (hp : shuffled.Perm failures) :
    FailureReport.inOrderOf names ⟨shuffled⟩ = ⟨failures⟩ := by
  have hperm : (FailureReport.inOrderOf names ⟨shuffled⟩).failures.Perm failures :=
    (List.mergeSort_perm _ _).trans hp
  have hsorted : failures.Pairwise fun a b => names.idxOf a.1 ≤ names.idxOf b.1 := by
    have := idxOf_pairwise hn
    rw [← hnames, List.pairwise_map, hnames] at this
    exact this
  have hanti : ∀ a b, a ∈ (FailureReport.inOrderOf names ⟨shuffled⟩).failures → b ∈ failures →
      names.idxOf a.1 ≤ names.idxOf b.1 → names.idxOf b.1 ≤ names.idxOf a.1 → a = b := by
    intro a b ha hb hab hba
    have ha := hperm.mem_iff.1 ha
    have hmem : a.1 ∈ names := by rw [← hnames]; exact List.mem_map_of_mem ha
    have hab := (List.idxOf_inj hmem).1 (Nat.le_antisymm hab hba)
    exact List.inj_on_of_nodup_map (hnames ▸ hn) ha hb hab
  have := List.Perm.eq_of_pairwise hanti (inOrderOf_pairwise names _) hsorted hperm
  exact congrArg FailureReport.mk this

/-! ## Slots that all fail -/

theorem map_fst_failures {slots : List Slot} (h : ∀ s ∈ slots, s.Failed) :
    (failuresOf slots).map (·.1) = slots.map (·.engine) := by
  induction slots with
  | nil => rfl
  | cons s rest ih =>
    obtain ⟨t, e, hf⟩ := h s List.mem_cons_self
    have hrest := ih fun u hu => h u (List.mem_cons_of_mem _ hu)
    rw [failuresOf] at hrest ⊢
    simp only [List.filterMap_cons, hf.failure?, List.map_cons, hrest]

theorem getElem?_failures {slots : List Slot} (h : ∀ s ∈ slots, s.Failed) : ∀ {k : Nat} {s : Slot}
    {t : Duration} {e : EngineError}, slots[k]? = some s → s.Fails t e →
    (failuresOf slots)[k]? = some (s.engine, e) := by
  induction slots with
  | nil => intro k s t e hk; cases hk
  | cons u rest ih =>
    intro k s t e hk hs
    obtain ⟨t', e', hf⟩ := h u List.mem_cons_self
    rw [failuresOf, List.filterMap_cons, hf.failure?]
    cases k with
    | zero => cases hk; rw [← hf.failure?, hs.failure?]; rfl
    | succ k => exact ih (fun v hv => h v (List.mem_cons_of_mem _ hv)) hk hs

theorem getElem?_failuresOf {slots : List Slot} (h : ∀ s ∈ slots, s.Failed) (k : Nat) :
    (failuresOf slots)[k]? = slots[k]?.bind (·.failure?) := by
  cases hk : slots[k]? with
  | some s =>
    obtain ⟨t, e, hf⟩ := h s (List.mem_of_getElem? hk)
    rw [getElem?_failures h hk hf, Option.bind_some, hf.failure?]
  | none =>
    have hlength : (failuresOf slots).length = slots.length := by
      rw [← List.length_map (·.1), map_fst_failures h, List.length_map]
    rw [Option.bind_none, List.getElem?_eq_none_iff, hlength]
    exact List.getElem?_eq_none_iff.1 hk

/-- Slots that all fail are reported as without a match exactly if each says so. -/
theorem allNoMatch_failuresOf {slots : List Slot} (hne : slots ≠ []) (h : ∀ s ∈ slots, s.Failed) :
    FailureReport.allNoMatch ⟨failuresOf slots⟩ = true ↔
      ∀ s ∈ slots, ∃ t, s.Fails t .noMatch := by
  have hnames := map_fst_failures h
  have hfull : (failuresOf slots).isEmpty = false := by
    rw [List.isEmpty_eq_false_iff]
    intro hnil
    rw [hnil, List.map_nil, eq_comm, List.map_eq_nil_iff] at hnames
    exact hne hnames
  rw [FailureReport.allNoMatch, hfull, Bool.not_false, Bool.true_and, List.all_eq_true]
  constructor
  · intro hall s hs
    obtain ⟨t, e, hf⟩ := h s hs
    have he := hall _ (List.mem_filterMap.2 ⟨s, hs, hf.failure?⟩)
    obtain rfl : e = .noMatch := of_decide_eq_true he
    exact ⟨t, hf⟩
  · intro hall entry hentry
    obtain ⟨s, hs, hentry⟩ := List.mem_filterMap.1 hentry
    obtain ⟨t, hf⟩ := hall s hs
    rw [hf.failure?, Option.some.injEq] at hentry
    subst hentry
    rfl

/-- A report with distinct names answers a look-up with the entry under that name. -/
theorem get?_of_mem {r : FailureReport} (hn : r.engines.Nodup) {engine : String} {e : EngineError}
    (h : (engine, e) ∈ r.failures) : r.get? engine = some e := by
  rw [FailureReport.get?]
  cases hf : r.failures.find? (·.1 = engine) with
  | none =>
    have := List.find?_eq_none.1 hf _ h
    simp at this
  | some entry =>
    have hname : entry.1 = engine := by simpa using List.find?_some hf
    have := List.inj_on_of_nodup_map hn (List.mem_of_find?_eq_some hf) h hname
    rw [this]; rfl

theorem LastFilled.perm {slots order : List Slot} {time : Duration} (hp : order.Perm slots)
    (h : LastFilled slots time) : LastFilled order time := by
  unfold LastFilled at *
  simpa only [hp.mem_iff] using h

/-- Slots that all fail settle with one report, and at one time, in whatever order they are looked
at. -/
theorem settleInOrder_reported {slots order : List Slot} (hn : (slots.map (·.engine)).Nodup)
    (hf : ∀ s ∈ slots, s.Failed) (hp : order.Perm slots) {time : Duration}
    (ht : LastFilled slots time) :
    (settleInOrder order).reported (slots.map (·.engine)) =
      .settled time (.error ⟨failuresOf slots⟩) := by
  obtain ⟨s, hs, hst⟩ := (LastFilled.perm hp ht).1
  have hlatest := (lastFilled_latest hs hst).unique (LastFilled.perm hp ht)
  rw [settleInOrder_fails fun u hu => hf u (hp.mem_iff.1 hu), hlatest]
  show Settlement.settled time (.error (FailureReport.inOrderOf _ _)) = _
  have hshuffled : (failuresOf order).Perm (failuresOf slots) := hp.filterMap _
  rw [inOrderOf_eq hn (map_fst_failures hf) hshuffled]

/-! ## The call -/

/-- **Failures are complete, in order, and the same under either policy.** If every engine fails,
the search answers at the latest of their times, with a report that has one entry for each name, in
the order of the request: what is held against that engine. The order in which the slots are looked
at makes no difference to it, and neither does the policy, for engines that come to the same under
both. -/
theorem search_allFailed {x : Executor} {names : List String} {lineup : List Entry} {song : Song}
    {c : Context} (hr : x.registry.Reachable) (hl : x.registry.lineup names = .ok lineup)
    (hf : ∀ s ∈ launch lineup song c, s.Failed) :
    ∃ report time, LastFilled (launch lineup song c) time ∧
      report.engines = names ∧ report.failures ≠ [] ∧
      (∀ (k : Nat) (s : Slot) t e, (launch lineup song c)[k]? = some s → s.Fails t e →
        report.failures[k]? = some (s.engine, e) ∧ report.get? s.engine = some e) ∧
      (∀ order, order.Perm (launch lineup song c) →
        (settleInOrder order).reported names = .settled time (.error report)) ∧
      ∀ c', launch lineup song c' = launch lineup song c → ∀ patience, Awaits patience time →
        ∃ call, x.search names song c' patience = some call ∧
          call.answer = .refused (.allFailed report) ∧ call.elapsed = time := by
  have hengines := launch_engines hr hl song c
  have hn := launch_engines_nodup hr hl song c
  obtain ⟨s, hs⟩ := List.exists_mem_of_ne_nil _ (launch_ne_nil hr hl song c)
  obtain ⟨t, e, hfails⟩ := hf s hs
  obtain ⟨time, htime⟩ : ∃ time, LastFilled (launch lineup song c) time :=
    ⟨_, lastFilled_latest hs hfails.time?⟩
  have horder : ∀ order, order.Perm (launch lineup song c) →
      (settleInOrder order).reported names =
        .settled time (.error ⟨failuresOf (launch lineup song c)⟩) := by
    intro order hp
    rw [← hengines]; exact settleInOrder_reported hn hf hp htime
  refine ⟨⟨failuresOf (launch lineup song c)⟩, time, htime, ?_, ?_, ?_, horder, ?_⟩
  · exact (map_fst_failures hf).trans hengines
  · exact List.ne_nil_of_mem (List.mem_filterMap.2 ⟨s, hs, hfails.failure?⟩)
  · intro k u v g hk hu
    have hentry := getElem?_failures hf hk hu
    refine ⟨hentry, get?_of_mem ?_ (List.mem_of_getElem? hentry)⟩
    rw [FailureReport.engines, map_fst_failures hf]; exact hn
  · intro c' hsame patience hp
    have hs' : settle c'.mode (launch lineup song c') =
        .settled time (.error ⟨failuresOf (launch lineup song c)⟩) := by
      rw [settle_eq, hsame, hengines]
      exact horder _ (arranged_perm c'.mode _)
    exact ⟨_, search_settled hl hs' hp, rfl, rfl⟩

/-- Engines that fail in each of the ways in which one can. -/
def hopeless : Executor := .ofScripts
  [{ id := "none", after := .ofMillis 3, search := .fail .noMatch },
   { id := "fake", after := .ofMillis 1, search := .pose "none" },
   { id := "broken", after := .ofMillis 2, search := .die },
   { id := "slow", deadline := some (.ofMillis 4), search := .hang }]

theorem search_allFailed_hopeless :
    hopeless.registry.Reachable ∧
    hopeless.registry.lineup ["none", "fake", "broken", "slow"] =
      .ok hopeless.registry.entries ∧
    ∃ report, report.engines = ["none", "fake", "broken", "slow"] ∧
      report.get? "fake" = some (.sourceMismatch "fake" "none") ∧
      report.get? "slow" = some (.timeout (.ofMillis 4)) ∧
      ∀ mode, ∃ call, hopeless.search ["none", "fake", "broken", "slow"] { name := "" }
          { mode := mode } none = some call ∧
        call.answer = .refused (.allFailed report) ∧ call.elapsed = .ofMillis 4 := by
  have hr : hopeless.registry.Reachable := Executor.reachable_ofScripts _
  have hl : hopeless.registry.lineup ["none", "fake", "broken", "slow"] =
    .ok hopeless.registry.entries := rfl
  obtain ⟨report, time, htime, hengines, -, hentry, -, hcall⟩ :=
    @search_allFailed _ _ _ { name := "" } {} hr hl (by
      intro s hs
      obtain ⟨entry, hmem, rfl⟩ := mem_launch.1 hs
      match entry, hmem with
      | _, .head _ => exact ⟨_, _, .own rfl⟩
      | _, .tail _ (.head _) => exact ⟨_, _, .foreign rfl (by decide)⟩
      | _, .tail _ (.tail _ (.head _)) => exact ⟨_, _, .died rfl⟩
      | _, .tail _ (.tail _ (.tail _ (.head _))) => exact ⟨_, _, .own rfl⟩)
  have hfake := (hentry 1 _ (.ofMillis 1) _ rfl (.foreign rfl (by decide))).2
  have hslow := (hentry 3 _ (.ofMillis 4) _ rfl (.own rfl)).2
  refine ⟨hr, hl, report, hengines, hfake, hslow, fun mode => ?_⟩
  obtain ⟨call, hc, ha, ht⟩ := hcall { mode := mode } (by cases mode <;> rfl) none (awaits_none _)
  have hlast : LastFilled (launch hopeless.registry.entries { name := "" } {}) (.ofMillis 4) :=
    lastFilled_latest (t := .ofMillis 3) List.mem_cons_self rfl
  exact ⟨call, hc, ha, ht.trans (htime.unique hlast)⟩

end TrackResolver
