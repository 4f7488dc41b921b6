import TrackResolver.Proofs.Duration
import TrackResolver.Search

/-!
# The walk over the slots

What a slot comes to is one of three things: it `Hangs`, it `Wins` with a result that carries its
engine's name, or it `Fails`. `settleFrom` passes over slots that fail and stops at the first that
does not.

Results:
* `settleFrom_cons_fails`, `settleFrom_cons_wins`, `settleFrom_cons_hangs`: one step of the walk.
* `settleFrom_append`: a stretch of slots that fail is passed over at the latest of their times, and
  their failures are reported in order.
* `settleInOrder_wins`, `settleInOrder_hangs`, `settleInOrder_fails`: the three ways in which a walk
  ends, and `exists_decisive` says that there is no other.
* `settle_eq`: under either policy a search is a walk over the slots, `arranged` by the policy.
* `exists_wins_of_settle`: a search that settles with a result has a slot that wins with it.
-/
namespace TrackResolver

open Duration (latest)

namespace Slot

/-- The engine gives a result of its own at time `t`. -/
def Wins (s : Slot) (t : Duration) (f : Found) : Prop :=
  s.run = .finishes t (.answered (.ok f)) ∧ f.source = s.engine

/-- The engine fails at time `t`, and `e` is what the call holds against it: its own error, the
mismatch if its result carries another name, and a provider error if it broke off. -/
inductive Fails (s : Slot) (t : Duration) : EngineError → Prop
  | own {e : EngineError} (h : s.run = .finishes t (.answered (.error e))) : s.Fails t e
  | foreign {f : Found} (h : s.run = .finishes t (.answered (.ok f))) (hne : f.source ≠ s.engine) :
    s.Fails t (.sourceMismatch s.engine f.source)
  | died (h : s.run = .finishes t .died) :
    s.Fails t (.provider "engine task ended without reporting a result")

/-- The engine never resolves. -/
def Hangs (s : Slot) : Prop := s.run = .hangs

def Succeeds (s : Slot) : Prop := ∃ t f, s.Wins t f

def Failed (s : Slot) : Prop := ∃ t e, s.Fails t e

/-- The failure of a slot as a report lists it. -/
def failure? (s : Slot) : Option (String × EngineError) :=
  match s.run with
  | .hangs => none
  | .finishes _ ending =>
    match judge s.engine ending with
    | .ok _ => none
    | .error e => some (s.engine, e)

/-- The failures of these slots, in order. -/
def failuresOf (slots : List Slot) : List (String × EngineError) := slots.filterMap (·.failure?)

/-- The times at which these slots are filled. -/
def times (slots : List Slot) : List Duration := slots.filterMap (·.run.time?)

/-- The last of these slots that is ever filled is filled at `time`. -/
def LastFilled (slots : List Slot) (time : Duration) : Prop :=
  IsGreatest {t | ∃ s ∈ slots, s.run.time? = some t} time

/-! ## One slot -/

theorem hangs_or_wins_or_fails (s : Slot) : s.Hangs ∨ s.Succeeds ∨ s.Failed := by
  cases hr : s.run with
  | hangs => exact Or.inl hr
  | finishes t ending =>
    right
    cases ending with
    | died => exact Or.inr ⟨t, _, .died hr⟩
    | answered answer =>
      cases answer with
      | error e => exact Or.inr ⟨t, e, .own hr⟩
      | ok f =>
        by_cases hf : f.source = s.engine
        · exact Or.inl ⟨t, f, hr, hf⟩
        · exact Or.inr ⟨t, _, .foreign hr hf⟩

theorem Wins.judge {s : Slot} {t : Duration} {f : Found} (h : s.Wins t f) :
    judge s.engine (.answered (.ok f)) = .ok f := by
  rw [Slot.judge, Found.ensureFrom, if_pos h.2]; rfl

theorem Fails.exists_judge {s : Slot} {t : Duration} {e : EngineError} (h : s.Fails t e) :
    ∃ ending, s.run = .finishes t ending ∧ Slot.judge s.engine ending = .error e := by
  cases h with
  | own h => exact ⟨_, h, rfl⟩
  | foreign h hne => exact ⟨_, h, by rw [Slot.judge, Found.ensureFrom, if_neg hne]; rfl⟩
  | died h => exact ⟨_, h, rfl⟩

theorem Wins.unique {s : Slot} {t u : Duration} {f g : Found} (h : s.Wins t f) (h' : s.Wins u g) :
    t = u ∧ f = g := by
  have he := h.1.symm.trans h'.1
  simp only [Run.finishes.injEq, Ending.answered.injEq, Except.ok.injEq] at he
  exact he

theorem Failed.not_succeeds {s : Slot} (h : s.Failed) : ¬ s.Succeeds := by
  rintro ⟨u, f, hw⟩
  obtain ⟨t, e, hf⟩ := h
  obtain ⟨ending, hr, hj⟩ := hf.exists_judge
  rw [hw.1] at hr
  cases hr
  rw [hw.judge] at hj
  cases hj

theorem Wins.time? {s : Slot} {t : Duration} {f : Found} (h : s.Wins t f) : s.run.time? = some t := by
  rw [h.1]; rfl

theorem Fails.time? {s : Slot} {t : Duration} {e : EngineError} (h : s.Fails t e) :
    s.run.time? = some t := by
  obtain ⟨ending, hr, -⟩ := h.exists_judge
  rw [hr]; rfl

theorem Hangs.time? {s : Slot} (h : s.Hangs) : s.run.time? = none := by
  rw [Hangs] at h; rw [h]; rfl

theorem Hangs.not_succeeds {s : Slot} (h : s.Hangs) : ¬ s.Succeeds := by
  rintro ⟨t, f, hw⟩
  have ht := hw.time?
  rw [h.time?] at ht
  cases ht

theorem Fails.failure? {s : Slot} {t : Duration} {e : EngineError} (h : s.Fails t e) :
    s.failure? = some (s.engine, e) := by
  obtain ⟨ending, hr, hj⟩ := h.exists_judge
  simp only [Slot.failure?, hr, hj]

theorem Fails.unique {s : Slot} {t u : Duration} {d e : EngineError} (h : s.Fails t d)
    (h' : s.Fails u e) : t = u ∧ d = e := by
  have htime := h.time?.symm.trans h'.time?
  have hfailure := h.failure?.symm.trans h'.failure?
  simp only [Option.some.injEq, Prod.mk.injEq, true_and] at htime hfailure
  exact ⟨htime, hfailure⟩

/-! ## Times -/

theorem mem_times {slots : List Slot} {t : Duration} :
    t ∈ times slots ↔ ∃ s ∈ slots, s.run.time? = some t := List.mem_filterMap

theorem times_append (l m : List Slot) : times (l ++ m) = times l ++ times m :=
  List.filterMap_append

theorem lastFilled_latest {slots : List Slot} {s : Slot} {t : Duration} (hs : s ∈ slots)
    (ht : s.run.time? = some t) : LastFilled slots (latest (times slots)) := by
  have hne : times slots ≠ [] := List.ne_nil_of_mem (mem_times.2 ⟨s, hs, ht⟩)
  have h := Duration.isGreatest_latest hne
  simp only [mem_times] at h
  exact h

theorem LastFilled.unique {slots : List Slot} {t u : Duration} (ht : LastFilled slots t)
    (hu : LastFilled slots u) : t = u := IsGreatest.unique ht hu

end Slot

open Slot

/-! ## One step -/

section
variable {s : Slot} {time t : Duration} {failures : List (String × EngineError)}

theorem settleFrom_cons_fails {e : EngineError} (h : s.Fails t e) (rest : List Slot) :
    settleFrom time failures (s :: rest) =
      settleFrom (max time t) (failures ++ [(s.engine, e)]) rest := by
  obtain ⟨ending, hr, hj⟩ := h.exists_judge
  simp only [settleFrom, hr, hj]

theorem settleFrom_cons_wins {f : Found} (h : s.Wins t f) (rest : List Slot) :
    settleFrom time failures (s :: rest) = .settled (max time t) (.ok f) := by
  simp only [settleFrom, h.1, h.judge]

theorem settleFrom_cons_hangs (h : s.Hangs) (rest : List Slot) :
    settleFrom time failures (s :: rest) = .pending := by
  rw [Hangs] at h
  simp only [settleFrom, h]

end

/-! ## The whole walk -/

theorem eq_take_cons_drop {slots : List Slot} {k : Nat} {s : Slot} (h : slots[k]? = some s) :
    slots = slots.take k ++ s :: slots.drop (k + 1) := by
  obtain ⟨hk, rfl⟩ := List.getElem?_eq_some_iff.1 h
  rw [← List.drop_eq_getElem_cons hk, List.take_append_drop]

theorem take_succ_of_getElem? {slots : List Slot} {k : Nat} {s : Slot} (h : slots[k]? = some s) :
    slots.take (k + 1) = slots.take k ++ [s] := by
  rw [List.take_add_one, h]; rfl

theorem settleFrom_append {passed : List Slot} (h : ∀ s ∈ passed, s.Failed) (rest : List Slot) :
    ∀ (time : Duration) (failures : List (String × EngineError)),
      settleFrom time failures (passed ++ rest) =
        settleFrom ((times passed).foldl max time) (failures ++ failuresOf passed)
          rest := by
  induction passed with
  | nil => intro time failures; simp [times, failuresOf]
  | cons s passed ih =>
    intro time failures
    obtain ⟨t, e, hf⟩ := h s List.mem_cons_self
    have hrest := ih (fun u hu => h u (List.mem_cons_of_mem _ hu)) (max time t)
      (failures ++ [(s.engine, e)])
    rw [List.cons_append, settleFrom_cons_fails hf, hrest]
    simp only [times, failuresOf, List.filterMap_cons, hf.time?, hf.failure?, List.foldl_cons,
      List.append_assoc, List.singleton_append]

theorem settleInOrder_wins {passed : List Slot} (h : ∀ s ∈ passed, s.Failed) {s : Slot}
    {t : Duration} {f : Found} (hw : s.Wins t f) (rest : List Slot) :
    settleInOrder (passed ++ s :: rest) = .settled (latest (times (passed ++ [s]))) (.ok f) := by
  rw [settleInOrder, settleFrom_append h, settleFrom_cons_wins hw, times_append, latest,
    List.foldl_append]
  simp [times, hw.time?]

theorem settleInOrder_hangs {passed : List Slot} (h : ∀ s ∈ passed, s.Failed) {s : Slot}
    (hs : s.Hangs) (rest : List Slot) : settleInOrder (passed ++ s :: rest) = .pending := by
  rw [settleInOrder, settleFrom_append h, settleFrom_cons_hangs hs]

theorem settleInOrder_fails {slots : List Slot} (h : ∀ s ∈ slots, s.Failed) :
    settleInOrder slots =
      .settled (latest (times slots)) (.error ⟨failuresOf slots⟩) := by
  have hwalk := settleFrom_append h [] .zero []
  rw [List.append_nil, List.nil_append] at hwalk
  exact hwalk

/-- Slots that do not all fail have a first one that does not. -/
theorem exists_decisive (slots : List Slot) : (∀ s ∈ slots, s.Failed) ∨
    ∃ passed s rest, slots = passed ++ s :: rest ∧ (∀ u ∈ passed, u.Failed) ∧
      (s.Hangs ∨ s.Succeeds) := by
  induction slots with
  | nil => exact Or.inl (by simp)
  | cons s rest ih =>
    have hstop : (s.Hangs ∨ s.Succeeds) → ∃ passed u others, s :: rest = passed ++ u :: others ∧
        (∀ v ∈ passed, v.Failed) ∧ (u.Hangs ∨ u.Succeeds) :=
      fun h => ⟨[], s, rest, rfl, by simp, h⟩
    rcases s.hangs_or_wins_or_fails with hh | hw | hf
    · exact Or.inr (hstop (Or.inl hh))
    · exact Or.inr (hstop (Or.inr hw))
    · rcases ih with hall | ⟨passed, u, others, rfl, hp, hu⟩
      · left
        intro v hv
        rcases List.mem_cons.1 hv with rfl | hv
        · exact hf
        · exact hall v hv
      · right
        refine ⟨s :: passed, u, others, rfl, ?_, hu⟩
        intro v hv
        rcases List.mem_cons.1 hv with rfl | hv
        · exact hf
        · exact hp v hv

/-- A walk that ends with a result has stopped at a slot that wins with it. -/
theorem exists_wins_of_settleInOrder {slots : List Slot} {time : Duration} {f : Found}
    (h : settleInOrder slots = .settled time (.ok f)) : ∃ s ∈ slots, ∃ t ≤ time, s.Wins t f := by
  rcases exists_decisive slots with hall | ⟨passed, s, rest, rfl, hp, hs⟩
  · rw [settleInOrder_fails hall] at h; cases h
  · rcases hs with hh | ⟨t, g, hw⟩
    · rw [settleInOrder_hangs hp hh] at h; cases h
    · rw [settleInOrder_wins hp hw] at h
      cases h
      have hs : s ∈ passed ++ [s] := by simp
      exact ⟨s, by simp, t, (lastFilled_latest hs hw.time?).2 ⟨s, hs, hw.time?⟩, hw⟩

/-! ## Either policy is a walk -/

/-- The order in which a search looks at its slots. -/
def arranged (mode : SearchMode) (slots : List Slot) : List Slot :=
  match mode with
  | .orderFirst => slots
  | .fastFirst => slots.mergeSort notAfter

theorem settle_eq (mode : SearchMode) (slots : List Slot) :
    settle mode slots = (settleInOrder (arranged mode slots)).reported (slots.map (·.engine)) := by
  cases mode <;> rfl

theorem arranged_perm (mode : SearchMode) (slots : List Slot) :
    (arranged mode slots).Perm slots := by
  cases mode with
  | orderFirst => exact List.Perm.refl _
  | fastFirst => exact List.mergeSort_perm _ _

theorem mem_arranged {mode : SearchMode} {slots : List Slot} {s : Slot} :
    s ∈ arranged mode slots ↔ s ∈ slots := (arranged_perm mode slots).mem_iff

theorem settle_of_settled_ok {mode : SearchMode} {slots : List Slot} {time : Duration} {f : Found}
    (h : settleInOrder (arranged mode slots) = .settled time (.ok f)) :
    settle mode slots = .settled time (.ok f) := by
  rw [settle_eq, h]; rfl

theorem settle_of_pending {mode : SearchMode} {slots : List Slot}
    (h : settleInOrder (arranged mode slots) = .pending) : settle mode slots = .pending := by
  rw [settle_eq, h]; rfl

theorem exists_wins_of_settle {mode : SearchMode} {slots : List Slot} {time : Duration} {f : Found}
    (h : settle mode slots = .settled time (.ok f)) : ∃ s ∈ slots, ∃ t ≤ time, s.Wins t f := by
  rw [settle_eq] at h
  cases hw : settleInOrder (arranged mode slots) with
  | pending => rw [hw] at h; cases h
  | settled t result =>
    rw [hw] at h
    cases result with
    | error report => cases h
    | ok g =>
      cases h
      obtain ⟨s, hs, hwins⟩ := exists_wins_of_settleInOrder hw
      exact ⟨s, mem_arranged.1 hs, hwins⟩

end TrackResolver
