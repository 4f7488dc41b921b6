import Mathlib.Order.Bounds.Basic
import TrackResolver.Duration

/-!
# The order of durations

Durations are ordered as their nanoseconds are.

Results:
* `isGreatest_foldl_max`, `isGreatest_latest`: the running maximum over a list is its largest member.
-/
namespace TrackResolver.Duration

theorem ext_nanos {a b : Duration} (h : a.nanos = b.nanos) : a = b := by
  cases a; cases b; exact congrArg Duration.mk h

instance : LinearOrder Duration where
  le_refl a := Nat.le_refl a.nanos
  le_trans _ _ _ hab hbc := Nat.le_trans (m := _) hab hbc
  lt_iff_le_not_ge _ _ := Nat.lt_iff_le_and_not_ge
  le_antisymm _ _ hab hba := ext_nanos (Nat.le_antisymm hab hba)
  le_total a b := Nat.le_total a.nanos b.nanos
  toDecidableLE := inferInstance
  toDecidableEq := inferInstance
  toDecidableLT := inferInstance
  min_def a b := by
    apply ext_nanos
    show Nat.min a.nanos b.nanos = (if a.nanos ≤ b.nanos then a else b).nanos
    split
    · exact Nat.min_eq_left ‹_›
    · exact Nat.min_eq_right (by omega)
  max_def a b := by
    apply ext_nanos
    show Nat.max a.nanos b.nanos = (if a.nanos ≤ b.nanos then b else a).nanos
    split
    · exact Nat.max_eq_right ‹_›
    · exact Nat.max_eq_left (by omega)

theorem zero_le (a : Duration) : zero ≤ a := Nat.zero_le a.nanos

/-- The largest of the durations, and zero if there are none. -/
def latest (times : List Duration) : Duration := times.foldl max zero

theorem isGreatest_foldl_max (times : List Duration) :
    ∀ time, IsGreatest {t | t = time ∨ t ∈ times} (times.foldl max time) := by
  induction times with
  | nil => intro time; exact ⟨Or.inl rfl, by rintro t (rfl | ht); exacts [le_refl _, by cases ht]⟩
  | cons u rest ih =>
    intro time
    obtain ⟨hmem, hub⟩ := ih (max time u)
    refine ⟨?_, ?_⟩
    · rcases hmem with he | hm
      · rw [List.foldl_cons, he]
        rcases le_total time u with h | h
        · rw [max_eq_right h]; exact Or.inr List.mem_cons_self
        · rw [max_eq_left h]; exact Or.inl rfl
      · exact Or.inr (List.mem_cons_of_mem _ hm)
    · have hmax := hub (Or.inl rfl)
      rintro t (rfl | ht)
      · exact le_trans (le_max_left _ _) hmax
      · rcases List.mem_cons.1 ht with rfl | ht
        · exact le_trans (le_max_right _ _) hmax
        · exact hub (Or.inr ht)

theorem isGreatest_latest {times : List Duration} (h : times ≠ []) :
    IsGreatest {t | t ∈ times} (latest times) := by
  obtain ⟨hmem, hub⟩ := isGreatest_foldl_max times zero
  refine ⟨?_, fun t ht => hub (Or.inr ht)⟩
  rcases hmem with he | hm
  · obtain ⟨t, ht⟩ := List.exists_mem_of_ne_nil _ h
    have hle : t ≤ zero := by rw [← he]; exact hub (Or.inr ht)
    have htz : t = latest times := (le_antisymm hle (zero_le t)).trans he.symm
    exact htz ▸ ht
  · exact hm

end TrackResolver.Duration
