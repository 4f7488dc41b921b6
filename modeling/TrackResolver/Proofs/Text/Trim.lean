import Mathlib.Data.List.DropRight
import TrackResolver.Text.Blank

/-!
# Texts without the blanks at their ends

Results:
* `trim_eq_iff`: what is left of a text is the part of it that has blanks only on either side, and no
  blank at either end.
* `trim_trim`: nothing is left to take away.
* `trim_eq_empty_iff`: nothing is left of a text of blanks.
-/
namespace TrackResolver.Text

/-- `t` is `s` without the blanks at either end. -/
structure Trims (s t : String) : Prop where
  around : ∃ before after, s.toList = before ++ (t.toList ++ after) ∧
    (∀ c ∈ before, isBlank c = true) ∧ ∀ c ∈ after, isBlank c = true
  first : ∀ c ∈ t.toList.head?, isBlank c = false
  last : ∀ c ∈ t.toList.getLast?, isBlank c = false

theorem toList_trim (s : String) :
    (trim s).toList = (s.toList.dropWhile isBlank).rdropWhile isBlank := by
  rw [trim, String.toList_ofList]
  rfl

theorem dropWhile_of_first {cs : List Char} (h : ∀ c ∈ cs.head?, isBlank c = false) :
    cs.dropWhile isBlank = cs := by
  cases cs with
  | nil => rfl
  | cons c cs => exact List.dropWhile_cons_of_neg (by rw [h c rfl]; exact Bool.false_ne_true)

/-- Whatever is left begins with no blank. -/
theorem not_blank_of_mem_head? (cs : List Char) {c : Char} (h : c ∈ (cs.dropWhile isBlank).head?) :
    isBlank c = false := by
  have hfirst := List.head?_dropWhile_not isBlank cs
  rw [Option.mem_def.1 h] at hfirst
  exact hfirst

theorem trims_trim (s : String) : Trims s (trim s) where
  around := by
    refine ⟨s.toList.takeWhile isBlank, (s.toList.dropWhile isBlank).rtakeWhile isBlank, ?_, ?_, ?_⟩
    · rw [toList_trim, List.rdropWhile_append_rtakeWhile, List.takeWhile_append_dropWhile]
    · exact fun c hc => List.mem_takeWhile_imp hc
    · exact fun c hc => List.mem_rtakeWhile_imp hc
  first := by
    intro c hc
    refine not_blank_of_mem_head? s.toList ?_
    rw [toList_trim] at hc
    -- What is taken away at the end leaves the beginning, as long as anything is left
    obtain ⟨after, hafter⟩ := List.rdropWhile_prefix isBlank (l := s.toList.dropWhile isBlank)
    rw [← hafter, Option.mem_def, List.head?_append, Option.mem_def.1 hc, Option.some_or]
  last := by
    intro c hc
    refine not_blank_of_mem_head? (s.toList.dropWhile isBlank).reverse ?_
    rwa [toList_trim, List.rdropWhile, List.getLast?_reverse] at hc

theorem Trims.eq_trim {s t : String} (h : Trims s t) : trim s = t := by
  obtain ⟨before, after, hs, hbefore, hafter⟩ := h.around
  rw [← String.toList_inj, toList_trim, hs, List.dropWhile_append_of_pos hbefore]
  by_cases hempty : t.toList = []
  · rw [hempty, List.nil_append, List.dropWhile_eq_nil_iff.2 hafter, List.rdropWhile_nil]
  · have hfirst : ∀ c ∈ (t.toList ++ after).head?, isBlank c = false := by
      intro c hc
      rw [Option.mem_def, List.head?_append_of_ne_nil _ hempty] at hc
      exact h.first c hc
    have hlast : ∀ c ∈ t.toList.reverse.head?, isBlank c = false := by
      rw [List.head?_reverse]
      exact h.last
    rw [dropWhile_of_first hfirst, List.rdropWhile, List.reverse_append,
      List.dropWhile_append_of_pos (by simpa using hafter), dropWhile_of_first hlast,
      List.reverse_reverse]

theorem trim_eq_iff {s t : String} : trim s = t ↔ Trims s t := by
  constructor
  · intro h
    subst h
    exact trims_trim s
  · exact Trims.eq_trim

theorem trim_trim (s : String) : trim (trim s) = trim s := by
  refine Trims.eq_trim ⟨⟨[], [], ?_, nofun, nofun⟩, (trims_trim s).first, (trims_trim s).last⟩
  rw [List.nil_append, List.append_nil]

theorem trim_eq_empty_iff {s : String} : trim s = "" ↔ ∀ c ∈ s.toList, isBlank c = true := by
  rw [trim_eq_iff]
  constructor
  · intro h c hc
    obtain ⟨before, after, hs, hbefore, hafter⟩ := h.around
    rw [hs, String.toList_empty, List.nil_append, List.mem_append] at hc
    exact hc.elim (hbefore c) (hafter c)
  · intro h
    exact ⟨⟨s.toList, [], by simp, h, nofun⟩, nofun, nofun⟩

end TrackResolver.Text
