import Mathlib.Data.List.InsertIdx
import TrackResolver.Registry

/-!
# Registries and their histories

A registry is only ever made by registering engines and taking names out, so every registry is
`after` some list of such calls. The list of entries and the positions of the names are changed
together; `WellFormed` says how they agree.

Results:
* `wellFormed_apply`: each call keeps a registry well formed.
* `wellFormed_of_reachable`: so every registry is.
* `WellFormed.get?_eq_some`, `WellFormed.exists_of_contains`: a look-up finds the engine of the entry
  under that name, and finds one for every name that has a position.
-/
namespace TrackResolver

/-- A call that changes a registry. -/
inductive Change where
  | register (e : Engine)
  | deregister (name : String)

namespace Registry

def apply (r : Registry) : Change → Registry
  | .register e => r.register e
  | .deregister name => (r.deregister name).2

/-- What these calls make, one after another, of an empty registry. -/
def after (history : List Change) : Registry := history.foldl apply empty

def Reachable (r : Registry) : Prop := ∃ history, r = after history

/-- The positions are those of the entries, and every engine stands under its own name. -/
structure WellFormed (r : Registry) : Prop where
  nodup : r.list.Nodup
  position : ∀ name p, r.positions.get? name = some p ↔ r.list[p]? = some name
  named : ∀ entry ∈ r.entries, entry.engine.id = entry.name

theorem wellFormed_empty : WellFormed empty where
  nodup := by simp [empty, list]
  position := by intro name p; simp [empty, list]
  named := by simp [empty]

/-! ## One call -/

theorem register_of_some {r : Registry} {e : Engine} {p : Nat}
    (hp : r.positions.get? e.id = some p) :
    r.register e = { r with entries := r.entries.set p ⟨e.id, e⟩ } := by
  unfold Registry.register; rw [hp]

theorem register_of_none {r : Registry} {e : Engine} (hp : r.positions.get? e.id = none) :
    r.register e = { entries := r.entries ++ [⟨e.id, e⟩]
                     positions := r.positions.insert e.id r.entries.length } := by
  unfold Registry.register; rw [hp]

theorem deregister_of_some {r : Registry} {name : String} {p : Nat}
    (hp : r.positions.get? name = some p) :
    (r.deregister name).2 =
      { entries := r.entries.eraseIdx p
        positions := (r.positions.erase name).map fun q => if p < q then q - 1 else q } := by
  unfold Registry.deregister; rw [hp]

theorem deregister_of_none {r : Registry} {name : String} (hp : r.positions.get? name = none) :
    r.deregister name = (none, r) := by
  unfold Registry.deregister; rw [hp]

/-- The new engine takes the old one's place in the list. -/
theorem list_register_of_some {r : Registry} (h : r.WellFormed) {e : Engine} {p : Nat}
    (hp : r.positions.get? e.id = some p) : (r.register e).list = r.list := by
  obtain ⟨hlt, heq⟩ := List.getElem?_eq_some_iff.1 ((h.position e.id p).1 hp)
  have hset : r.list.set p e.id = r.list := by
    rw [← heq]; exact List.set_getElem_self hlt
  rw [register_of_some hp, list, List.map_set]
  exact hset

theorem list_register_of_none {r : Registry} {e : Engine} (hp : r.positions.get? e.id = none) :
    (r.register e).list = r.list ++ [e.id] := by
  rw [register_of_none hp]; simp [list]

theorem list_deregister_of_some {r : Registry} {name : String} {p : Nat}
    (hp : r.positions.get? name = some p) :
    (r.deregister name).2.list = r.list.eraseIdx p := by
  rw [deregister_of_some hp]; simp [list, List.eraseIdx_map]

/-- A name that has no position is not in the list. -/
theorem WellFormed.not_mem_list {r : Registry} (h : r.WellFormed) {name : String}
    (hn : r.positions.get? name = none) : name ∉ r.list := by
  intro hm
  obtain ⟨p, hp⟩ := List.mem_iff_getElem?.1 hm
  rw [(h.position name p).2 hp] at hn
  cases hn

theorem getElem?_concat_eq_some {l : List String} {a b : String} {q : Nat} :
    (l ++ [a])[q]? = some b ↔ l[q]? = some b ∨ q = l.length ∧ a = b := by
  rcases Nat.lt_trichotomy q l.length with hlt | rfl | hgt
  · rw [List.getElem?_append_left hlt]
    exact ⟨Or.inl, fun h => h.resolve_right fun hq => by omega⟩
  · simp
  · rw [List.getElem?_eq_none (by simp; omega), List.getElem?_eq_none (by omega)]
    exact ⟨Or.inl, fun h => h.resolve_right fun hq => by omega⟩

/-- What stands behind a removed position moves one place forward. -/
theorem getElem?_eraseIdx_eq_some {l : List String} {p q : Nat} {b : String} :
    (l.eraseIdx p)[q]? = some b ↔
      ∃ i, l[i]? = some b ∧ i ≠ p ∧ (if p < i then i - 1 else i) = q := by
  rw [List.getElem?_eraseIdx]
  constructor
  · intro hq
    split at hq
    · exact ⟨q, hq, by omega, if_neg (by omega)⟩
    · exact ⟨q + 1, hq, by omega, if_pos (by omega)⟩
  · rintro ⟨i, hi, hip, rfl⟩
    by_cases hlt : p < i
    · rw [if_pos hlt, if_neg (by omega), show i - 1 + 1 = i by omega]; exact hi
    · rw [if_neg hlt, if_pos (by omega)]; exact hi

theorem WellFormed.register {r : Registry} (h : r.WellFormed) (e : Engine) :
    (r.register e).WellFormed := by
  cases hp : r.positions.get? e.id with
  | some p =>
    have hlist := list_register_of_some h hp
    refine ⟨by rw [hlist]; exact h.nodup, ?_, ?_⟩
    · intro name q
      rw [hlist, register_of_some hp]; exact h.position name q
    · intro entry hm
      rw [register_of_some hp] at hm
      rcases List.mem_or_eq_of_mem_set hm with hm | rfl
      · exact h.named entry hm
      · rfl
  | none =>
    have hnew := h.not_mem_list hp
    have hlist := list_register_of_none hp
    refine ⟨?_, ?_, ?_⟩
    · rw [hlist, List.nodup_append]
      refine ⟨h.nodup, by simp, ?_⟩
      intro a ha b hb hab
      rw [List.mem_singleton] at hb; subst hb; subst hab
      exact hnew ha
    · intro name q
      have hlen : r.entries.length = r.list.length := by simp [list]
      rw [hlist, register_of_none hp, Dict.get?_insert, hlen, getElem?_concat_eq_some]
      by_cases hn : name = e.id
      · subst hn
        have hno : ¬ r.list[q]? = some e.id := fun hq => hnew (List.mem_of_getElem? hq)
        simp only [if_true, Option.some.injEq, hno, false_or, and_true]
        exact eq_comm
      · have hne : ¬ e.id = name := fun he => hn he.symm
        simp only [hn, hne, if_false, and_false, or_false]
        exact h.position name q
    · intro entry hm
      rw [register_of_none hp] at hm
      rcases List.mem_append.1 hm with hm | hm
      · exact h.named entry hm
      · rw [List.mem_singleton.1 hm]

theorem WellFormed.deregister {r : Registry} (h : r.WellFormed) (name : String) :
    (r.deregister name).2.WellFormed := by
  cases hp : r.positions.get? name with
  | none => rw [deregister_of_none hp]; exact h
  | some p =>
    have hlist := list_deregister_of_some hp
    refine ⟨by rw [hlist]; exact h.nodup.eraseIdx p, ?_, ?_⟩
    · intro other q
      rw [hlist, deregister_of_some hp, Dict.get?_map, Dict.get?_erase, getElem?_eraseIdx_eq_some]
      by_cases ho : other = name
      · -- the name that was taken out stands nowhere else in the list
        subst ho
        rw [if_pos rfl]
        constructor
        · intro hq; cases hq
        · rintro ⟨i, hi, hip, -⟩
          rw [← h.position, hp] at hi
          exact absurd (Option.some.inj hi).symm hip
      · rw [if_neg ho, Option.map_eq_some_iff]
        refine exists_congr fun i => ?_
        rw [h.position]
        refine and_congr_right fun hi => (and_iff_right ?_).symm
        rintro rfl
        rw [(h.position name i).1 hp] at hi
        exact ho (Option.some.inj hi).symm
    · intro entry hm
      rw [deregister_of_some hp] at hm
      exact h.named entry (List.mem_of_mem_eraseIdx hm)

theorem wellFormed_apply {r : Registry} (h : r.WellFormed) (change : Change) :
    (r.apply change).WellFormed := by
  cases change with
  | register e => exact h.register e
  | deregister name => exact h.deregister name

/-! ## Whole histories -/

theorem wellFormed_foldl (history : List Change) :
    ∀ r : Registry, r.WellFormed → (history.foldl apply r).WellFormed := by
  induction history with
  | nil => intro r h; exact h
  | cons change rest ih => intro r h; exact ih _ (wellFormed_apply h change)

theorem wellFormed_of_reachable {r : Registry} (h : r.Reachable) : r.WellFormed := by
  obtain ⟨history, rfl⟩ := h
  exact wellFormed_foldl history _ wellFormed_empty

theorem reachable_ofList (engines : List Engine) : (ofList engines).Reachable := by
  refine ⟨engines.map .register, ?_⟩
  unfold after ofList
  rw [List.foldl_map]
  rfl

/-! ## Look-ups -/

/-- At the position of a name stands its entry. -/
theorem WellFormed.entry_of_position {r : Registry} (h : r.WellFormed) {name : String} {p : Nat}
    (hp : r.positions.get? name = some p) :
    ∃ entry, r.entries[p]? = some entry ∧ entry.name = name := by
  have hn := (h.position name p).1 hp
  rw [list, List.getElem?_map] at hn
  exact Option.map_eq_some_iff.1 hn

theorem WellFormed.get?_eq_some {r : Registry} (h : r.WellFormed) {name : String} {e : Engine} :
    r.get? name = some e ↔ ⟨name, e⟩ ∈ r.entries := by
  unfold Registry.get?
  constructor
  · intro hg
    obtain ⟨p, hp, he⟩ := Option.bind_eq_some_iff.1 hg
    obtain ⟨entry, hentry, rfl⟩ := h.entry_of_position hp
    rw [hentry, Option.map_some, Option.some.injEq] at he
    subst he
    exact List.mem_of_getElem? hentry
  · intro hm
    obtain ⟨p, hp⟩ := List.mem_iff_getElem?.1 hm
    have hn : r.list[p]? = some name := by rw [list, List.getElem?_map, hp]; rfl
    rw [(h.position name p).2 hn, Option.bind_some, hp]
    rfl

/-- The engine under a name carries that name. -/
theorem WellFormed.id_of_get? {r : Registry} (h : r.WellFormed) {name : String} {e : Engine}
    (hg : r.get? name = some e) : e.id = name :=
  h.named _ (h.get?_eq_some.1 hg)

theorem WellFormed.exists_of_contains {r : Registry} (h : r.WellFormed) {name : String}
    (hc : r.contains name = true) : ∃ e, r.get? name = some e := by
  obtain ⟨p, hp⟩ := Option.isSome_iff_exists.1 hc
  obtain ⟨entry, hentry, -⟩ := h.entry_of_position hp
  exact ⟨entry.engine, by rw [Registry.get?, hp, Option.bind_some, hentry]; rfl⟩

theorem contains_of_get? {r : Registry} {name : String} {e : Engine} (h : r.get? name = some e) :
    r.contains name = true := by
  obtain ⟨p, hp, -⟩ := Option.bind_eq_some_iff.1 h
  exact Option.isSome_iff_exists.2 ⟨p, hp⟩

end Registry

end TrackResolver
