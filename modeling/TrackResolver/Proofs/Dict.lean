import Mathlib.Data.List.Pairwise
import Mathlib.Data.List.Perm.Basic
import TrackResolver.Dict

/-!
# Putting dictionaries together

Entries under distinct names can be put in one after another in any order: what stands under a name
in the end comes from the one entry that has the name.

Results:
* `Dict.get?_foldl_upsert`: what a look-up finds after entries have been put in, each of them made of
  what stood under its name.
* `Dict.ofList_of_perm`: the entries of a dictionary, put together in any order.
* `Dict.get?_union`: what a look-up finds in a union.
* `Dict.get?_ofList`, `Dict.ofList_overwritten`: of several entries under one name the last counts.
-/
namespace TrackResolver.Dict

variable {α β : Type}

/-! ## Entries under distinct names -/

theorem find_eq_some {k : String} {v : α} {l : List (String × α)} (hl : (l.map (·.1)).Nodup) :
    find k l = some v ↔ (k, v) ∈ l := by
  induction l with
  | nil => simp [find]
  | cons a rest ih =>
    obtain ⟨k', v'⟩ := a
    obtain ⟨hfresh, hrest⟩ := List.nodup_cons.1 hl
    rw [find, List.mem_cons, Prod.mk.injEq]
    by_cases hk : k = k'
    · subst hk
      have hnone : (k, v) ∉ rest := fun hmem => hfresh (List.mem_map_of_mem (f := (·.1)) hmem)
      simp [hnone, eq_comm]
    · simp [hk, ih hrest]

theorem nodup_names (d : Dict α) : (d.entries.map (·.1)).Nodup := by
  refine List.pairwise_map.2 (d.sorted.imp fun hlt heq => ?_)
  rw [heq] at hlt
  exact String.lt_irrefl _ hlt

/-- A look-up does not depend on the order of the entries. -/
theorem find_perm {l m : List (String × α)} (h : l.Perm m) (hm : (m.map (·.1)).Nodup) (k : String) :
    find k l = find k m := by
  have hl : (l.map (·.1)).Nodup := (h.map _).nodup_iff.2 hm
  refine Option.ext fun v => ?_
  rw [find_eq_some hl, find_eq_some hm, h.mem_iff]

theorem exists_find {k : String} {l : List (String × α)} (h : k ∈ l.map (·.1)) :
    ∃ v, find k l = some v := by
  induction l with
  | nil => cases h
  | cons a rest ih =>
    obtain ⟨k', v'⟩ := a
    by_cases hk : k = k'
    · exact ⟨v', if_pos hk⟩
    · obtain ⟨v, hv⟩ := ih ((List.mem_cons.1 h).resolve_left hk)
      exact ⟨v, by rw [find, if_neg hk, hv]⟩

theorem mem_keys (d : Dict α) (k : String) : k ∈ d.keys ↔ (d.get? k).isSome = true := by
  refine ⟨fun hk => ?_, fun hk => ?_⟩
  · obtain ⟨v, hv⟩ := exists_find hk
    exact Option.isSome_iff_exists.2 ⟨v, hv⟩
  · obtain ⟨v, hv⟩ := Option.isSome_iff_exists.1 hk
    exact List.mem_map_of_mem (f := (·.1)) ((find_eq_some d.nodup_names).1 hv)

/-! ## One entry after another -/

/-- Each entry finds under its name what stood there at first, as no other has that name. -/
theorem get?_foldl_upsert {l : List (String × β)} (hl : (l.map (·.1)).Nodup)
    (f : Option α → β → α) (d : Dict α) (k : String) :
    (l.foldl (fun d e => d.insert e.1 (f (d.get? e.1) e.2)) d).get? k =
      ((find k l).map (f (d.get? k))).or (d.get? k) := by
  induction l generalizing d with
  | nil => rfl
  | cons a rest ih =>
    obtain ⟨k', v'⟩ := a
    obtain ⟨hfresh, hrest⟩ := List.nodup_cons.1 hl
    rw [List.foldl_cons, ih hrest, get?_insert, find]
    by_cases hk : k = k'
    · subst hk
      have hnone : find k rest = none :=
        find_eq_none fun e he heq => hfresh (heq ▸ List.mem_map_of_mem (f := (·.1)) he)
      simp [hnone]
    · simp [hk]

theorem get?_foldl_insert {l : List (String × α)} (hl : (l.map (·.1)).Nodup) (d : Dict α)
    (k : String) :
    (l.foldl (fun d e => d.insert e.1 e.2) d).get? k = (find k l).or (d.get? k) := by
  rw [get?_foldl_upsert hl fun _ v => v, Option.map_id']

/-- The entries of a dictionary make it up in any order. -/
theorem ofList_of_perm {d : Dict α} {l : List (String × α)} (h : l.Perm d.entries) : ofList l = d := by
  have hnames : (l.map (·.1)).Nodup := (h.map _).nodup_iff.2 d.nodup_names
  refine ext_get? fun k => ?_
  rw [ofList, get?_foldl_insert hnames, get?_empty, Option.or_none, find_perm h d.nodup_names, get?]

theorem get?_union (d e : Dict α) (k : String) :
    (d.union e).get? k = (e.get? k).or (d.get? k) :=
  get?_foldl_insert e.nodup_names d k

/-! ## Entries under one name -/

theorem find_append (k : String) (l m : List (String × α)) :
    find k (l ++ m) = (find k l).or (find k m) := by
  induction l with
  | nil => exact Option.none_or.symm
  | cons a rest ih =>
    obtain ⟨k', v'⟩ := a
    rw [List.cons_append, find, find, ih]
    split <;> rfl

theorem get?_foldl_insert_reverse (l : List (String × α)) (d : Dict α) (k : String) :
    (l.foldl (fun d e => d.insert e.1 e.2) d).get? k = (find k l.reverse).or (d.get? k) := by
  induction l generalizing d with
  | nil => rfl
  | cons a rest ih =>
    rw [List.foldl_cons, ih, get?_insert, List.reverse_cons, find_append, Option.or_assoc]
    by_cases hk : k = a.1 <;> simp [find, hk]

/-- The last entry under a name. -/
theorem get?_ofList {front back : List (String × α)} {e : String × α} (h : e.1 ∉ back.map (·.1)) :
    (ofList (front ++ e :: back)).get? e.1 = some e.2 := by
  have hnone : find e.1 back.reverse = none :=
    find_eq_none fun x hx heq => h (heq ▸ List.mem_map_of_mem (List.mem_reverse.1 hx))
  rw [ofList, get?_foldl_insert_reverse, List.reverse_append, List.reverse_cons, List.append_assoc,
    find_append, hnone]
  simp [find]

/-- An entry with another behind it under the same name. -/
theorem ofList_overwritten {front back : List (String × α)} {e : String × α}
    (h : e.1 ∈ back.map (·.1)) : ofList (front ++ e :: back) = ofList (front ++ back) := by
  refine ext_get? fun k => ?_
  rw [ofList, ofList, List.foldl_append, List.foldl_append, List.foldl_cons, get?_foldl_insert_reverse,
    get?_foldl_insert_reverse, get?_insert]
  by_cases hk : k = e.1
  · have hlater : k ∈ back.reverse.map (·.1) := by simpa [hk] using h
    obtain ⟨v, hv⟩ := exists_find hlater
    rw [hv, Option.some_or, Option.some_or]
  · rw [if_neg hk]

end TrackResolver.Dict
