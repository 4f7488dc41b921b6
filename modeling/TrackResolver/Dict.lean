/-!
# Dictionaries

A `Dict α` holds values under distinct names. Its entries are kept in increasing order of their
names, so two dictionaries that answer every look-up alike are equal.

* `get?_insert`: what a look-up finds after an insertion.
* `get?_erase`: what a look-up finds after a removal.
* `Dict.ext_get?`: a dictionary is determined by its look-ups.
-/
namespace TrackResolver

/-- Values under distinct names, in increasing order of the names. -/
structure Dict (α : Type) where
  entries : List (String × α)
  sorted : entries.Pairwise fun a b => a.1 < b.1
deriving DecidableEq

namespace Dict

variable {α β : Type}

def empty : Dict α := ⟨[], .nil⟩

instance : Inhabited (Dict α) := ⟨empty⟩
instance : EmptyCollection (Dict α) := ⟨empty⟩

/-! ## Entries in order -/

/-- The value that `entries` hold under `k`. -/
def find (k : String) : List (String × α) → Option α
  | [] => none
  | (k', v) :: rest => if k = k' then some v else find k rest

/-- Puts `v` under `k`, in its place. -/
def place (k : String) (v : α) : List (String × α) → List (String × α)
  | [] => [(k, v)]
  | (k', v') :: rest =>
    if k < k' then (k, v) :: (k', v') :: rest
    else if k = k' then (k, v) :: rest
    else (k', v') :: place k v rest

theorem fst_mem_place {k : String} {v : α} {l : List (String × α)} {e : String × α}
    (h : e ∈ place k v l) : e = (k, v) ∨ e ∈ l := by
  induction l with
  | nil => simpa [place] using h
  | cons a rest ih =>
    obtain ⟨k', v'⟩ := a
    rw [place] at h
    split at h
    · simpa using h
    · split at h
      · rcases List.mem_cons.1 h with h | h
        · exact .inl h
        · exact .inr (List.mem_cons_of_mem _ h)
      · rcases List.mem_cons.1 h with h | h
        · exact .inr (h ▸ List.mem_cons_self)
        · exact (ih h).imp id (List.mem_cons_of_mem _)

theorem sorted_place {k : String} {v : α} {l : List (String × α)}
    (h : l.Pairwise fun a b => a.1 < b.1) : (place k v l).Pairwise fun a b => a.1 < b.1 := by
  induction l with
  | nil => simp [place]
  | cons a rest ih =>
    obtain ⟨k', v'⟩ := a
    obtain ⟨hd, tl⟩ := List.pairwise_cons.1 h
    rw [place]
    split
    · next hlt =>
      refine List.pairwise_cons.2 ⟨fun b hb => ?_, h⟩
      rcases List.mem_cons.1 hb with rfl | hb
      · exact hlt
      · exact String.lt_trans hlt (hd b hb)
    · next hlt =>
      split
      · next heq => exact List.pairwise_cons.2 ⟨fun b hb => heq ▸ hd b hb, tl⟩
      · next hne =>
        have hgt : k' < k := Std.lt_of_le_of_ne (String.not_lt.1 hlt) (Ne.symm hne)
        refine List.pairwise_cons.2 ⟨fun b hb => ?_, ih tl⟩
        rcases fst_mem_place hb with rfl | hb
        · exact hgt
        · exact hd b hb

theorem find_place (k j : String) (v : α) (l : List (String × α)) :
    find j (place k v l) = if j = k then some v else find j l := by
  induction l with
  | nil => simp [place, find]
  | cons a rest ih =>
    obtain ⟨k', v'⟩ := a
    rw [place]
    split
    · simp [find]
    · split
      · next heq => subst heq; simp only [find]; split <;> simp_all
      · next hne =>
        simp only [find, ih]
        split <;> split <;> simp_all

theorem find_eq_none {k : String} {l : List (String × α)} (h : ∀ e ∈ l, e.1 ≠ k) :
    find k l = none := by
  induction l with
  | nil => rfl
  | cons a rest ih =>
    obtain ⟨k', v'⟩ := a
    have hne : k ≠ k' := fun he => h (k', v') List.mem_cons_self he.symm
    simp [find, hne, ih fun e he => h e (List.mem_cons_of_mem _ he)]

theorem entries_ext {l m : List (String × α)} (hl : l.Pairwise fun a b => a.1 < b.1)
    (hm : m.Pairwise fun a b => a.1 < b.1) (h : ∀ k, find k l = find k m) : l = m := by
  induction l generalizing m with
  | nil =>
    cases m with
    | nil => rfl
    | cons b m => simpa [find] using h b.1
  | cons a l ih =>
    obtain ⟨ka, va⟩ := a
    cases m with
    | nil => simpa [find] using h ka
    | cons b m =>
      obtain ⟨kb, vb⟩ := b
      obtain ⟨ha, hl'⟩ := List.pairwise_cons.1 hl
      obtain ⟨hb, hm'⟩ := List.pairwise_cons.1 hm
      have low : ∀ {k : String} {r : List (String × α)}, (∀ e ∈ r, k < e.1) → find k r = none :=
        fun hr => find_eq_none fun e he heq => String.lt_irrefl _ (heq ▸ hr e he)
      have hk : ka = kb := by
        rcases Std.lt_trichotomy ka kb with hlt | heq | hgt
        · have := h ka
          rw [find, if_pos rfl, find, if_neg (fun he => String.lt_irrefl _ (he ▸ hlt)),
            low fun e he => String.lt_trans hlt (hb e he)] at this
          cases this
        · exact heq
        · have := h kb
          rw [find, if_neg (fun he => String.lt_irrefl _ (he ▸ hgt)), find, if_pos rfl,
            low fun e he => String.lt_trans hgt (ha e he)] at this
          cases this
      subst hk
      have hv : va = vb := by simpa [find] using h ka
      subst hv
      congr 1
      refine ih hl' hm' fun k => ?_
      by_cases hk : k = ka
      · subst hk; rw [low ha, low hb]
      · simpa [find, hk] using h k

/-! ## Operations -/

def get? (d : Dict α) (k : String) : Option α := find k d.entries

def contains (d : Dict α) (k : String) : Bool := (d.get? k).isSome

def insert (d : Dict α) (k : String) (v : α) : Dict α := ⟨place k v d.entries, sorted_place d.sorted⟩

def erase (d : Dict α) (k : String) : Dict α :=
  ⟨d.entries.filter fun e => e.1 ≠ k, d.sorted.filter _⟩

/-- The same names with each value changed. -/
def map (f : α → β) (d : Dict α) : Dict β :=
  ⟨d.entries.map fun e => (e.1, f e.2), List.pairwise_map.2 d.sorted⟩

def size (d : Dict α) : Nat := d.entries.length

def isEmpty (d : Dict α) : Bool := d.entries.isEmpty

def keys (d : Dict α) : List String := d.entries.map (·.1)

/-- Of two entries under one name the later stays. -/
def ofList (l : List (String × α)) : Dict α := l.foldl (fun d e => d.insert e.1 e.2) empty

/-- The entries of both; under a name that both have, the value of `e`. -/
def union (d e : Dict α) : Dict α := e.entries.foldl (fun d e => d.insert e.1 e.2) d

/-! ## Look-ups -/

@[simp] theorem get?_empty (k : String) : (empty : Dict α).get? k = none := rfl

theorem get?_insert (d : Dict α) (k j : String) (v : α) :
    (d.insert k v).get? j = if j = k then some v else d.get? j := find_place k j v d.entries

theorem find_filter (k j : String) (l : List (String × α)) :
    find j (l.filter fun e => e.1 ≠ k) = if j = k then none else find j l := by
  induction l with
  | nil => simp [find]
  | cons a rest ih =>
    obtain ⟨k', v'⟩ := a
    by_cases hk : k' = k
    · subst hk; simp only [List.filter_cons, ne_eq, not_true_eq_false, decide_false,
        Bool.false_eq_true, ↓reduceIte, find] at ih ⊢
      rw [ih]; split <;> simp_all
    · simp only [List.filter_cons, ne_eq, hk, not_false_eq_true, decide_true, ↓reduceIte, find] at ih ⊢
      rw [ih]; split <;> split <;> simp_all

theorem get?_erase (d : Dict α) (k j : String) :
    (d.erase k).get? j = if j = k then none else d.get? j := find_filter k j d.entries

theorem get?_map (f : α → β) (d : Dict α) (k : String) : (d.map f).get? k = (d.get? k).map f := by
  show find k (d.entries.map fun e => (e.1, f e.2)) = (find k d.entries).map f
  induction d.entries with
  | nil => rfl
  | cons a rest ih => simp only [List.map_cons, find]; split <;> simp_all

theorem ext_get? {d e : Dict α} (h : ∀ k, d.get? k = e.get? k) : d = e := by
  obtain ⟨l, hl⟩ := d
  obtain ⟨m, hm⟩ := e
  have : l = m := entries_ext hl hm h
  subst this; rfl

end Dict

end TrackResolver
