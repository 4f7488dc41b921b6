import TrackResolver.Proofs.Dict
import TrackResolver.Proofs.Json.Inside

/-!
# Reading maps

A map has no names of its own: every member of the object is an entry. Each has to be read, and of
several under one name the last is kept.

Results:
* `readDict_eq_ok_iff`: which objects are read as a map, and as which.
* `LastWins`, `lastWins`: what becomes of a name that comes again.
-/
namespace TrackResolver.Json

open Reading

section
variable {α : Type} {read : Reader α}

/-- The member is read as the entry. -/
def IsEntry (read : Reader α) (m : Node × Node) (e : String × α) : Prop :=
  readName m.1 = .ok e.1 ∧ read m.2 = .ok e.2

theorem foldlM_entries_eq_ok_iff {members : List (Node × Node)} {d₀ d : Dict α} :
    members.foldlM (fun (d : Dict α) (name, value) => do
        return d.insert (← readName name) (← read value)) d₀ = .ok d ↔
      ∃ es, List.Forall₂ (IsEntry read) members es ∧
        es.foldl (fun d e => d.insert e.1 e.2) d₀ = d := by
  induction members generalizing d₀ with
  | nil =>
    constructor
    · intro h
      exact ⟨[], .nil, Except.ok.inj h⟩
    · rintro ⟨es, hes, rfl⟩
      cases hes
      rfl
  | cons m members ih =>
    obtain ⟨k, v⟩ := m
    rw [List.foldlM_cons]
    constructor
    · intro h
      obtain ⟨d₁, hd₁, hrest⟩ := exists_of_bind h
      obtain ⟨name, hname, hvalue⟩ := exists_of_bind hd₁
      obtain ⟨a, ha, hinsert⟩ := exists_of_bind hvalue
      cases hinsert
      obtain ⟨es, hes, rfl⟩ := ih.1 hrest
      exact ⟨(name, a) :: es, .cons ⟨hname, ha⟩ hes, rfl⟩
    · rintro ⟨es, hes, rfl⟩
      cases hes with
      | @cons _ e _ es hm hes =>
        obtain ⟨hname, ha⟩ := hm
        dsimp only at hname ha ⊢
        rw [hname, ha]
        exact ih.2 ⟨es, hes, rfl⟩

/-- A map is put together out of the entries that its members are. -/
theorem readDict_eq_ok_iff {members : List (Node × Node)} {d : Dict α} :
    readDict read (.object members .closed) = .ok d ↔
      ∃ es, List.Forall₂ (IsEntry read) members es ∧ Dict.ofList es = d := by
  constructor
  · intro h
    obtain ⟨e, he, hrest⟩ := exists_of_bind h
    cases hrest
    exact foldlM_entries_eq_ok_iff.1 he
  · intro h
    rw [readDict, foldlM_entries_eq_ok_iff.2 h]
    rfl

theorem forall₂_append_iff {β γ : Type} {R : β → γ → Prop} {front back : List β} {l : List γ} :
    List.Forall₂ R (front ++ back) l ↔
      ∃ l₁ l₂, List.Forall₂ R front l₁ ∧ List.Forall₂ R back l₂ ∧ l = l₁ ++ l₂ := by
  constructor
  · intro h
    induction front generalizing l with
    | nil => exact ⟨[], l, .nil, h, rfl⟩
    | cons b front ih =>
      cases h with
      | @cons _ c _ _ hb hrest =>
        obtain ⟨l₁, l₂, hfront, hback, rfl⟩ := ih hrest
        exact ⟨c :: l₁, l₂, .cons hb hfront, hback, rfl⟩
  · rintro ⟨l₁, l₂, hfront, hback, rfl⟩
    exact List.rel_append hfront hback

theorem mem_names_iff {members : List (Node × Node)} {es : List (String × α)}
    (h : List.Forall₂ (IsEntry read) members es) {name : String} :
    name ∈ es.map (·.1) ↔ ∃ m ∈ members, readName m.1 = .ok name := by
  induction h with
  | nil => simp
  | @cons m e members es hm _ ih =>
    simp only [List.map_cons, List.mem_cons, ih, exists_eq_or_imp, hm.1, Except.ok.injEq]
    exact or_congr_left eq_comm

theorem exists_readDict {members : List (Node × Node)} (h : ∀ m ∈ members, ∃ e, IsEntry read m e) :
    ∃ d, readDict read (.object members .closed) = .ok d := by
  suffices hes : ∃ es, List.Forall₂ (IsEntry read) members es by
    obtain ⟨es, hes⟩ := hes
    exact ⟨_, readDict_eq_ok_iff.2 ⟨es, hes, rfl⟩⟩
  induction members with
  | nil => exact ⟨[], .nil⟩
  | cons m members ih =>
    obtain ⟨⟨e, he⟩, hrest⟩ := List.forall_mem_cons.1 h
    obtain ⟨es, hes⟩ := ih hrest
    exact ⟨e :: es, .cons he hes⟩

/-- One member among the others. -/
theorem readDict_middle_iff {front back : List (Node × Node)} {k v : Node} {d : Dict α} :
    readDict read (.object (front ++ (k, v) :: back) .closed) = .ok d ↔
      ∃ es₁ e es₂, List.Forall₂ (IsEntry read) front es₁ ∧ IsEntry read (k, v) e ∧
        List.Forall₂ (IsEntry read) back es₂ ∧ Dict.ofList (es₁ ++ e :: es₂) = d := by
  rw [readDict_eq_ok_iff]
  constructor
  · rintro ⟨es, hes, rfl⟩
    obtain ⟨es₁, _, hfront, hrest, rfl⟩ := forall₂_append_iff.1 hes
    obtain ⟨e, es₂, he, hback, rfl⟩ := List.forall₂_cons_left_iff.1 hrest
    exact ⟨es₁, e, es₂, hfront, he, hback, rfl⟩
  · rintro ⟨es₁, e, es₂, hfront, he, hback, rfl⟩
    exact ⟨_, List.rel_append hfront (.cons he hback), rfl⟩

/-- Of the members of a map under one name the last is kept, and what comes before it under that name
only has to be something that is read. -/
structure LastWins (read : Reader α) : Prop where
  kept : ∀ {front back : List (Node × Node)} {k v : Node} {name : String} {d : Dict α},
    readDict read (.object (front ++ (k, v) :: back) .closed) = .ok d → readName k = .ok name →
    (∀ m ∈ back, readName m.1 ≠ .ok name) → ∃ a, read v = .ok a ∧ d.get? name = some a
  overwritten : ∀ {front back : List (Node × Node)} {k v : Node} {name : String} {a : α} {d : Dict α},
    readDict read (.object (front ++ back) .closed) = .ok d → readName k = .ok name →
    read v = .ok a → (∃ m ∈ back, readName m.1 = .ok name) →
    readDict read (.object (front ++ (k, v) :: back) .closed) = .ok d

theorem lastWins (read : Reader α) : LastWins read where
  kept hread hname hlast := by
    obtain ⟨es₁, e, es₂, -, he, hback, rfl⟩ := readDict_middle_iff.1 hread
    cases he.1.symm.trans hname
    refine ⟨e.2, he.2, Dict.get?_ofList fun hmem => ?_⟩
    obtain ⟨m, hm, hagain⟩ := (mem_names_iff hback).1 hmem
    exact hlast m hm hagain
  overwritten hread hname ha hlater := by
    obtain ⟨es, hes, rfl⟩ := readDict_eq_ok_iff.1 hread
    obtain ⟨es₁, es₂, hfront, hback, rfl⟩ := forall₂_append_iff.1 hes
    refine readDict_middle_iff.2 ⟨es₁, (_, _), es₂, hfront, ⟨hname, ha⟩, hback, ?_⟩
    exact Dict.ofList_overwritten ((mem_names_iff hback).2 hlater)

end

end TrackResolver.Json
