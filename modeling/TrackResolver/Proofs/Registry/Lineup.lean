import Mathlib.Data.List.Basic
import TrackResolver.Lineup
import TrackResolver.Proofs.Registry.History

/-!
# Line-ups that pass the check

Results:
* `mem_arrivals`, `nodup_arrivals`: which names come for the time `n + 1`, and that each does so once.
* `pairwise_arrivals`: and that they are in the order of the places at which they do.
* `lineup_of_missing`, `lineup_of_repeated`, `lineup_of_fit`: the ends of the check, in the order in
  which they are looked for, and `eq_of_lineup_unknown`: what names are refused.
* `lineup_eq_ok_iff`: over a well-formed registry a list of names passes the check exactly if it is
  not empty, no name comes twice and each is registered; the line-up is then the engines that are
  registered under these names, position by position.
* `lineup_append`, `lineup_perm`: then the parts of the list pass, and its names in any order.
* `WellFormed.lineup_list`: the list of all names passes.
-/
namespace TrackResolver

theorem mem_arrivals {n : Nat} {name : String} {names : List String} : ∀ {before : List String},
    name ∈ arrivals n before names ↔
      before.count name ≤ n ∧ n < before.count name + names.count name := by
  induction names with
  | nil => intro before; simp only [arrivals, List.not_mem_nil, List.count_nil, false_iff]; omega
  | cons head rest ih =>
    intro before
    have hcons : name ∈ arrivals n before (head :: rest) ↔
        (before.count head = n ∧ name = head) ∨ name ∈ arrivals n (head :: before) rest := by
      rw [arrivals]; split <;> simp [*]
    rw [hcons, ih, List.count_cons, List.count_cons]
    by_cases h : head = name
    · subst h; simp only [beq_self_eq_true, if_true, and_true]; omega
    · have hb : (head == name) = false := by simpa using h
      have hn : ¬ name = head := fun he => h he.symm
      simp only [hb, hn, Bool.false_eq_true, if_false, and_false, false_or]; omega

theorem nodup_arrivals (n : Nat) (names : List String) :
    ∀ before : List String, (arrivals n before names).Nodup := by
  induction names with
  | nil => intro before; simp [arrivals]
  | cons head rest ih =>
    intro before
    rw [arrivals]
    split
    · next hcount =>
      have hhead : head ∉ arrivals n (head :: before) rest := by
        rw [mem_arrivals, List.count_cons_self]
        omega
      exact List.nodup_cons.2 ⟨hhead, ih _⟩
    · exact ih _

/-- What comes later for the time `n + 1` does so in the rest, whether or not it is `head`. -/
theorem place_of_mem_arrivals {n : Nat} {head name : String} {before rest : List String}
    (h : name ∈ arrivals n (head :: before) rest) :
    (head :: rest).idxOfNth name (n - before.count name) =
      rest.idxOfNth name (n - (head :: before).count name) + 1 := by
  have hcount : (head :: before).count name ≤ n := (mem_arrivals.1 h).1
  by_cases he : head = name
  · subst he
    rw [List.count_cons_self] at hcount ⊢
    obtain ⟨m, rfl⟩ := Nat.exists_eq_add_of_le hcount
    rw [show before.count head + 1 + m - before.count head = m + 1 by omega,
      List.idxOfNth_cons_succ_of_beq (by simp)]
    congr 2
    omega
  · rw [List.count_cons_of_ne he, List.idxOfNth_cons_of_not_beq (by simpa using he)]

/-- The names that come for the time `n + 1` are in the order of the places at which they do. -/
theorem pairwise_arrivals (n : Nat) (names : List String) : ∀ before : List String,
    (arrivals n before names).Pairwise fun a b =>
      names.idxOfNth a (n - before.count a) < names.idxOfNth b (n - before.count b) := by
  induction names with
  | nil => intro before; simp [arrivals]
  | cons head rest ih =>
    intro before
    have hrest : (arrivals n (head :: before) rest).Pairwise fun a b =>
        (head :: rest).idxOfNth a (n - before.count a) <
          (head :: rest).idxOfNth b (n - before.count b) := by
      refine (ih (head :: before)).imp_of_mem ?_
      intro a b ha hb hlt
      rw [place_of_mem_arrivals ha, place_of_mem_arrivals hb]
      exact Nat.succ_lt_succ hlt
    rw [arrivals]
    split
    · next hcount =>
      refine List.pairwise_cons.2 ⟨?_, hrest⟩
      intro b hb
      rw [hcount, Nat.sub_self, List.idxOfNth_cons_zero_of_beq (by simp), place_of_mem_arrivals hb]
      exact Nat.succ_pos _
    · exact hrest

namespace Registry

theorem mem_missing {r : Registry} {names : List String} {name : String} :
    name ∈ r.missing names ↔ name ∈ names ∧ r.contains name = false := by
  rw [missing, List.mem_filter, mem_arrivals, ← List.count_pos_iff]
  simp

theorem nodup_missing (r : Registry) (names : List String) : (r.missing names).Nodup :=
  (nodup_arrivals 0 names []).filter _

/-- They are named in the order of their first places. -/
theorem pairwise_missing (r : Registry) (names : List String) :
    (r.missing names).Pairwise fun a b => names.idxOf a < names.idxOf b := by
  have h := pairwise_arrivals 0 names []
  simp only [Nat.zero_sub, List.idxOfNth_zero] at h
  exact h.filter _

theorem mem_repeated {names : List String} {name : String} :
    name ∈ repeated names ↔ 1 < names.count name := by
  rw [repeated, mem_arrivals]; simp

/-- They are named in the order of their second places. -/
theorem pairwise_repeated (names : List String) :
    (repeated names).Pairwise fun a b => names.idxOfNth a 1 < names.idxOfNth b 1 :=
  pairwise_arrivals 1 names []

theorem repeated_eq_nil {names : List String} : repeated names = [] ↔ names.Nodup := by
  rw [List.eq_nil_iff_forall_not_mem, List.nodup_iff_count]
  exact forall_congr' fun name => by rw [mem_repeated, Nat.not_lt]

theorem missing_eq_nil {r : Registry} {names : List String} :
    r.missing names = [] ↔ ∀ name ∈ names, r.contains name = true := by
  rw [List.eq_nil_iff_forall_not_mem]
  exact forall_congr' fun name => by rw [mem_missing, not_and, Bool.not_eq_false]

/-- The entries under these names, if all are registered. -/
theorem resolve_eq_iff {r : Registry} (h : r.WellFormed) {names : List String}
    (hc : ∀ name ∈ names, r.contains name = true) : ∀ {lineup : List Entry},
    (names.filterMap fun name => (r.get? name).map fun e => Entry.mk name e) = lineup ↔
      lineup.map (·.name) = names ∧ ∀ entry ∈ lineup, r.get? entry.name = some entry.engine := by
  induction names with
  | nil =>
    intro lineup
    constructor
    · rintro rfl; simp
    · rintro ⟨hm, -⟩; rw [List.map_eq_nil_iff.1 hm]; rfl
  | cons name rest ih =>
    intro lineup
    obtain ⟨e, he⟩ := h.exists_of_contains (hc name List.mem_cons_self)
    have ih' := @ih fun n hn => hc n (List.mem_cons_of_mem _ hn)
    rw [List.filterMap_cons, he, Option.map_some]
    constructor
    · rintro rfl
      obtain ⟨hm, hg⟩ := ih'.1 rfl
      refine ⟨by rw [List.map_cons, hm], ?_⟩
      intro entry hmem
      rcases List.mem_cons.1 hmem with rfl | hmem
      · exact he
      · exact hg entry hmem
    · rintro ⟨hm, hg⟩
      cases lineup with
      | nil => cases hm
      | cons first others =>
        rw [List.map_cons, List.cons.injEq] at hm
        obtain ⟨rfl, hm⟩ := hm
        have hfirst := hg first List.mem_cons_self
        rw [he, Option.some.injEq] at hfirst
        subst hfirst
        exact congrArg (first :: ·) (ih'.2 ⟨hm, fun x hx => hg x (List.mem_cons_of_mem _ hx)⟩)

/-- Names that engines resolve are registered. -/
theorem contains_of_resolved {r : Registry} {lineup : List Entry}
    (hg : ∀ entry ∈ lineup, r.get? entry.name = some entry.engine) {name : String}
    (h : name ∈ lineup.map (·.name)) : r.contains name = true := by
  obtain ⟨entry, hentry, rfl⟩ := List.mem_map.1 h
  exact contains_of_get? (hg entry hentry)

theorem lineup_nil (r : Registry) : r.lineup [] = .error .noEngines := rfl

section
variable {r : Registry} {names : List String}

theorem lineup_of_missing (hne : names ≠ []) (hm : r.missing names ≠ []) :
    r.lineup names = .error (.unknownEngines (r.missing names) .notRegistered) := by
  unfold Registry.lineup
  rw [if_neg (by simpa using hne), if_pos (by simpa using hm)]

theorem lineup_of_repeated (hne : names ≠ []) (hm : r.missing names = [])
    (hd : repeated names ≠ []) :
    r.lineup names = .error (.unknownEngines (repeated names) .duplicated) := by
  unfold Registry.lineup
  rw [if_neg (by simpa using hne), if_neg (by simp [hm]), if_pos (by simpa using hd)]

theorem lineup_of_fit (hne : names ≠ []) (hm : r.missing names = []) (hd : repeated names = []) :
    r.lineup names = .ok (names.filterMap fun name => (r.get? name).map fun e => ⟨name, e⟩) := by
  unfold Registry.lineup
  rw [if_neg (by simpa using hne), if_neg (by simp [hm]), if_neg (by simp [hd])]

/-- Names are refused for one of two reasons, and those at fault are reported. -/
theorem eq_of_lineup_unknown {wrong : List String} {why : Refusal}
    (h : r.lineup names = .error (.unknownEngines wrong why)) :
    (why = .notRegistered ∧ wrong = r.missing names) ∨
      (why = .duplicated ∧ wrong = repeated names) := by
  unfold Registry.lineup at h
  split at h
  · cases h
  · split at h
    · cases h; exact Or.inl ⟨rfl, rfl⟩
    · split at h
      · cases h; exact Or.inr ⟨rfl, rfl⟩
      · cases h

end

theorem lineup_eq_ok_iff {r : Registry} (h : r.WellFormed) {names : List String}
    {lineup : List Entry} :
    r.lineup names = .ok lineup ↔ names ≠ [] ∧ names.Nodup ∧ lineup.map (·.name) = names ∧
      ∀ entry ∈ lineup, r.get? entry.name = some entry.engine := by
  by_cases hne : names = []
  · subst hne
    simp [lineup_nil]
  by_cases hm : r.missing names = []
  · have hc := missing_eq_nil.1 hm
    by_cases hd : repeated names = []
    · rw [lineup_of_fit hne hm hd, Except.ok.injEq, resolve_eq_iff h hc]
      exact ⟨fun hl => ⟨hne, repeated_eq_nil.1 hd, hl⟩, fun hl => hl.2.2⟩
    · rw [lineup_of_repeated hne hm hd]
      exact ⟨nofun, fun hl => absurd (repeated_eq_nil.2 hl.2.1) hd⟩
  · rw [lineup_of_missing hne hm]
    refine ⟨nofun, ?_⟩
    rintro ⟨-, -, rfl, hg⟩
    exact absurd (missing_eq_nil.2 fun name hn => contains_of_resolved hg hn) hm

/-- The parts of a list that passes the check pass it. -/
theorem lineup_append {r : Registry} (h : r.WellFormed) {first second : List String}
    (hfirst : first ≠ []) (hsecond : second ≠ []) {lineup : List Entry}
    (hl : r.lineup (first ++ second) = .ok lineup) :
    ∃ a b, r.lineup first = .ok a ∧ r.lineup second = .ok b ∧ lineup = a ++ b := by
  obtain ⟨-, hnodup, hnames, hget⟩ := (lineup_eq_ok_iff h).1 hl
  obtain ⟨hn, hn', -⟩ := List.nodup_append.1 hnodup
  obtain ⟨a, b, rfl, ha, hb⟩ := List.map_eq_append_iff.1 hnames
  exact ⟨a, b,
    (lineup_eq_ok_iff h).2 ⟨hfirst, hn, ha, fun e he => hget e (List.mem_append_left b he)⟩,
    (lineup_eq_ok_iff h).2 ⟨hsecond, hn', hb, fun e he => hget e (List.mem_append_right a he)⟩, rfl⟩

/-- A list that passes the check passes it in any order. -/
theorem lineup_perm {r : Registry} (h : r.WellFormed) {names other : List String}
    (hp : other.Perm names) {lineup : List Entry} (hl : r.lineup names = .ok lineup) :
    ∃ l, r.lineup other = .ok l ∧ l.Perm lineup := by
  obtain ⟨hne, hnodup, hnames, hget⟩ := (lineup_eq_ok_iff h).1 hl
  have hc : ∀ name ∈ names, r.contains name = true := fun name hname =>
    contains_of_resolved hget (hnames ▸ hname)
  have hne' : other ≠ [] := by rintro rfl; exact hne hp.symm.eq_nil
  have hl' : r.lineup other = .ok _ := lineup_of_fit hne'
    (missing_eq_nil.2 fun name hname => hc name (hp.mem_iff.1 hname))
    (repeated_eq_nil.2 (hp.nodup_iff.2 hnodup))
  rw [lineup_of_fit hne (missing_eq_nil.2 hc) (repeated_eq_nil.2 hnodup)] at hl
  cases hl
  exact ⟨_, hl', hp.filterMap _⟩

/-- The check of a list of names has three ends. -/
theorem lineup_cases (r : Registry) (names : List String) :
    (names = [] ∧ r.lineup names = .error .noEngines) ∨
    (names ≠ [] ∧ ((∃ name ∈ names, r.contains name = false) ∨ ¬ names.Nodup) ∧
      ∃ wrong why, r.lineup names = .error (.unknownEngines wrong why)) ∨
    (names ≠ [] ∧ (∀ name ∈ names, r.contains name = true) ∧ names.Nodup ∧
      ∃ lineup, r.lineup names = .ok lineup) := by
  by_cases hne : names = []
  · subst hne
    exact Or.inl ⟨rfl, lineup_nil r⟩
  right
  by_cases hm : r.missing names = []
  · by_cases hd : repeated names = []
    · exact Or.inr ⟨hne, missing_eq_nil.1 hm, repeated_eq_nil.1 hd, _, lineup_of_fit hne hm hd⟩
    · exact Or.inl ⟨hne, Or.inr (mt repeated_eq_nil.2 hd), _, _, lineup_of_repeated hne hm hd⟩
  · obtain ⟨name, hname⟩ := List.exists_mem_of_ne_nil _ hm
    exact Or.inl ⟨hne, Or.inl ⟨name, mem_missing.1 hname⟩, _, _, lineup_of_missing hne hm⟩

/-- The names of a registry pass the check, and resolve to its entries. -/
theorem WellFormed.lineup_list {r : Registry} (h : r.WellFormed) (hne : r.list ≠ []) :
    r.lineup r.list = .ok r.entries := by
  refine (lineup_eq_ok_iff h).2 ⟨hne, h.nodup, rfl, ?_⟩
  intro entry hentry
  exact h.get?_eq_some.2 hentry

end Registry

end TrackResolver
