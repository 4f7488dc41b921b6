import Mathlib.Data.List.Induction
import TrackResolver.Proofs.Registry.History

/-!
# A registry is what its history says

Which names stand in a registry, with which engines and in which order, can be told from the calls
that made it. A name stands if it was registered and has not been taken out since. It enters with
the first registration since it was last taken out, and the list is in the order in which the names
entered.

Results:
* `WellFormed.get?_register`, `WellFormed.get?_deregister`: a call changes what is found under its
  own name and nothing else.
* `stands_register`, `latest_register`, `enters_register` and their like for `deregister`: what one
  more call makes of what a history says.
* `WellFormed.list_deregister`: a name is taken out of the list, and the others keep their order.
* `follows_history`: every registry is what its history says.
-/
namespace TrackResolver

/-- The name that a call is about. -/
def Change.name : Change → String
  | register e => e.id
  | deregister name => name

namespace Registry

/-! ## What a history says -/

/-- A registration of the name is not followed by its removal. -/
def Stands (history : List Change) (name : String) : Prop :=
  ∃ before e after, history = before ++ .register e :: after ∧ e.id = name ∧
    .deregister name ∉ after

/-- The last call about the name registers `e`. -/
def Latest (history : List Change) (name : String) (e : Engine) : Prop :=
  ∃ before after, history = before ++ .register e :: after ∧ e.id = name ∧
    ∀ change ∈ after, change.name ≠ name

/-- The call at `time` is the first registration of the name since its last removal. -/
def Enters (history : List Change) (name : String) (time : Nat) : Prop :=
  ∃ before e after, history = before ++ .register e :: after ∧ e.id = name ∧
    .deregister name ∉ after ∧ ¬ Stands before name ∧ before.length = time

/-- A history with one more call, cut at some call: it is the last one, or the cut is in the rest. -/
theorem concat_eq_cut {history before after : List Change} {last call : Change} :
    history ++ [last] = before ++ call :: after ↔
      (after = [] ∧ history = before ∧ last = call) ∨
        ∃ mid, after = mid ++ [last] ∧ history = before ++ call :: mid := by
  constructor
  · intro h
    rcases List.eq_nil_or_concat after with rfl | ⟨mid, other, rfl⟩
    · exact Or.inl ⟨rfl, List.append_singleton_inj.1 h⟩
    · rw [List.concat_eq_append, ← List.cons_append, ← List.append_assoc,
        List.append_singleton_inj] at h
      exact Or.inr ⟨mid, by rw [List.concat_eq_append, h.2], h.1⟩
  · rintro (⟨rfl, rfl, rfl⟩ | ⟨mid, rfl, rfl⟩)
    · rfl
    · simp

section
variable {history : List Change} {name : String}

theorem not_stands_nil : ¬ Stands [] name := by
  rintro ⟨before, e, after, h, -⟩
  simp at h

theorem stands_register {e : Engine} :
    Stands (history ++ [.register e]) name ↔ e.id = name ∨ Stands history name := by
  constructor
  · rintro ⟨before, d, after, h, hd, hafter⟩
    rcases concat_eq_cut.1 h with ⟨rfl, rfl, hlast⟩ | ⟨mid, rfl, rfl⟩
    · cases hlast
      exact Or.inl hd
    · exact Or.inr ⟨before, d, mid, rfl, hd, fun hmem => hafter (List.mem_append_left _ hmem)⟩
  · rintro (he | ⟨before, d, after, rfl, hd, hafter⟩)
    · exact ⟨history, e, [], rfl, he, by simp⟩
    · exact ⟨before, d, after ++ [.register e], by simp, hd, by simpa using hafter⟩

theorem stands_deregister {other : String} :
    Stands (history ++ [.deregister other]) name ↔ other ≠ name ∧ Stands history name := by
  constructor
  · rintro ⟨before, d, after, h, hd, hafter⟩
    rcases concat_eq_cut.1 h with ⟨-, -, hlast⟩ | ⟨mid, rfl, rfl⟩
    · cases hlast
    · refine ⟨?_, before, d, mid, rfl, hd, fun hmem => hafter (List.mem_append_left _ hmem)⟩
      rintro rfl
      exact hafter (by simp)
  · rintro ⟨hne, before, d, after, rfl, hd, hafter⟩
    refine ⟨before, d, after ++ [.deregister other], by simp, hd, ?_⟩
    simpa [hafter] using hne.symm

theorem not_latest_nil {d : Engine} : ¬ Latest [] name d := by
  rintro ⟨before, after, h, -⟩
  simp at h

theorem latest_register {e d : Engine} :
    Latest (history ++ [.register e]) name d ↔
      if e.id = name then e = d else Latest history name d := by
  split
  · next he =>
    constructor
    · rintro ⟨before, after, h, -, hafter⟩
      rcases concat_eq_cut.1 h with ⟨-, -, hlast⟩ | ⟨mid, rfl, -⟩
      · cases hlast; rfl
      · exact absurd he (hafter (.register e) (by simp))
    · rintro rfl
      exact ⟨history, [], rfl, he, by simp⟩
  · next he =>
    constructor
    · rintro ⟨before, after, h, hd, hafter⟩
      rcases concat_eq_cut.1 h with ⟨-, -, hlast⟩ | ⟨mid, rfl, rfl⟩
      · cases hlast
        exact absurd hd he
      · exact ⟨before, mid, rfl, hd, fun c hc => hafter c (List.mem_append_left _ hc)⟩
    · rintro ⟨before, after, rfl, hd, hafter⟩
      refine ⟨before, after ++ [.register e], by simp, hd, fun c hc => ?_⟩
      rcases List.mem_append.1 hc with hc | hc
      · exact hafter c hc
      · rw [List.mem_singleton.1 hc]
        exact he

theorem latest_deregister {other : String} {d : Engine} :
    Latest (history ++ [.deregister other]) name d ↔ other ≠ name ∧ Latest history name d := by
  constructor
  · rintro ⟨before, after, h, hd, hafter⟩
    rcases concat_eq_cut.1 h with ⟨-, -, hlast⟩ | ⟨mid, rfl, rfl⟩
    · cases hlast
    · exact ⟨hafter (.deregister other) (by simp), before, mid, rfl, hd,
        fun c hc => hafter c (List.mem_append_left _ hc)⟩
  · rintro ⟨hne, before, after, rfl, hd, hafter⟩
    refine ⟨before, after ++ [.deregister other], by simp, hd, fun c hc => ?_⟩
    rcases List.mem_append.1 hc with hc | hc
    · exact hafter c hc
    · rw [List.mem_singleton.1 hc]
      exact hne

/-- If a name stands, one of its registrations is the last call about it. -/
theorem stands_iff_exists_latest : Stands history name ↔ ∃ e, Latest history name e := by
  induction history using List.reverseRecOn with
  | nil => exact iff_of_false not_stands_nil fun ⟨_, h⟩ => not_latest_nil h
  | append_singleton history last ih =>
    cases last with
    | register e => by_cases he : e.id = name <;> simp [stands_register, latest_register, he, ih]
    | deregister other => simp [stands_deregister, latest_deregister, ih]

theorem Enters.stands {time : Nat} (h : Enters history name time) : Stands history name := by
  obtain ⟨before, e, after, rfl, he, hafter, -⟩ := h
  exact ⟨before, e, after, rfl, he, hafter⟩

theorem Enters.lt {time : Nat} (h : Enters history name time) : time < history.length := by
  obtain ⟨before, e, after, rfl, -, -, -, rfl⟩ := h
  simp

theorem enters_register {e : Engine} {time : Nat} :
    Enters (history ++ [.register e]) name time ↔
      (e.id = name ∧ ¬ Stands history name ∧ time = history.length) ∨ Enters history name time := by
  constructor
  · rintro ⟨before, d, after, h, hd, hafter, hbefore, rfl⟩
    rcases concat_eq_cut.1 h with ⟨rfl, rfl, hlast⟩ | ⟨mid, rfl, rfl⟩
    · cases hlast
      exact Or.inl ⟨hd, hbefore, rfl⟩
    · exact Or.inr ⟨before, d, mid, rfl, hd, fun hmem => hafter (List.mem_append_left _ hmem),
        hbefore, rfl⟩
  · rintro (⟨he, hno, rfl⟩ | ⟨before, d, after, rfl, hd, hafter, hbefore, htime⟩)
    · exact ⟨history, e, [], rfl, he, by simp, hno, rfl⟩
    · exact ⟨before, d, after ++ [.register e], by simp, hd, by simpa using hafter, hbefore, htime⟩

theorem enters_deregister {other : String} {time : Nat} :
    Enters (history ++ [.deregister other]) name time ↔
      other ≠ name ∧ Enters history name time := by
  constructor
  · rintro ⟨before, d, after, h, hd, hafter, hbefore, htime⟩
    rcases concat_eq_cut.1 h with ⟨-, -, hlast⟩ | ⟨mid, rfl, rfl⟩
    · cases hlast
    · refine ⟨?_, before, d, mid, rfl, hd, fun hmem => hafter (List.mem_append_left _ hmem),
        hbefore, htime⟩
      rintro rfl
      exact hafter (by simp)
  · rintro ⟨hne, before, d, after, rfl, hd, hafter, hbefore, htime⟩
    refine ⟨before, d, after ++ [.deregister other], by simp, hd, ?_, hbefore, htime⟩
    simpa [hafter] using hne.symm

/-- A name that stands entered at one time. -/
theorem existsUnique_enters (h : Stands history name) : ∃! time, Enters history name time := by
  induction history using List.reverseRecOn with
  | nil => exact absurd h not_stands_nil
  | append_singleton history last ih =>
    cases last with
    | register e =>
      by_cases hold : Stands history name
      · obtain ⟨time, htime, hunique⟩ := ih hold
        refine ⟨time, enters_register.2 (Or.inr htime), fun other hother => ?_⟩
        rcases enters_register.1 hother with ⟨-, hno, -⟩ | hother
        · exact absurd hold hno
        · exact hunique other hother
      · have he : e.id = name := (stands_register.1 h).resolve_right hold
        refine ⟨history.length, enters_register.2 (Or.inl ⟨he, hold, rfl⟩), fun other hother => ?_⟩
        rcases enters_register.1 hother with ⟨-, -, hother⟩ | hother
        · exact hother
        · exact absurd hother.stands hold
    | deregister other =>
      obtain ⟨hne, hold⟩ := stands_deregister.1 h
      obtain ⟨time, htime, hunique⟩ := ih hold
      exact ⟨time, enters_deregister.2 ⟨hne, htime⟩,
        fun t ht => hunique t (enters_deregister.1 ht).2⟩

end

/-! ## One call -/

section
variable {r : Registry} {name : String}

/-- Positions are taken once. -/
theorem WellFormed.position_inj (h : r.WellFormed) {other : String} {p : Nat}
    (hn : r.positions.get? name = some p) (ho : r.positions.get? other = some p) : name = other := by
  rw [h.position] at hn ho
  exact Option.some.inj (hn.symm.trans ho)

theorem WellFormed.lt_of_position (h : r.WellFormed) {p : Nat}
    (hn : r.positions.get? name = some p) : p < r.entries.length := by
  obtain ⟨entry, hentry, -⟩ := h.entry_of_position hn
  exact (List.getElem?_eq_some_iff.1 hentry).1

theorem WellFormed.get?_register (h : r.WellFormed) (e : Engine) (name : String) :
    (r.register e).get? name = if e.id = name then some e else r.get? name := by
  cases hp : r.positions.get? e.id with
  | some p =>
    rw [register_of_some hp, Registry.get?, Registry.get?]
    split
    · next he =>
      subst he
      rw [hp]
      simp [List.getElem?_set_self (h.lt_of_position hp)]
    · next he =>
      refine Option.bind_congr fun q hq => ?_
      rw [List.getElem?_set_ne]
      rintro rfl
      exact he (h.position_inj hp hq)
  | none =>
    rw [register_of_none hp, Registry.get?, Registry.get?, Dict.get?_insert]
    split
    · next he => simp [he]
    · next he =>
      rw [if_neg fun hne => he hne.symm]
      refine Option.bind_congr fun q hq => ?_
      rw [List.getElem?_append_left (h.lt_of_position hq)]

theorem WellFormed.get?_deregister (h : r.WellFormed) (other name : String) :
    (r.deregister other).2.get? name = if other = name then none else r.get? name := by
  cases hp : r.positions.get? other with
  | none =>
    rw [deregister_of_none hp]
    split
    · next he => rw [Registry.get?, ← he, hp]; rfl
    · rfl
  | some p =>
    rw [deregister_of_some hp, Registry.get?, Registry.get?, Dict.get?_map, Dict.get?_erase]
    split
    · next he => simp [he]
    · next he =>
      rw [if_neg fun hne => he hne.symm, Option.bind_map]
      refine Option.bind_congr fun q hq => ?_
      have hne : q ≠ p := by
        rintro rfl
        exact he (h.position_inj hq hp)
      simp only [Function.comp, List.getElem?_eraseIdx]
      congr 1
      split <;> split <;> grind

theorem WellFormed.contains_eq (h : r.WellFormed) (name : String) :
    r.contains name = (r.get? name).isSome := by
  rw [Bool.eq_iff_iff, Option.isSome_iff_exists]
  exact ⟨h.exists_of_contains, fun ⟨_, he⟩ => contains_of_get? he⟩

theorem WellFormed.mem_list (h : r.WellFormed) : name ∈ r.list ↔ (r.get? name).isSome = true := by
  rw [← h.contains_eq, contains, Dict.contains, Option.isSome_iff_exists, List.mem_iff_getElem?]
  exact exists_congr fun p => (h.position name p).symm

/-- A name is taken out of the list, and the others keep their order. -/
theorem WellFormed.list_deregister (h : r.WellFormed) (name : String) :
    (r.deregister name).2.list = r.list.erase name := by
  cases hp : r.positions.get? name with
  | none => rw [deregister_of_none hp, List.erase_of_not_mem (h.not_mem_list hp)]
  | some p =>
    obtain ⟨hlt, hname⟩ := List.getElem?_eq_some_iff.1 ((h.position name p).1 hp)
    have hidx : r.list.idxOf name = p := by rw [← hname, h.nodup.idxOf_getElem]
    rw [list_deregister_of_some hp, List.erase_eq_eraseIdx_of_idxOf hidx]

/-- A new name comes last, and one that stands keeps its place. -/
theorem WellFormed.list_register (h : r.WellFormed) (e : Engine) :
    (r.register e).list = if e.id ∈ r.list then r.list else r.list ++ [e.id] := by
  cases hp : r.positions.get? e.id with
  | some p =>
    rw [list_register_of_some h hp, if_pos (List.mem_of_getElem? ((h.position e.id p).1 hp))]
  | none => rw [list_register_of_none hp, if_neg (h.not_mem_list hp)]

/-- What is taken out is what was found under the name. -/
theorem deregister_fst (r : Registry) (name : String) : (r.deregister name).1 = r.get? name := by
  unfold Registry.deregister Registry.get?
  cases r.positions.get? name <;> rfl

theorem WellFormed.deregister_of_get?_eq_none (h : r.WellFormed) (hn : r.get? name = none) :
    (r.deregister name).2 = r := by
  cases hp : r.positions.get? name with
  | none => rw [deregister_of_none hp]
  | some p =>
    have hmem := List.mem_of_getElem? ((h.position name p).1 hp)
    rw [h.mem_list, hn] at hmem
    cases hmem

end

/-! ## Whole histories -/

theorem after_concat (history : List Change) (last : Change) :
    after (history ++ [last]) = (after history).apply last :=
  List.foldl_append

theorem wellFormed_after (history : List Change) : (after history).WellFormed :=
  wellFormed_of_reachable ⟨history, rfl⟩

theorem get?_after (history : List Change) (name : String) (e : Engine) :
    (after history).get? name = some e ↔ Latest history name e := by
  induction history using List.reverseRecOn with
  | nil => exact iff_of_false nofun not_latest_nil
  | append_singleton history last ih =>
    have hwf := wellFormed_after history
    rw [after_concat]
    cases last with
    | register d =>
      rw [latest_register, apply, hwf.get?_register]
      split
      · exact Option.some_inj
      · exact ih
    | deregister other =>
      rw [latest_deregister, apply, hwf.get?_deregister]
      split
      · next hother => exact iff_of_false nofun fun hno => hno.1 hother
      · next hother => exact ih.trans (and_iff_right hother).symm

theorem isSome_get?_after (history : List Change) (name : String) :
    ((after history).get? name).isSome = true ↔ Stands history name := by
  rw [stands_iff_exists_latest, Option.isSome_iff_exists]
  exact exists_congr (get?_after history name)

/-- `a` entered before `b`. -/
def EntersBefore (history : List Change) (a b : String) : Prop :=
  ∃ s t, Enters history a s ∧ Enters history b t ∧ s < t

theorem pairwise_list_after (history : List Change) :
    (after history).list.Pairwise (EntersBefore history) := by
  induction history using List.reverseRecOn with
  | nil => exact .nil
  | append_singleton history last ih =>
    have hwf := wellFormed_after history
    have hstands : ∀ name ∈ (after history).list, Stands history name :=
      fun name hname => (isSome_get?_after history name).1 (hwf.mem_list.1 hname)
    rw [after_concat]
    cases last with
    | register e =>
      have hkeep : (after history).list.Pairwise (EntersBefore (history ++ [.register e])) :=
        ih.imp fun ⟨s, t, hs, ht, hlt⟩ =>
          ⟨s, t, enters_register.2 (Or.inr hs), enters_register.2 (Or.inr ht), hlt⟩
      rw [apply, hwf.list_register]
      split
      · exact hkeep
      · next hnew =>
        refine List.pairwise_append.2 ⟨hkeep, List.pairwise_singleton _ _, ?_⟩
        intro a ha b hb
        rw [List.mem_singleton.1 hb]
        -- the new name enters now, and all others did before
        obtain ⟨s, hs, -⟩ := existsUnique_enters (hstands a ha)
        rw [hwf.mem_list, isSome_get?_after] at hnew
        exact ⟨s, history.length, enters_register.2 (Or.inr hs),
          enters_register.2 (Or.inl ⟨rfl, hnew, rfl⟩), hs.lt⟩
    | deregister other =>
      rw [apply, hwf.list_deregister]
      refine (ih.sublist List.erase_sublist).imp_of_mem ?_
      intro a b ha hb ⟨s, t, hs, ht, hlt⟩
      have hne : ∀ name ∈ (after history).list.erase other, other ≠ name :=
        fun name hname => ((hwf.nodup.mem_erase_iff).1 hname).1.symm
      exact ⟨s, t, enters_deregister.2 ⟨hne a ha, hs⟩, enters_deregister.2 ⟨hne b hb, ht⟩, hlt⟩

/-- What a history says of the registry that it makes. -/
structure Follows (r : Registry) (history : List Change) : Prop where
  /-- Something is found under a name if a registration of it is not followed by its removal. -/
  get?_isSome : ∀ name, (r.get? name).isSome = true ↔ Stands history name
  /-- And then it is the engine of the last such registration. -/
  get?_eq : ∀ name e, r.get? name = some e ↔ Latest history name e
  contains : ∀ name, r.contains name = (r.get? name).isSome
  mem_list : ∀ name, name ∈ r.list ↔ (r.get? name).isSome = true
  nodup : r.list.Nodup
  /-- A name that stands entered at one time. -/
  enters : ∀ name, (r.get? name).isSome = true → ∃! time, Enters history name time
  /-- The names stand in the order in which they entered. -/
  order : r.list.Pairwise (EntersBefore history)
  size : r.size = r.list.length
  isEmpty : r.isEmpty = true ↔ r.list = []
  /-- To register a name that stands keeps its place. -/
  registered_again : ∀ e, (r.get? e.id).isSome = true → (r.register e).list = r.list
  /-- To take a name out keeps the order of the others. -/
  list_deregister : ∀ name, (r.deregister name).2.list = r.list.erase name
  /-- A name that is taken out and registered again comes last. -/
  brought_back : ∀ e, ((r.deregister e.id).2.register e).list = r.list.erase e.id ++ [e.id]
  /-- What is taken out is what was found before. -/
  deregister_fst : ∀ name, (r.deregister name).1 = r.get? name
  /-- To take out what does not stand changes nothing. -/
  deregister_none : ∀ name, r.get? name = none → (r.deregister name).2 = r

/-- **A registry is what its history says.** Whatever is registered and taken out, one call after
another, in an empty registry: the calls tell which names stand, with which engines, and in which
order, and what the next call answers. -/
theorem follows_history (history : List Change) : (after history).Follows history where
  get?_isSome := isSome_get?_after history
  get?_eq := get?_after history
  contains := (wellFormed_after history).contains_eq
  mem_list := fun _ => (wellFormed_after history).mem_list
  nodup := (wellFormed_after history).nodup
  enters := fun name h => existsUnique_enters ((isSome_get?_after history name).1 h)
  order := pairwise_list_after history
  size := by simp [size, list]
  isEmpty := by simp [isEmpty, list]
  registered_again := by
    intro e he
    rw [(wellFormed_after history).list_register, if_pos ((wellFormed_after history).mem_list.2 he)]
  list_deregister := (wellFormed_after history).list_deregister
  brought_back := by
    intro e
    have hwf := wellFormed_after history
    have hnew : e.id ∉ (after history).list.erase e.id := hwf.nodup.not_mem_erase
    rw [(hwf.deregister e.id).list_register, hwf.list_deregister, if_neg hnew]
  deregister_fst := (after history).deregister_fst
  deregister_none := fun _ => (wellFormed_after history).deregister_of_get?_eq_none

end Registry

end TrackResolver
