import TrackResolver.Engine.Scripted
import TrackResolver.Proofs.Dict
import TrackResolver.Proofs.Registry.Standing

/-!
# Positions, one access after another

A registry reads and writes its entries at the positions that it remembers. When a name is taken out,
the names that are left are visited one after another, in no fixed order, and those that stood behind
it move one place forward; until the last visit two of them can have one position. `Stepwise` makes
the calls by these single accesses. It stops with a `Slip` at a position without an entry, and at a
move to a place in front of the first.

Results:
* `Stepwise.foldlM_visit`: after some visits, the names that were visited have moved and no others.
* `Stepwise.foldlM_visit_of_perm`: the order of the visits does not show in what they leave.
* `Stepwise.get?_eq`, `Stepwise.register_eq`, `Stepwise.deregister_eq`: on a well-formed registry no
  call slips, and each comes to the same as at one go.
* `reachable_iff_wellFormed`: the registries that calls can make are the well-formed ones.
* `positions_right`: these together, for every sequence of calls.
-/
namespace TrackResolver

/-- Where a call stops that is led astray by a position. -/
inductive Slip where
  /-- No entry stands at the position. -/
  | noEntry (position size : Nat)
  /-- No position is in front of the first one. -/
  | beforeFirst
deriving DecidableEq

/-- An order in which the names of a dictionary are visited, for each dictionary. -/
structure Visiting where
  order : Dict Nat → List String
  perm : ∀ d, (order d).Perm d.keys

namespace Registry

/-- What becomes of the position `q` when the entry at `p` is taken out. -/
def closedUp (p q : Nat) : Nat := if p < q then q - 1 else q

namespace Stepwise

def entryAt (r : Registry) (p : Nat) : Except Slip Entry :=
  match r.entries[p]? with
  | some entry => .ok entry
  | none => .error (.noEntry p r.entries.length)

def before : Nat → Except Slip Nat
  | 0 => .error .beforeFirst
  | q + 1 => .ok q

/-- Moves a name one place forward if it stands behind `p`. -/
def visit (p : Nat) (positions : Dict Nat) (name : String) : Except Slip (Dict Nat) :=
  match positions.get? name with
  | none => .ok positions
  | some q => if p < q then do return positions.insert name (← before q) else .ok positions

def get? (r : Registry) (name : String) : Except Slip (Option Engine) :=
  match r.positions.get? name with
  | none => .ok none
  | some p => do return some (← entryAt r p).engine

/-- An engine that replaces another is written into the entry of that one. -/
def register (r : Registry) (e : Engine) : Except Slip Registry :=
  match r.positions.get? e.id with
  | some p => do
    let entry ← entryAt r p
    return { r with entries := r.entries.set p { entry with engine := e } }
  | none => .ok
    { entries := r.entries ++ [⟨e.id, e⟩]
      positions := r.positions.insert e.id r.entries.length }

def deregister (v : Visiting) (r : Registry) (name : String) :
    Except Slip (Option Engine × Registry) :=
  match r.positions.get? name with
  | none => .ok (none, r)
  | some p => do
    let entry ← entryAt r p
    let rest := r.positions.erase name
    let positions ← (v.order rest).foldlM (visit p) rest
    return (some entry.engine, { entries := r.entries.eraseIdx p, positions })

def apply (r : Registry) : Visiting × Change → Except Slip Registry
  | (_, .register e) => register r e
  | (v, .deregister name) => (deregister v r name).map (·.2)

/-- What these calls make of an empty registry, each with an order of visits of its own. -/
def after (calls : List (Visiting × Change)) : Except Slip Registry := calls.foldlM apply empty

/-! ## Visits -/

/-- A visit moves the name that is visited, and never in front of the first position. -/
theorem exists_visit (p : Nat) (d : Dict Nat) (name : String) :
    ∃ d', visit p d name = .ok d' ∧ ∀ other,
      d'.get? other = if other = name then (d.get? name).map (closedUp p) else d.get? other := by
  cases hq : d.get? name with
  | none =>
    refine ⟨d, by rw [visit, hq], fun other => ?_⟩
    split
    · next ho => rw [ho, hq, Option.map_none]
    · rfl
  | some q =>
    by_cases hlt : p < q
    · -- what stands behind another position does not stand at the first one
      obtain ⟨q, rfl⟩ : ∃ q', q = q' + 1 := ⟨q - 1, by omega⟩
      refine ⟨d.insert name q, ?_, fun other => ?_⟩
      · rw [visit, hq]
        exact if_pos hlt
      · rw [Dict.get?_insert, Option.map_some, closedUp, if_pos hlt, Nat.add_sub_cancel]
    · refine ⟨d, ?_, fun other => ?_⟩
      · rw [visit, hq]
        exact if_neg hlt
      · split
        · next ho => rw [ho, hq, Option.map_some, closedUp, if_neg hlt]
        · rfl

/-- After some visits, the names that were visited have moved and no others. -/
theorem foldlM_visit (p : Nat) {visits : List String} (hvisits : visits.Nodup) (d : Dict Nat) :
    ∃ d', visits.foldlM (visit p) d = .ok d' ∧
      ∀ name, d'.get? name =
        if name ∈ visits then (d.get? name).map (closedUp p) else d.get? name := by
  induction visits generalizing d with
  | nil => exact ⟨d, rfl, fun _ => rfl⟩
  | cons first rest ih =>
    obtain ⟨hnew, hrest⟩ := List.nodup_cons.1 hvisits
    obtain ⟨mid, hmid, hfirst⟩ := exists_visit p d first
    obtain ⟨d', hd', hlater⟩ := ih hrest mid
    refine ⟨d', by rw [List.foldlM_cons, hmid]; exact hd', fun name => ?_⟩
    rw [hlater, hfirst]
    by_cases hn : name = first
    · -- it moves at its own visit, and is not visited again
      subst hn
      simp [hnew]
    · simp [hn]

/-- Whatever the order of the visits, each name ends where it belongs. -/
theorem foldlM_visit_of_perm (p : Nat) {visits : List String} {d : Dict Nat}
    (h : visits.Perm d.keys) : visits.foldlM (visit p) d = .ok (d.map (closedUp p)) := by
  obtain ⟨d', hd', hget⟩ := foldlM_visit p (h.nodup_iff.2 d.nodup_names) d
  rw [hd']
  refine congrArg Except.ok (Dict.ext_get? fun name => ?_)
  rw [hget, Dict.get?_map]
  split
  · rfl
  · next hn =>
    rw [h.mem_iff, Dict.mem_keys, Option.not_isSome_iff_eq_none] at hn
    rw [hn]
    rfl

/-! ## Calls on a well-formed registry -/

section
variable {r : Registry} (h : r.WellFormed)
include h

/-- A position that the registry remembers is read. -/
theorem entryAt_of_position {name : String} {p : Nat} (hp : r.positions.get? name = some p) :
    ∃ entry, entryAt r p = .ok entry ∧ r.entries[p]? = some entry ∧ entry.name = name := by
  obtain ⟨entry, hentry, hname⟩ := h.entry_of_position hp
  exact ⟨entry, by rw [entryAt, hentry], hentry, hname⟩

theorem get?_eq (name : String) : get? r name = .ok (r.get? name) := by
  unfold get? Registry.get?
  cases hp : r.positions.get? name with
  | none => rfl
  | some p =>
    obtain ⟨entry, hread, hentry, -⟩ := entryAt_of_position h hp
    rw [Option.bind_some, hentry]
    simp only [hread]
    rfl

/-- The entry that is written into has the name of the new engine already. -/
theorem register_eq (e : Engine) : register r e = .ok (r.register e) := by
  unfold register Registry.register
  cases hp : r.positions.get? e.id with
  | none => rfl
  | some p =>
    obtain ⟨entry, hread, -, hname⟩ := entryAt_of_position h hp
    simp only [hread, ← hname]
    rfl

theorem deregister_eq (v : Visiting) (name : String) :
    deregister v r name = .ok (r.deregister name) := by
  unfold deregister Registry.deregister
  cases hp : r.positions.get? name with
  | none => rfl
  | some p =>
    obtain ⟨entry, hread, hentry, -⟩ := entryAt_of_position h hp
    have hvisits := foldlM_visit_of_perm p (v.perm (r.positions.erase name))
    simp only [hread, hentry, hvisits]
    rfl

theorem apply_eq (call : Visiting × Change) : apply r call = .ok (r.apply call.2) := by
  obtain ⟨v, change⟩ := call
  cases change with
  | register e => exact register_eq h e
  | deregister name => rw [apply, deregister_eq h]; rfl

end

/-! ## Whole sequences of calls -/

/-- One call after another leaves a well-formed registry to the next one. -/
theorem foldlM_apply (calls : List (Visiting × Change)) {r : Registry} (h : r.WellFormed) :
    calls.foldlM apply r = .ok ((calls.map (·.2)).foldl Registry.apply r) := by
  induction calls generalizing r with
  | nil => rfl
  | cons call rest ih =>
    rw [List.foldlM_cons, apply_eq h, List.map_cons, List.foldl_cons]
    exact ih (wellFormed_apply h call.2)

theorem after_eq (calls : List (Visiting × Change)) :
    after calls = .ok (Registry.after (calls.map (·.2))) :=
  foldlM_apply calls wellFormed_empty

end Stepwise

/-! ## What the calls can make -/

section
variable {r s : Registry}

/-- The names of the list have positions, and no others have. -/
theorem WellFormed.keys_perm (h : r.WellFormed) : r.positions.keys.Perm r.list := by
  have hkeys : r.positions.keys.Nodup := r.positions.nodup_names
  refine (List.perm_ext_iff_of_nodup hkeys h.nodup).2 fun name => ?_
  rw [Dict.mem_keys, Option.isSome_iff_exists, List.mem_iff_getElem?]
  exact exists_congr (h.position name)

/-- The positions of a well-formed registry can be told from its entries. -/
theorem WellFormed.eq_of_entries (hr : r.WellFormed) (hs : s.WellFormed)
    (h : r.entries = s.entries) : r = s := by
  have hlist : r.list = s.list := by rw [list, h, list]
  have hpositions : r.positions = s.positions := by
    refine Dict.ext_get? fun name => Option.ext fun p => ?_
    rw [hr.position, hs.position, hlist]
  obtain ⟨entries, positions⟩ := r
  obtain ⟨entries', positions'⟩ := s
  obtain rfl : entries = entries' := h
  obtain rfl : positions = positions' := hpositions
  rfl

/-- Engines that are registered one after another under names of their own make up any entries. -/
theorem exists_reachable {entries : List Entry} (hnodup : (entries.map (·.name)).Nodup)
    (hnamed : ∀ entry ∈ entries, entry.engine.id = entry.name) :
    ∃ s : Registry, s.Reachable ∧ s.entries = entries := by
  induction entries using List.reverseRecOn with
  | nil => exact ⟨empty, ⟨[], rfl⟩, rfl⟩
  | append_singleton front last ih =>
    rw [List.map_append, List.nodup_append] at hnodup
    obtain ⟨hfront, -, hnew⟩ := hnodup
    obtain ⟨s, ⟨history, hs⟩, rfl⟩ :=
      ih hfront fun entry he => hnamed entry (List.mem_append_left _ he)
    have hid : last.engine.id = last.name := hnamed last (by simp)
    have hwf : s.WellFormed := wellFormed_of_reachable ⟨history, hs⟩
    have hfree : s.positions.get? last.engine.id = none := by
      rw [← Option.not_isSome_iff_eq_none, ← Dict.mem_keys, hwf.keys_perm.mem_iff, hid]
      exact fun hmem => hnew _ hmem _ (by simp) rfl
    refine ⟨s.register last.engine, ⟨history ++ [.register last.engine], ?_⟩, ?_⟩
    · rw [after_concat, ← hs, apply]
    · rw [register_of_none hfree, hid]

theorem reachable_iff_wellFormed : r.Reachable ↔ r.WellFormed := by
  refine ⟨wellFormed_of_reachable, fun h => ?_⟩
  obtain ⟨s, hs, hentries⟩ := exists_reachable h.nodup h.named
  rwa [h.eq_of_entries (wellFormed_of_reachable hs) hentries.symm]

end

/-- A registry whose positions lead no call astray. -/
structure Reliable (r : Registry) : Prop where
  wellFormed : r.WellFormed
  /-- The names of the list have positions, and no others have. -/
  keys : r.positions.keys.Perm r.list
  get? : ∀ name, Stepwise.get? r name = .ok (r.get? name)
  register : ∀ e, Stepwise.register r e = .ok (r.register e)
  /-- In whatever order the names that are left are visited. -/
  deregister : ∀ v name, Stepwise.deregister v r name = .ok (r.deregister name)

theorem WellFormed.reliable {r : Registry} (h : r.WellFormed) : r.Reliable where
  wellFormed := h
  keys := h.keys_perm
  get? := Stepwise.get?_eq h
  register := Stepwise.register_eq h
  deregister := Stepwise.deregister_eq h

/-- **Positions are always right.** Whatever is registered and taken out, one call after another and
with any order of visits in each, no call slips, and the registry that is left is well formed. Of any
well-formed registry each single call makes a well-formed one again; and there are no well-formed
registries but those that calls can make. -/
theorem positions_right :
    (∀ calls : List (Visiting × Change), ∃ r, Stepwise.after calls = .ok r ∧
      r = after (calls.map (·.2)) ∧ r.Reliable) ∧
    (∀ r : Registry, r.WellFormed → r.Reliable ∧ r.Reachable ∧
      ∀ v change, Stepwise.apply r (v, change) = .ok (r.apply change) ∧ (r.apply change).Reliable) := by
  constructor
  · intro calls
    exact ⟨_, Stepwise.after_eq calls, rfl, (wellFormed_after _).reliable⟩
  · intro r h
    refine ⟨h.reliable, reachable_iff_wellFormed.2 h, fun v change => ?_⟩
    exact ⟨Stepwise.apply_eq h (v, change), (wellFormed_apply h change).reliable⟩

/-- The names of a dictionary from the last to the first. -/
def backwards : Visiting := ⟨fun d => d.keys.reverse, fun d => List.reverse_perm d.keys⟩

/-- Three engines. -/
def shelf : Registry := ofList (["a", "b", "c"].map fun id => Script.engine { id })

/-- The first is taken out. `c` is visited before `b`, and moves to the position that `b` still has. -/
theorem positions_right_shelf :
    shelf.WellFormed ∧ backwards.order (shelf.positions.erase "a") = ["c", "b"] ∧
    ∃ rest, Stepwise.apply shelf (backwards, .deregister "a") = .ok rest ∧ rest.Reliable ∧
      rest.list = ["b", "c"] ∧ rest.positions.get? "b" = some 0 ∧
      rest.positions.get? "c" = some 1 := by
  have h : shelf.WellFormed := wellFormed_of_reachable (reachable_ofList _)
  obtain ⟨-, -, hstep⟩ := positions_right.2 shelf h
  obtain ⟨hrest, hreliable⟩ := hstep backwards (.deregister "a")
  exact ⟨h, by decide, _, hrest, hreliable, by decide, by decide, by decide⟩

/-- Without the moves a look-up would be led past the last entry. -/
example : Stepwise.get? { shelf with entries := shelf.entries.eraseIdx 0 } "c" =
    .error (.noEntry 2 2) := rfl

end Registry

end TrackResolver
