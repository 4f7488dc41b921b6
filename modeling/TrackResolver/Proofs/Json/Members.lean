import Mathlib.Data.List.Nodup
import Mathlib.Data.List.Pairwise
import Mathlib.Data.List.Perm.Basic
import Mathlib.Data.List.ReduceOption
import TrackResolver.Proofs.Json.Inside

/-!
# Records by their known members

A record is read member by member, but what comes of it does not depend on how: each member that the
record knows changes its own field, once, and every other member is only passed over.

Results:
* `Known`: a member that a record knows.
* `Does`: what a member of an object does to a record.
* `readRecord_object_iff`: which objects are read as a record, and as which.
* `readRecord_perm`: the members in another order.
* `fresh_of_readRecord`: no known member is there twice.
* `readRecord_member_iff`: one member and what the others make of the record.
-/
namespace TrackResolver.Json

open Reading

/-! ## Lists side by side -/

theorem forall₂_exists_right {α β : Type*} {R : α → β → Prop} {l : List α} {m : List β}
    (h : List.Forall₂ R l m) {a : α} (ha : a ∈ l) : ∃ b ∈ m, R a b := by
  induction h with
  | nil => cases ha
  | cons hab _ ih =>
    rcases List.mem_cons.1 ha with rfl | ha
    · exact ⟨_, List.mem_cons_self, hab⟩
    · obtain ⟨b, hb, hab⟩ := ih ha
      exact ⟨b, List.mem_cons_of_mem _ hb, hab⟩

theorem forall₂_exists_left {α β : Type*} {R : α → β → Prop} {l : List α} {m : List β}
    (h : List.Forall₂ R l m) {b : β} (hb : b ∈ m) : ∃ a ∈ l, R a b := by
  have hflip : List.Forall₂ (flip R) m l := h.flip
  exact forall₂_exists_right hflip hb

/-! ## Members that are known -/

/-- What is known of a value: whether it may be `null`, and whether it is put together out of values
of which more is known. -/
inductive Format where
  | plain
  | text
  | option (f : Format)
  | list (f : Format)
  | dict (f : Format)
  | record (members : List (String × Format))

/-- A member that the record type `τ` knows. -/
structure Known (τ : Type) where
  name : String
  required : Bool
  {α : Type}
  read : Reader α
  put : α → τ → τ
  format : Format

section
variable {τ : Type}

namespace Known

/-- The field of a record that the member is read into. -/
def field (k : Known τ) : Field Node τ where
  name := k.name
  required := k.required
  read n x := return k.put (← k.read n) x

@[simp] theorem field_required (k : Known τ) : k.field.required = k.required := rfl

/-- The changes that two members make can be made in either order. -/
def Commutes (k l : Known τ) : Prop := ∀ a b x, l.put b (k.put a x) = k.put a (l.put b x)

theorem read_field_eq_ok_iff {k : Known τ} {n : Node} {x y : τ} :
    k.field.read n x = .ok y ↔ ∃ a, k.read n = .ok a ∧ k.put a x = y := by
  constructor
  · intro h
    obtain ⟨a, ha, hput⟩ := exists_of_bind h
    exact ⟨a, ha, Except.ok.inj hput⟩
  · rintro ⟨a, ha, rfl⟩
    have hread : k.field.read n x = k.read n >>= fun a => .ok (k.put a x) := rfl
    rw [hread, ha]
    rfl

end Known

/-- The record knows these members and no others, each under a name of its own, and it does not matter
in which order they come. -/
structure Knows (r : Record Node τ) (known : List (Known τ)) : Prop where
  fields : r.fields = known.map Known.field
  nodup : (known.map Known.name).Nodup
  commutes : known.Pairwise Known.Commutes

/-- A change of a record under the name of a member. -/
abbrev Change (τ : Type) := String × (τ → τ)

/-- What a member of an object does to a record that knows these members: it changes its own field, or
is passed over. -/
inductive Does (known : List (Known τ)) (m : Node × Node) : Option (Change τ) → Prop
  | passes {name : String} (hname : readName m.1 = .ok name) (hno : name ∉ known.map Known.name)
    (hskip : m.2.skip = .ok ()) : Does known m none
  | puts {k : Known τ} {a : k.α} (hk : k ∈ known) (hname : readName m.1 = .ok k.name)
    (ha : k.read m.2 = .ok a) : Does known m (some (k.name, k.put a))

/-- The record after these changes. -/
def changed (changes : List (Change τ)) (x : τ) : τ := changes.foldl (fun x c => c.2 x) x

variable {r : Record Node τ} {known : List (Known τ)}

namespace Knows

theorem field?_eq_some (h : Knows r known) {k : Known τ} (hk : k ∈ known) :
    r.field? k.name = some k.field := by
  rw [Record.field?, h.fields]
  have hnodup := h.nodup
  clear h
  induction known with
  | nil => cases hk
  | cons l known ih =>
    obtain ⟨hfresh, hnodup⟩ := List.nodup_cons.1 hnodup
    rw [List.map_cons]
    rcases List.mem_cons.1 hk with rfl | hk
    · exact List.find?_cons_of_pos (by simp [Known.field])
    · have hne : l.name ≠ k.name := fun heq => hfresh (heq ▸ List.mem_map_of_mem hk)
      rw [List.find?_cons_of_neg (by simpa [Known.field] using hne)]
      exact ih hk hnodup

theorem field?_eq_none (h : Knows r known) {name : String} (hno : name ∉ known.map Known.name) :
    r.field? name = none := by
  rw [Record.field?, h.fields]
  refine List.find?_eq_none.2 fun f hf => ?_
  obtain ⟨k, hk, rfl⟩ := List.mem_map.1 hf
  have hne : k.name ≠ name := fun heq => hno (heq ▸ List.mem_map_of_mem hk)
  simpa [Known.field] using hne

theorem missing?_eq_none_iff (h : Knows r known) {seen : List String} :
    Record.missing? r.fields seen = none ↔ ∀ k ∈ known, k.required = true → k.name ∈ seen := by
  rw [Record.missing?, h.fields]
  simp [Known.field]

/-- One member. -/
theorem readMember_eq_ok_iff (h : Knows r known) {p q : Progress τ} {m : Node × Node} :
    readMember r p m = .ok q ↔
      (Does known m none ∧ q = p) ∨
      ∃ c, Does known m (some c) ∧ c.1 ∉ p.seen ∧ q = ⟨c.1 :: p.seen, c.2 p.value⟩ := by
  constructor
  · intro hread
    obtain ⟨name, hname, hrest⟩ := exists_of_bind hread
    by_cases hmem : name ∈ known.map Known.name
    · obtain ⟨k, hk, rfl⟩ := List.mem_map.1 hmem
      rw [h.field?_eq_some hk] at hrest
      dsimp only at hrest
      by_cases hseen : p.seen.contains k.name = true
      · rw [if_pos hseen] at hrest
        cases hrest
      · rw [if_neg hseen] at hrest
        obtain ⟨x, hx, hq⟩ := exists_of_bind hrest
        obtain ⟨a, ha, rfl⟩ := Known.read_field_eq_ok_iff.1 hx
        exact .inr ⟨_, .puts hk hname ha, by simpa using hseen, (Except.ok.inj hq).symm⟩
    · rw [h.field?_eq_none hmem] at hrest
      obtain ⟨_, hskip, hq⟩ := exists_of_bind hrest
      exact .inl ⟨.passes hname hmem hskip, (Except.ok.inj hq).symm⟩
  · rintro (⟨hdoes, rfl⟩ | ⟨c, hdoes, hfresh, rfl⟩)
    · obtain ⟨hname, hno, hskip⟩ := hdoes
      simp [readMember, hname, h.field?_eq_none hno, hskip, bind, Except.bind, pure, Except.pure]
    · cases hdoes with
      | @puts k a hk hname ha =>
        have hread : k.field.read m.2 p.value = .ok (k.put a p.value) :=
          Known.read_field_eq_ok_iff.2 ⟨a, ha, rfl⟩
        simp [readMember, hname, h.field?_eq_some hk, hfresh, hread, bind, Except.bind, pure,
          Except.pure]

/-- One member after another. -/
theorem foldlM_readMember_eq_ok_iff (h : Knows r known) {members : List (Node × Node)}
    {p q : Progress τ} :
    members.foldlM (readMember r) p = .ok q ↔
      ∃ es, List.Forall₂ (Does known) members es ∧ (es.reduceOption.map (·.1)).Nodup ∧
        (∀ c ∈ es.reduceOption, c.1 ∉ p.seen) ∧
        q = ⟨(es.reduceOption.map (·.1)).reverse ++ p.seen, changed es.reduceOption p.value⟩ := by
  induction members generalizing p with
  | nil =>
    constructor
    · intro hq
      exact ⟨[], .nil, .nil, nofun, (Except.ok.inj hq).symm⟩
    · rintro ⟨es, hes, -, -, rfl⟩
      cases hes
      rfl
  | cons m members ih =>
    constructor
    · intro hq
      rw [List.foldlM_cons] at hq
      obtain ⟨p', hp', hrest⟩ := exists_of_bind hq
      obtain ⟨es, hes, hnodup, hfresh, rfl⟩ := ih.1 hrest
      rcases h.readMember_eq_ok_iff.1 hp' with ⟨hdoes, rfl⟩ | ⟨c, hdoes, hc, rfl⟩
      · exact ⟨none :: es, .cons hdoes hes, hnodup, hfresh, rfl⟩
      · refine ⟨some c :: es, .cons hdoes hes, ?_, ?_, ?_⟩ <;> rw [List.reduceOption_cons_of_some]
        · refine List.nodup_cons.2 ⟨fun hmem => ?_, hnodup⟩
          obtain ⟨d, hd, heq⟩ := List.mem_map.1 hmem
          exact hfresh d hd (List.mem_cons.2 (.inl heq))
        · exact List.forall_mem_cons.2 ⟨hc, fun d hd hmem => hfresh d hd (List.mem_cons_of_mem _ hmem)⟩
        · simp [changed]
    · rintro ⟨es, hes, hnodup, hfresh, rfl⟩
      cases hes with
      | @cons _ e _ es hdoes hes =>
        rw [List.foldlM_cons]
        cases e with
        | none =>
          have hp : readMember r p m = .ok p := h.readMember_eq_ok_iff.2 (.inl ⟨hdoes, rfl⟩)
          rw [hp]
          exact ih.2 ⟨es, hes, hnodup, hfresh, rfl⟩
        | some c =>
          rw [List.reduceOption_cons_of_some] at hnodup hfresh ⊢
          obtain ⟨hlater, hnodup⟩ := List.nodup_cons.1 hnodup
          obtain ⟨hc, hfresh⟩ := List.forall_mem_cons.1 hfresh
          have hp : readMember r p m = .ok ⟨c.1 :: p.seen, c.2 p.value⟩ :=
            h.readMember_eq_ok_iff.2 (.inr ⟨c, hdoes, hc, rfl⟩)
          rw [hp]
          refine ih.2 ⟨es, hes, hnodup, fun d hd hmem => ?_, by simp [changed]⟩
          rcases List.mem_cons.1 hmem with heq | hmem
          · exact hlater (List.mem_map.2 ⟨d, hd, heq⟩)
          · exact hfresh d hd hmem

/-- An object is read as `a` if each of its members can be read or passed over, no known member is
there twice, each that is required is there, and the changes make `a` of the blank record. -/
theorem readRecord_object_iff (h : Knows r known) {members : List (Node × Node)} {a : τ} :
    readRecord r (.object members .closed) = .ok a ↔
      ∃ es, List.Forall₂ (Does known) members es ∧ (es.reduceOption.map (·.1)).Nodup ∧
        (∀ k ∈ known, k.required = true → k.name ∈ es.reduceOption.map (·.1)) ∧
        changed es.reduceOption r.blank = a := by
  rw [readRecord_closed_iff]
  constructor
  · rintro ⟨p, hp, hmissing, rfl⟩
    obtain ⟨es, hes, hnodup, -, rfl⟩ := h.foldlM_readMember_eq_ok_iff.1 hp
    refine ⟨es, hes, hnodup, fun k hk hrequired => ?_, rfl⟩
    simpa using h.missing?_eq_none_iff.1 hmissing k hk hrequired
  · rintro ⟨es, hes, hnodup, hrequired, rfl⟩
    refine ⟨_, h.foldlM_readMember_eq_ok_iff.2 ⟨es, hes, hnodup, by simp, rfl⟩, ?_, rfl⟩
    exact h.missing?_eq_none_iff.2 fun k hk hk' => by simpa using hrequired k hk hk'

end Knows

/-! ## What members do -/

theorem Does.some_iff {m : Node × Node} {c : Change τ} :
    Does known m (some c) ↔
      ∃ k ∈ known, ∃ a, readName m.1 = .ok k.name ∧ k.read m.2 = .ok a ∧ c = (k.name, k.put a) := by
  constructor
  · rintro ⟨⟩
    exact ⟨_, ‹_›, _, ‹_›, ‹_›, rfl⟩
  · rintro ⟨k, hk, a, hname, ha, rfl⟩
    exact .puts hk hname ha

/-- A member under a name that is known changes the field of that name. -/
theorem Does.of_name {m : Node × Node} {e : Option (Change τ)} (h : Does known m e) {name : String}
    (hname : readName m.1 = .ok name) (hknown : name ∈ known.map Known.name) :
    ∃ c, e = some c ∧ c.1 = name := by
  cases h with
  | passes hother hno =>
    cases hother.symm.trans hname
    exact absurd hknown hno
  | puts hk hother ha =>
    cases hother.symm.trans hname
    exact ⟨_, rfl, rfl⟩

section
variable {members : List (Node × Node)} {es : List (Option (Change τ))}

theorem exists_of_mem_changes (h : List.Forall₂ (Does known) members es) {c : Change τ}
    (hc : c ∈ es.reduceOption) : ∃ m ∈ members, Does known m (some c) :=
  forall₂_exists_left h (List.reduceOption_mem_iff.1 hc)

end

namespace Knows

/-- Changes under different names can be made in any order. -/
theorem changed_perm (h : Knows r known) {cs order : List (Change τ)} (hp : cs.Perm order)
    (hknown : ∀ c ∈ cs, ∃ k ∈ known, ∃ a, c = (k.name, k.put a)) (hnodup : (cs.map (·.1)).Nodup)
    (x : τ) : changed cs x = changed order x := by
  have hsymm : Std.Symm (@Known.Commutes τ) := ⟨fun k l h a b x => (h b a x).symm⟩
  refine hp.foldl_eq' (fun c hc d hd x => ?_) x
  obtain ⟨k, hk, a, rfl⟩ := hknown c hc
  obtain ⟨l, hl, b, rfl⟩ := hknown d hd
  by_cases hname : k.name = l.name
  · rw [List.inj_on_of_nodup_map hnodup hc hd hname]
  · have hne : k ≠ l := fun heq => hname (congrArg Known.name heq)
    exact h.commutes.forall hk hl hne a b x

/-- The members of a record can be written in any order. -/
theorem readRecord_perm (h : Knows r known) {members order : List (Node × Node)}
    (hp : order.Perm members) {a : τ} (hread : readRecord r (.object members .closed) = .ok a) :
    readRecord r (.object order .closed) = .ok a := by
  obtain ⟨es, hes, hnodup, hrequired, rfl⟩ := h.readRecord_object_iff.1 hread
  obtain ⟨ordered, hordered, hperm⟩ := List.perm_comp_forall₂ hp hes
  have hchanges : ordered.reduceOption.Perm es.reduceOption := hperm.filterMap id
  have hnames := hchanges.map (·.1)
  refine h.readRecord_object_iff.2 ⟨ordered, hordered, hnames.nodup_iff.2 hnodup,
    fun k hk hk' => hnames.mem_iff.2 (hrequired k hk hk'), ?_⟩
  refine h.changed_perm hchanges (fun c hc => ?_) (hnames.nodup_iff.2 hnodup) r.blank
  obtain ⟨m, -, hdoes⟩ := exists_of_mem_changes hordered hc
  obtain ⟨k, hk, a, -, -, rfl⟩ := Does.some_iff.1 hdoes
  exact ⟨k, hk, a, rfl⟩

/-- Two members do not have the name of a member that is known. -/
theorem fresh_of_readRecord (h : Knows r known) {m : Node × Node} {members : List (Node × Node)}
    {name : String} {a : τ} (hread : readRecord r (.object (m :: members) .closed) = .ok a)
    (hknown : name ∈ known.map Known.name) (hm : readName m.1 = .ok name) :
    ∀ l ∈ members, readName l.1 ≠ .ok name := by
  intro l hl hname
  obtain ⟨es, hes, hnodup, -⟩ := h.readRecord_object_iff.1 hread
  cases hes with
  | @cons _ e _ es hdoes hes =>
    obtain ⟨c, rfl, hc⟩ := hdoes.of_name hm hknown
    obtain ⟨e, he, hother⟩ := forall₂_exists_right hes hl
    obtain ⟨d, rfl, hd⟩ := hother.of_name hname hknown
    rw [List.reduceOption_cons_of_some] at hnodup
    refine (List.nodup_cons.1 hnodup).1 (List.mem_map.2 ⟨d, List.reduceOption_mem_iff.2 he, ?_⟩)
    exact hd.trans hc.symm

/-- A member that is not known can be put anywhere. -/
theorem readRecord_insert (h : Knows r known) {front back : List (Node × Node)} {m : Node × Node}
    {name : String} (hname : readName m.1 = .ok name) (hno : name ∉ known.map Known.name)
    (hskip : m.2.skip = .ok ()) {a : τ}
    (hread : readRecord r (.object (front ++ back) .closed) = .ok a) :
    readRecord r (.object (front ++ m :: back) .closed) = .ok a := by
  obtain ⟨es, hes, hall⟩ := h.readRecord_object_iff.1 hread
  refine h.readRecord_perm List.perm_middle ?_
  exact h.readRecord_object_iff.2 ⟨none :: es, .cons (.passes hname hno hskip) hes, hall⟩

end Knows

/-! ## One member and the others -/

/-- Members among which `k` is not make `y` of the blank record, and nothing but `k` is missing. -/
def Others (r : Record Node τ) (known : List (Known τ)) (k : Known τ) (members : List (Node × Node))
    (y : τ) : Prop :=
  ∃ es, List.Forall₂ (Does known) members es ∧ (es.reduceOption.map (·.1)).Nodup ∧
    k.name ∉ es.reduceOption.map (·.1) ∧
    (∀ l ∈ known, l.required = true → l.name = k.name ∨ l.name ∈ es.reduceOption.map (·.1)) ∧
    changed es.reduceOption r.blank = y

namespace Knows

variable {members : List (Node × Node)} {k : Known τ} {a y : τ}

theorem eq_of_name (h : Knows r known) {l : Known τ} (hk : k ∈ known) (hl : l ∈ known)
    (hname : k.name = l.name) : k = l :=
  List.inj_on_of_nodup_map h.nodup hk hl hname

/-- A member under the name of `k` does what `k` does. -/
theorem does_iff (h : Knows r known) (hk : k ∈ known) {m : Node × Node}
    (hname : readName m.1 = .ok k.name) {e : Option (Change τ)} :
    Does known m e ↔ ∃ c, k.read m.2 = .ok c ∧ e = some (k.name, k.put c) := by
  constructor
  · intro hdoes
    cases hdoes with
    | passes hother hno =>
      cases hother.symm.trans hname
      exact absurd (List.mem_map_of_mem hk) hno
    | @puts l c hl hother hc =>
      obtain rfl := h.eq_of_name hl hk (Except.ok.inj (hother.symm.trans hname))
      exact ⟨c, hc, rfl⟩
  · rintro ⟨c, hc, rfl⟩
    exact .puts hk hname hc

/-- What `k` changes can be changed after all else. -/
theorem changed_put (h : Knows r known) (hk : k ∈ known) {es : List (Option (Change τ))}
    (hes : List.Forall₂ (Does known) members es) (hnodup : (es.reduceOption.map (·.1)).Nodup)
    (hfresh : k.name ∉ es.reduceOption.map (·.1)) (c : k.α) (x : τ) :
    changed es.reduceOption (k.put c x) = k.put c (changed es.reduceOption x) := by
  have hmoved : changed ((k.name, k.put c) :: es.reduceOption) x =
      changed (es.reduceOption ++ [(k.name, k.put c)]) x := by
    refine h.changed_perm (List.perm_append_singleton _ _).symm ?_
      (List.nodup_cons.2 ⟨hfresh, hnodup⟩) x
    refine List.forall_mem_cons.2 ⟨⟨k, hk, c, rfl⟩, fun d hd => ?_⟩
    obtain ⟨m, -, hdoes⟩ := exists_of_mem_changes hes hd
    obtain ⟨l, hl, b, -, -, rfl⟩ := Does.some_iff.1 hdoes
    exact ⟨l, hl, b, rfl⟩
  rw [changed, changed, List.foldl_append] at hmoved
  exact hmoved

/-- A known member changes its field of what the others make. -/
theorem readRecord_member_iff (h : Knows r known) (hk : k ∈ known) {name v : Node}
    (hname : readName name = .ok k.name) {front back : List (Node × Node)} :
    readRecord r (.object (front ++ (name, v) :: back) .closed) = .ok a ↔
      ∃ y c, Others r known k (front ++ back) y ∧ k.read v = .ok c ∧ k.put c y = a := by
  -- with the member in front, what it does is the first change
  have hfirst : readRecord r (.object (front ++ (name, v) :: back) .closed) = .ok a ↔
      readRecord r (.object ((name, v) :: (front ++ back)) .closed) = .ok a :=
    ⟨h.readRecord_perm List.perm_middle.symm, h.readRecord_perm List.perm_middle⟩
  rw [hfirst, h.readRecord_object_iff]
  constructor
  · rintro ⟨es, hes, hnodup, hrequired, rfl⟩
    cases hes with
    | @cons _ e _ es hdoes hes =>
      obtain ⟨c, hc, rfl⟩ := (h.does_iff hk hname).1 hdoes
      rw [List.reduceOption_cons_of_some] at hnodup hrequired ⊢
      obtain ⟨hfresh, hnodup⟩ := List.nodup_cons.1 hnodup
      refine ⟨_, c, ⟨es, hes, hnodup, hfresh, fun l hl hl' => ?_, rfl⟩, hc,
        (h.changed_put hk hes hnodup hfresh c r.blank).symm⟩
      exact List.mem_cons.1 (hrequired l hl hl')
  · rintro ⟨_, c, ⟨es, hes, hnodup, hfresh, hrequired, rfl⟩, hc, rfl⟩
    refine ⟨some (k.name, k.put c) :: es, .cons ((h.does_iff hk hname).2 ⟨c, hc, rfl⟩) hes, ?_, ?_,
      h.changed_put hk hes hnodup hfresh c r.blank⟩
    · exact List.nodup_cons.2 ⟨hfresh, hnodup⟩
    · exact fun l hl hl' => List.mem_cons.2 (hrequired l hl hl')

/-- Where `k` is not missed, the others are a record. -/
theorem readRecord_of_others (h : Knows r known) (hk : k ∈ known) (hleft : k.required = false)
    (hy : Others r known k members y) : readRecord r (.object members .closed) = .ok y := by
  obtain ⟨es, hes, hnodup, -, hrequired, rfl⟩ := hy
  refine h.readRecord_object_iff.2 ⟨es, hes, hnodup, fun l hl hl' => ?_, rfl⟩
  refine (hrequired l hl hl').resolve_left fun hname => ?_
  rw [h.eq_of_name hl hk hname, hleft] at hl'
  cases hl'

theorem others_of_readRecord (h : Knows r known)
    (hread : readRecord r (.object members .closed) = .ok y)
    (habsent : ∀ m ∈ members, readName m.1 ≠ .ok k.name) : Others r known k members y := by
  obtain ⟨es, hes, hnodup, hrequired, rfl⟩ := h.readRecord_object_iff.1 hread
  refine ⟨es, hes, hnodup, fun hmem => ?_, fun l hl hl' => .inr (hrequired l hl hl'), rfl⟩
  obtain ⟨c, hc, hname⟩ := List.mem_map.1 hmem
  obtain ⟨m, hm, hdoes⟩ := exists_of_mem_changes hes hc
  obtain ⟨l, -, b, hl, -, rfl⟩ := Does.some_iff.1 hdoes
  exact habsent m hm (hl.trans (congrArg Except.ok hname))

/-- A change that leaves the blank record alone leaves alone what the others make of it. -/
theorem put_of_others (h : Knows r known) (hk : k ∈ known) {c : k.α}
    (hblank : k.put c r.blank = r.blank) (hy : Others r known k members y) : k.put c y = y := by
  obtain ⟨es, hes, hnodup, hfresh, -, rfl⟩ := hy
  rw [← h.changed_put hk hes hnodup hfresh, hblank]

end Knows

end

end TrackResolver.Json
