import TrackResolver.Proofs.Json.Maps

/-!
# Reading dictionaries and records back

Both are read member by member. Two members under different names can be read in either order, so all
orders come to the same.

Results:
* `Reads.dict`: a dictionary.
* `readFirst_frame`: a record in the text of an object.
* `Member`: a member of a record as it is written, with the change that reading it makes.
* `MadeOf.reads`: a record out of its members.
-/
namespace TrackResolver

namespace Json

open Reading

/-- What is written as the members of an object is found among them in some order. -/
theorem Value.Rearranges.exists_perm {β : Type} {f : β → String × Value} {bs : List β} {w : Value}
    (hw : (Value.object (bs.map f)).Rearranges w) {R : β → String × Value → Prop}
    (h : ∀ b m, SameMember (f b) m → R b m) :
    ∃ ordered order, w = .object order ∧ bs.Perm ordered ∧ List.Forall₂ R ordered order := by
  obtain ⟨others, order, rfl, horder, hothers⟩ := hw.of_object
  have hcomp : Relation.Comp (List.Forall₂ R) List.Perm bs order :=
    ⟨others, (List.forall₂_map_left_iff.1 hothers).imp h, horder⟩
  rw [List.forall₂_comp_perm_eq_perm_comp_forall₂] at hcomp
  obtain ⟨ordered, hperm, hordered⟩ := hcomp
  exact ⟨ordered, order, rfl, hperm, hordered⟩

section
variable {α : Type} {read : Reader α}

/-- A member is read as an entry. -/
def ReadsEntry (read : Reader α) (e : String × α) (m : String × Value) : Prop :=
  m.1 = e.1 ∧ read m.2.node = .ok e.2

theorem isEntry_memberNodes {entries : List (String × α)} {order : List (String × Value)}
    (h : List.Forall₂ (ReadsEntry read) entries order) :
    List.Forall₂ (IsEntry read) (memberNodes order) entries := by
  induction h with
  | nil => exact .nil
  | @cons e m entries order hm _ ih =>
    obtain ⟨k, v⟩ := m
    obtain ⟨rfl, hv⟩ := hm
    exact .cons ⟨readName_textNode e.1, hv⟩ ih

/-- In whatever order the entries are written. -/
theorem Reads.dict {write : α → Value} (h : ∀ a, Reads read (write a) a) (d : Dict α) :
    Reads (readDict read) (Value.ofDict write d) d := by
  intro w hw
  have hentry : ∀ (e : String × α) m, SameMember (e.1, write e.2) m → ReadsEntry read e m :=
    fun e m hm => ⟨hm.1, h e.2 _ hm.2⟩
  obtain ⟨entries, order, rfl, hperm, hentries⟩ := hw.exists_perm hentry
  rw [Value.node]
  exact readDict_eq_ok_iff.2
    ⟨entries, isEntry_memberNodes hentries, Dict.ofList_of_perm hperm.symm⟩

end

/-! ## Records -/

theorem readMember_textNode {τ : Type} {r : Record Node τ} {name : String} {f : Field Node τ}
    (hf : r.field? name = some f) {p : Progress τ} (hp : name ∉ p.seen) {n : Node} {x : τ}
    (hn : f.read n p.value = .ok x) :
    readMember r p (textNode name, n) = .ok ⟨name :: p.seen, x⟩ := by
  have hname := readName_textNode name
  simp [readMember, hname, hf, hp, hn, bind, Except.bind, pure, Except.pure]

/-- A record in the text of an object, put together out of the texts of its values. -/
theorem readFirst_frame {τ : Type} {r : Record Node τ} {texts : List (String × List UInt8)}
    {members : List (Node × Node)} (h : List.Forall₂ HoldsMember texts members) {p : Progress τ}
    (hfold : members.foldlM (readMember r) ⟨[], r.blank⟩ = .ok p)
    (hmissing : Record.missing? r.fields p.seen = none) :
    readFirst (readRecord r) (frame texts) = .ok p.value := by
  rw [readFirst, (holds_frame h).parse]
  exact (readRecord_closed_iff r).2 ⟨p, hfold, hmissing, rfl⟩

/-- A member of a record as it is written, and the change that reading it makes, however its value is
arranged. -/
structure Member {τ : Type} (r : Record Node τ) where
  name : String
  value : Value
  put : τ → τ
  reads : ∃ f, r.field? name = some f ∧
    ∀ w, value.Rearranges w → ∀ x, f.read w.node x = .ok (put x)

namespace Member

variable {τ : Type} {r : Record Node τ}

def written (m : Member r) : String × Value := (m.name, m.value)

/-- The record with the changes of these members. -/
def putAll (members : List (Member r)) (x : τ) : τ := members.foldl (fun x m => m.put x) x

/-- The member for a field with this reader. -/
def ofField {α : Type} {read : Reader α} {put : α → τ → τ} (name : String)
    (hf : (r.field? name).map Field.read = some fun n x => return put (← read n) x) {v : Value} {a : α}
    (h : Reads read v a) : Member r where
  name := name
  value := v
  put := put a
  reads := by
    obtain ⟨f, hfield, hread⟩ := Option.map_eq_some_iff.1 hf
    refine ⟨f, hfield, fun w hw x => ?_⟩
    rw [hread]
    dsimp only
    rw [h w hw]
    rfl

/-- What is written is read as the member. -/
def IsReadFrom (m : Member r) (written : String × Value) : Prop :=
  written.1 = m.name ∧ ∃ f, r.field? m.name = some f ∧ ∀ x, f.read written.2.node x = .ok (m.put x)

theorem readMember_of_isReadFrom {m : Member r} {written : String × Value}
    (h : m.IsReadFrom written) {p : Progress τ} (hp : m.name ∉ p.seen) :
    readMember r p (textNode written.1, written.2.node) = .ok ⟨m.name :: p.seen, m.put p.value⟩ := by
  obtain ⟨k, v⟩ := written
  obtain ⟨rfl, f, hfield, hread⟩ := h
  exact readMember_textNode hfield hp (hread p.value)

theorem foldlM_readMember {members : List (Member r)} {order : List (String × Value)}
    (h : List.Forall₂ IsReadFrom members order) (p : Progress τ)
    (hnames : (members.map name).Nodup) (hfresh : ∀ m ∈ members, m.name ∉ p.seen) :
    (memberNodes order).foldlM (readMember r) p =
      .ok ⟨(members.map name).reverse ++ p.seen, putAll members p.value⟩ := by
  induction h generalizing p with
  | nil => rfl
  | @cons m written members order hm _ ih =>
    obtain ⟨hlater, hnames⟩ := List.nodup_cons.1 hnames
    have hstep := readMember_of_isReadFrom hm (hfresh m List.mem_cons_self)
    have hrest : ∀ u ∈ members, u.name ∉ m.name :: p.seen := by
      intro u hu hmem
      rcases List.mem_cons.1 hmem with heq | hmem
      · exact hlater (heq ▸ List.mem_map_of_mem hu)
      · exact hfresh u (List.mem_cons_of_mem _ hu) hmem
    rw [memberNodes, List.foldlM_cons, hstep]
    refine (ih ⟨m.name :: p.seen, m.put p.value⟩ hnames hrest).trans ?_
    simp [putAll]

/-- The changes of two members can be made in either order. -/
def Commutes (m u : Member r) : Prop := ∀ x, u.put (m.put x) = m.put (u.put x)

theorem putAll_perm {members order : List (Member r)} (hp : members.Perm order)
    (h : members.Pairwise Commutes) (x : τ) : putAll members x = putAll order x := by
  have hsymm : Std.Symm (Commutes (r := r)) := ⟨fun m u h x => (h x).symm⟩
  have hall := h.forall_of_forall fun m _ x => rfl
  exact hp.foldl_eq' (fun m hm u hu x => hall hm hu x) x

end Member

/-- The names of the fields that may not be left out. -/
def requiredNames {τ : Type} (r : Record Node τ) : List String :=
  (r.fields.filter (·.required)).map (·.name)

theorem missing?_eq_none {τ : Type} {r : Record Node τ} {seen : List String}
    (h : ∀ name ∈ requiredNames r, name ∈ seen) : Record.missing? r.fields seen = none := by
  refine List.find?_eq_none.2 fun f hf => ?_
  cases hrequired : f.required with
  | false => simp
  | true =>
    have hname : f.name ∈ requiredNames r :=
      List.mem_map_of_mem (List.mem_filter.2 ⟨hf, hrequired⟩)
    simpa using h _ hname

/-- A value is made of members: it is written as an object of them, and a record with nothing given
becomes it by their changes. -/
structure MadeOf {τ : Type} {r : Record Node τ} (members : List (Member r)) (v : Value) (a : τ) :
    Prop where
  nodup : (members.map Member.name).Nodup
  commutes : members.Pairwise Member.Commutes
  required : ∀ name ∈ requiredNames r, name ∈ members.map Member.name
  written : v = .object (members.map Member.written)
  value : Member.putAll members r.blank = a

/-- A record is read out of its members, in whatever order they are written. What is left out keeps
its blank value. -/
theorem MadeOf.reads {τ : Type} {r : Record Node τ} {members : List (Member r)} {v : Value} {a : τ}
    (h : MadeOf members v a) : Reads (readRecord r) v a := by
  intro w hw
  rw [h.written] at hw
  have hmember : ∀ (m : Member r) written, SameMember m.written written → m.IsReadFrom written := by
    intro m written hm
    obtain ⟨f, hfield, hread⟩ := m.reads
    exact ⟨hm.1, f, hfield, hread _ hm.2⟩
  obtain ⟨ordered, order, rfl, hperm, hreads⟩ := hw.exists_perm hmember
  have hnames : (members.map Member.name).Perm (ordered.map Member.name) := hperm.map _
  have hfold := Member.foldlM_readMember hreads ⟨[], r.blank⟩ (hnames.nodup_iff.1 h.nodup) (by simp)
  rw [List.append_nil] at hfold
  have hmissing : Record.missing? r.fields (ordered.map Member.name).reverse = none :=
    missing?_eq_none fun name hname =>
      List.mem_reverse.2 (hnames.mem_iff.1 (h.required name hname))
  rw [Value.node]
  refine (readRecord_closed_iff r).2 ⟨_, hfold, hmissing, ?_⟩
  rw [← Member.putAll_perm hperm h.commutes, h.value]

/-- A value that is made of two members. -/
theorem MadeOf.pair {τ : Type} {r : Record Node τ} {m u : Member r} (hname : m.name ≠ u.name)
    (hput : m.Commutes u) (hrequired : requiredNames r ⊆ [m.name, u.name]) :
    MadeOf [m, u] (.object [m.written, u.written]) (u.put (m.put r.blank)) where
  nodup := by simp [hname]
  commutes := by simp [hput]
  required := fun _ hname => hrequired hname
  written := rfl
  value := rfl

end Json

end TrackResolver
