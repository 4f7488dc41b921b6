import TrackResolver.Proofs.Json.Grammar
import TrackResolver.Proofs.Json.Members

/-!
# Places in a document

A record can also be given as an array, whose items stand for the members in their order. Either way a
member has a place in the document, and what stands there is put into the record without regard to
the rest.

Results:
* `readRecord_array_iff`: an array is read as the object whose members it stands for.
* `Place`: where the value of a member stands.
* `readRecord_place`: another value in its place.
* `put_of_gives`: a member that is left out, or given as what the blank record has.
* `exists_around`: the text around a value that is `null`.
-/
namespace TrackResolver.Json

open Reading

section
variable {τ : Type} {r : Record Node τ} {known : List (Known τ)}

/-! ## Arrays -/

/-- The items as members, under the names whose places they have. -/
def labelled (names : List String) (items : List Node) : List (Node × Node) :=
  (names.map textNode).zip items

theorem checkLength_eq_ok_iff {left : List (Field Node τ)} :
    r.checkLength left = .ok () ↔ ∀ f ∈ left, f.required = false := by
  rw [Record.checkLength]
  cases hfind : left.findIdx? (·.required) with
  | none => simpa using hfind
  | some i =>
    refine iff_of_false nofun fun hall => ?_
    have hnone : left.findIdx? (·.required) = none := by simpa using hall
    rw [hnone] at hfind
    cases hfind

namespace Knows

/-- The items of an array, one after another. -/
theorem readItems_eq_ok_iff (h : Knows r known) {left : List (Known τ)} (hleft : left ⊆ known)
    {items : List Node} {x a : τ} :
    readItems r .closed (left.map Known.field) items x = .ok a ↔
      items.length ≤ left.length ∧ (∀ k ∈ left.drop items.length, k.required = false) ∧
      ∃ es, List.Forall₂ (Does known) (labelled (left.map Known.name) items) es ∧
        changed es.reduceOption x = a := by
  induction left generalizing items x with
  | nil =>
    cases items with
    | nil =>
      constructor
      · intro hread
        exact ⟨Nat.le_refl _, nofun, [], .nil, Except.ok.inj hread⟩
      · rintro ⟨-, -, es, hes, rfl⟩
        cases hes
        rfl
    | cons => exact iff_of_false nofun fun ⟨hlength, _⟩ => absurd hlength (Nat.not_succ_le_zero _)
  | cons k left ih =>
    obtain ⟨hk, hleft⟩ := List.cons_subset.1 hleft
    cases items with
    | nil =>
      -- what is left has no items, so none of it may be required
      have hrest : readItems r .closed ((k :: left).map Known.field) [] x = .ok a ↔
          r.checkLength ((k :: left).map Known.field) = .ok () ∧ x = a := by
        constructor
        · intro hread
          obtain ⟨_, -, hrest⟩ := exists_of_bind hread
          obtain ⟨_, hcheck, ha⟩ := exists_of_bind hrest
          exact ⟨hcheck, Except.ok.inj ha⟩
        · rintro ⟨hcheck, rfl⟩
          rw [List.map_cons] at hcheck ⊢
          simp [readItems, Ending.check, hcheck, bind, Except.bind, pure, Except.pure]
      rw [hrest, checkLength_eq_ok_iff]
      constructor
      · rintro ⟨hall, rfl⟩
        exact ⟨Nat.zero_le _, by simpa using hall, [], .nil, rfl⟩
      · rintro ⟨-, hall, es, hes, rfl⟩
        cases hes
        exact ⟨by simpa using hall, rfl⟩
    | cons item items =>
      have hname := readName_textNode k.name
      constructor
      · intro hread
        obtain ⟨y, hy, hrest⟩ := exists_of_bind hread
        obtain ⟨c, hc, rfl⟩ := Known.read_field_eq_ok_iff.1 hy
        obtain ⟨hlength, hmissing, es, hes, rfl⟩ := (ih hleft).1 hrest
        exact ⟨Nat.succ_le_succ hlength, hmissing, _, .cons (.puts hk hname hc) hes, rfl⟩
      · rintro ⟨hlength, hmissing, es, hes, rfl⟩
        cases hes with
        | @cons _ e _ es hdoes hes =>
          obtain ⟨c, hc, rfl⟩ := (h.does_iff hk hname).1 hdoes
          have hy : k.field.read item x = .ok (k.put c x) := Known.read_field_eq_ok_iff.2 ⟨c, hc, rfl⟩
          rw [List.map_cons, readItems, hy]
          exact (ih hleft).2 ⟨Nat.le_of_succ_le_succ hlength, hmissing, es, hes, rfl⟩

/-- The names of what the items of an array do. -/
theorem names_of_labelled (h : Knows r known) {left : List (Known τ)} (hleft : left ⊆ known)
    {items : List Node} {es : List (Option (Change τ))}
    (hes : List.Forall₂ (Does known) (labelled (left.map Known.name) items) es) :
    es.reduceOption.map (·.1) = (left.take items.length).map Known.name := by
  induction left generalizing items es with
  | nil =>
    cases hes
    simp
  | cons k left ih =>
    obtain ⟨hk, hleft⟩ := List.cons_subset.1 hleft
    cases items with
    | nil => cases hes; rfl
    | cons item items =>
      cases hes with
      | @cons _ e _ es hdoes hes =>
        obtain ⟨c, hc, rfl⟩ := (h.does_iff hk (readName_textNode k.name)).1 hdoes
        rw [List.reduceOption_cons_of_some, List.map_cons, ih hleft hes]
        rfl

/-- An array is read as the object whose members its items stand for. -/
theorem readRecord_array_iff (h : Knows r known) {items : List Node} {a : τ} :
    readRecord r (.array items .closed) = .ok a ↔
      items.length ≤ known.length ∧
        readRecord r (.object (labelled (known.map Known.name) items) .closed) = .ok a := by
  have harray : readRecord r (.array items .closed) =
      readItems r .closed (known.map Known.field) items r.blank := by rw [readRecord, h.fields]
  rw [harray, h.readItems_eq_ok_iff (List.Subset.refl _), h.readRecord_object_iff]
  refine and_congr_right fun _ => ?_
  have hcut : known.take items.length ++ known.drop items.length = known := List.take_append_drop _ _
  constructor
  · rintro ⟨hmissing, es, hes, rfl⟩
    have hnames := h.names_of_labelled (List.Subset.refl _) hes
    refine ⟨es, hes, ?_, fun k hk hk' => ?_, rfl⟩ <;> rw [hnames]
    · exact h.nodup.sublist ((List.take_sublist _ _).map _)
    · rw [← hcut, List.mem_append] at hk
      refine List.mem_map_of_mem (hk.resolve_right fun hlater => ?_)
      rw [hmissing k hlater] at hk'
      cases hk'
  · rintro ⟨es, hes, -, hrequired, rfl⟩
    have hnames := h.names_of_labelled (List.Subset.refl _) hes
    rw [hnames] at hrequired
    refine ⟨fun k hk => Bool.eq_false_iff.2 fun hk' => ?_, es, hes, rfl⟩
    have hnodup := h.nodup
    rw [← hcut, List.map_append] at hnodup
    exact List.disjoint_of_nodup_append hnodup (hrequired k (List.mem_of_mem_drop hk) hk')
      (List.mem_map_of_mem hk)

end Knows

/-! ## What a document gives -/

/-- The value is an object, or an array of no more than so many items. -/
def Node.Fits (count : Nat) : Node → Prop
  | .object _ .closed => True
  | .array items .closed => items.length ≤ count
  | _ => False

/-- The members that the value gives to a record with members of these names. -/
def Node.given (names : List String) : Node → List (Node × Node)
  | .object members _ => members
  | .array items _ => labelled names items
  | _ => []

/-- The value gives `v` for the member `name`. -/
def Node.Gives (names : List String) (name : String) (n v : Node) : Prop :=
  ∃ m ∈ n.given names, readName m.1 = .ok name ∧ m.2 = v

namespace Knows

/-- A record is read out of the members that it is given. -/
theorem readRecord_iff_given (h : Knows r known) {n : Node} {a : τ} :
    readRecord r n = .ok a ↔ n.Fits known.length ∧
      readRecord r (.object (n.given (known.map Known.name)) .closed) = .ok a := by
  have hclosed : n.skip ≠ .ok () → readRecord r n ≠ .ok a := fun hskip hread =>
    hskip (minds_readRecord r n a hread)
  cases n with
  | object members ending =>
    cases ending with
    | closed => exact (and_iff_right trivial).symm
    | stopped s => exact iff_of_false (hclosed nofun) fun hfits => hfits.1
  | array items ending =>
    cases ending with
    | closed => exact h.readRecord_array_iff
    | stopped s => exact iff_of_false (hclosed nofun) fun hfits => hfits.1
  | _ => exact iff_of_false nofun fun hfits => hfits.1

/-- A member that is known is given one value. -/
theorem gives_unique (h : Knows r known) {n v w : Node} {a : τ} (hread : readRecord r n = .ok a)
    {name : String} (hknown : name ∈ known.map Known.name)
    (hv : n.Gives (known.map Known.name) name v) (hw : n.Gives (known.map Known.name) name w) :
    v = w := by
  obtain ⟨m, hm, hname, rfl⟩ := hv
  obtain ⟨l, hl, hother, rfl⟩ := hw
  obtain ⟨front, back, hgiven⟩ := List.append_of_mem hm
  have hobject := (h.readRecord_iff_given.1 hread).2
  rw [hgiven] at hobject hl
  have hfresh := h.fresh_of_readRecord (h.readRecord_perm List.perm_middle.symm hobject) hknown hname
  rcases List.mem_cons.1 (List.perm_middle.mem_iff.1 hl) with rfl | hl
  · rfl
  · exact absurd hother (hfresh l hl)

end Knows

/-! ## Places -/

variable {names : List String} {name : String} {hole : Node → Node}

/-- The value of the member `name` stands here, in an object or in an array. -/
inductive Place (names : List String) (name : String) : (Node → Node) → Prop
  | member {k : Node} (hk : readName k = .ok name) (front back : List (Node × Node)) :
    Place names name fun n => .object (front ++ (k, n) :: back) .closed
  | item {front : List Node} (h : names[front.length]? = some name) (back : List Node) :
    Place names name fun n => .array (front ++ n :: back) .closed

theorem labelled_middle {front : List Node} (h : names[front.length]? = some name) (n : Node)
    (back : List Node) :
    labelled names (front ++ n :: back) =
      labelled names front ++ (textNode name, n) :: labelled (names.drop (front.length + 1)) back := by
  induction front generalizing names with
  | nil =>
    cases names with
    | nil => cases h
    | cons name' names =>
      cases h
      rfl
  | cons item front ih =>
    cases names with
    | nil => cases h
    | cons name' names => exact congrArg ((textNode name', item) :: ·) (ih h)

namespace Place

/-- What the document gives besides what stands in the place. -/
theorem exists_given (h : Place names name hole) :
    ∃ front k back, readName k = .ok name ∧ ∀ n, (hole n).given names = front ++ (k, n) :: back := by
  cases h with
  | member hk front back => exact ⟨front, _, back, hk, fun _ => rfl⟩
  | item hname back => exact ⟨_, _, _, readName_textNode name, fun n => labelled_middle hname n back⟩

theorem fits_iff (h : Place names name hole) (n m : Node) (count : Nat) :
    (hole n).Fits count ↔ (hole m).Fits count := by
  cases h with
  | member => exact Iff.rfl
  | item => simp only [Node.Fits, List.length_append, List.length_cons]

theorem gives (h : Place names name hole) (n : Node) : (hole n).Gives names name n := by
  obtain ⟨front, k, back, hk, hgiven⟩ := h.exists_given
  refine ⟨(k, n), ?_, hk, rfl⟩
  rw [hgiven]
  exact List.mem_append_right _ List.mem_cons_self

/-- Another member is given what it was given before. -/
theorem gives_other (h : Place names name hole) {n m v : Node} {other : String} (hne : other ≠ name)
    (hv : (hole n).Gives names other v) : (hole m).Gives names other v := by
  obtain ⟨front, k, back, hk, hgiven⟩ := h.exists_given
  obtain ⟨l, hl, hother, rfl⟩ := hv
  refine ⟨l, ?_, hother, rfl⟩
  rw [hgiven] at hl ⊢
  rcases List.mem_cons.1 (List.perm_middle.mem_iff.1 hl) with rfl | hl
  · exact absurd (Except.ok.inj (hother.symm.trans hk)) hne
  · exact List.perm_middle.mem_iff.2 (List.mem_cons_of_mem _ hl)

end Place

theorem exists_place {n v : Node} (hn : n.skip = .ok ()) (h : n.Gives names name v) :
    ∃ hole, Place names name hole ∧ n = hole v := by
  obtain ⟨⟨k, v⟩, hm, hk, rfl⟩ := h
  cases n with
  | object members ending =>
    cases ending with
    | stopped s => cases hn
    | closed =>
      obtain ⟨front, back, hmembers⟩ := List.append_of_mem hm
      exact ⟨_, .member hk front back, congrArg (Node.object · .closed) hmembers⟩
  | array items ending =>
    cases ending with
    | stopped s => cases hn
    | closed =>
      obtain ⟨i, hi⟩ := List.mem_iff_getElem?.1 hm
      obtain ⟨hname, hv⟩ := List.getElem?_zip_eq_some.1 hi
      obtain ⟨other, hother, rfl⟩ := Option.map_eq_some_iff.1 (List.getElem?_map.symm.trans hname)
      obtain rfl : other = name := Except.ok.inj ((readName_textNode other).symm.trans hk)
      obtain ⟨hlt, rfl⟩ := List.getElem?_eq_some_iff.1 hv
      have hlength : (items.take i).length = i := List.length_take_of_le (Nat.le_of_lt hlt)
      refine ⟨_, .item (hlength.symm ▸ hother) (items.drop (i + 1)), ?_⟩
      rw [List.getElem_cons_drop, List.take_append_drop]
  | _ => cases hm

/-- What stands in the place of a member that is known is put into what the others make. -/
theorem Knows.readRecord_place (h : Knows r known) {k : Known τ} (hk : k ∈ known)
    (hplace : Place (known.map Known.name) k.name hole) {v : Node} {a : τ}
    (hread : readRecord r (hole v) = .ok a) :
    ∃ y c, k.read v = .ok c ∧ k.put c y = a ∧
      ∀ w d, k.read w = .ok d → readRecord r (hole w) = .ok (k.put d y) := by
  obtain ⟨front, name, back, hname, hgiven⟩ := hplace.exists_given
  obtain ⟨hfits, hobject⟩ := h.readRecord_iff_given.1 hread
  rw [hgiven, h.readRecord_member_iff hk hname] at hobject
  obtain ⟨y, c, hy, hc, ha⟩ := hobject
  refine ⟨y, c, hc, ha, fun w d hd => h.readRecord_iff_given.2 ⟨(hplace.fits_iff v w _).1 hfits, ?_⟩⟩
  rw [hgiven, h.readRecord_member_iff hk hname]
  exact ⟨y, d, hy, hd, rfl⟩

/-- A member for which nothing is given but what leaves the blank record alone leaves alone what is
read. -/
theorem Knows.put_of_gives (h : Knows r known) {k : Known τ} (hk : k ∈ known) {n : Node} {a : τ}
    (hread : readRecord r n = .ok a) {c : k.α} (hblank : k.put c r.blank = r.blank)
    (hgives : ∀ v, n.Gives (known.map Known.name) k.name v → k.read v = .ok c) : k.put c a = a := by
  have hobject := (h.readRecord_iff_given.1 hread).2
  by_cases hgiven : ∃ v, n.Gives (known.map Known.name) k.name v
  · obtain ⟨v, m, hm, hname, hv⟩ := hgiven
    have hc := hgives v ⟨m, hm, hname, hv⟩
    obtain ⟨front, back, hcut⟩ := List.append_of_mem hm
    rw [hcut, h.readRecord_member_iff hk hname] at hobject
    obtain ⟨y, d, hy, hd, ha⟩ := hobject
    rw [hv, hc, Except.ok.injEq] at hd
    have hkeep := h.put_of_others hk hblank hy
    rw [← ha, ← hd, hkeep, hkeep]
  · refine h.put_of_others hk hblank (h.others_of_readRecord hobject ?_)
    intro m hm hname
    exact hgiven ⟨m.2, m, hm, hname, rfl⟩

/-! ## The text around a value -/

/-- Between these texts any document stands as it does in the place. -/
def Surrounds (before after : List UInt8) (hole : Node → Node) : Prop :=
  ∀ n text, n.IsTreeOf text → (hole n).IsTreeOf (before ++ (text ++ after))

theorem isTreeOf_null : Node.null.IsTreeOf (utf8 "null".toList) := ⟨.null, by decide⟩

/-- What is written among others stands between two marks. -/
theorem exists_marks_among (front back : List (List Token)) (opening closing : Token)
    (hopening : opening.isMark = true) (hclosing : closing.isMark = true) :
    ∃ before t u after, t.isMark = true ∧ u.isMark = true ∧
      ∀ ts, opening :: (separated (front ++ ts :: back) ++ [closing]) =
        before ++ t :: (ts ++ u :: after) := by
  have hbefore : ∃ before t, t.isMark = true ∧ opening :: commaed front = before ++ [t] := by
    rcases List.eq_nil_or_concat' front with rfl | ⟨front, us, rfl⟩
    · exact ⟨[], opening, hopening, rfl⟩
    · exact ⟨opening :: (commaed front ++ us), .comma, rfl, by simp [commaed]⟩
  have hafter : ∃ u after, u.isMark = true ∧
      ∀ ts, separated (ts :: back) ++ [closing] = ts ++ u :: after := by
    cases back with
    | nil => exact ⟨closing, [], hclosing, fun _ => rfl⟩
    | cons us back =>
      exact ⟨.comma, separated (us :: back) ++ [closing], rfl, fun ts => by simp [separated]⟩
  obtain ⟨before, t, ht, hfront⟩ := hbefore
  obtain ⟨u, after, hu, hback⟩ := hafter
  refine ⟨before, t, u, after, ht, hu, fun ts => ?_⟩
  rw [separated_append front (List.cons_ne_nil ts back), List.append_assoc, hback, ← List.cons_append,
    hfront, List.append_assoc, List.singleton_append]

/-- A value stands between two marks. -/
theorem Place.exists_marks (h : Place names name hole) :
    ∃ before t u after, t.isMark = true ∧ u.isMark = true ∧
      ∀ n, (hole n).written = before ++ t :: (n.written ++ u :: after) := by
  cases h with
  | @member k hk front back =>
    obtain ⟨before, t, u, after, -, hu, hwritten⟩ :=
      exists_marks_among (front.map memberWritten) (back.map memberWritten) .openObject .closeObject
        rfl rfl
    refine ⟨before ++ t :: k.written, .colon, u, after, rfl, hu, fun n => ?_⟩
    have hmember := hwritten (memberWritten (k, n))
    rw [memberWritten] at hmember
    rw [Node.written, membersWritten_eq_map, List.map_append, List.map_cons, memberWritten, hmember]
    simp
  | item hname back =>
    obtain ⟨before, t, u, after, ht, hu, hwritten⟩ :=
      exists_marks_among (List.map Node.written _) (back.map Node.written) .openArray .closeArray
        rfl rfl
    refine ⟨before, t, u, after, ht, hu, fun n => ?_⟩
    rw [Node.written, itemsWritten_eq_map, List.map_append, List.map_cons, hwritten]

theorem Place.isWhole (h : Place names name hole) {n m : Node} (hn : (hole n).IsWhole)
    (hm : m.IsWhole) : (hole m).IsWhole := by
  cases h with
  | member hk front back =>
    cases hn with
    | object hnames hall =>
      simp only [List.forall_mem_append, List.forall_mem_cons] at hnames hall
      refine .object ?_ ?_ <;> simp only [List.forall_mem_append, List.forall_mem_cons]
      · exact hnames
      · exact ⟨hall.1, hm, hall.2.2⟩
  | item hname back =>
    cases hn with
    | array hall =>
      simp only [List.forall_mem_append, List.forall_mem_cons] at hall
      refine .array ?_
      simp only [List.forall_mem_append, List.forall_mem_cons]
      exact ⟨hall.1, hm, hall.2.2⟩

/-- Where a document has a `null`, its text has one that any other document can stand for. -/
theorem exists_around (h : Place names name hole) {text : List UInt8}
    (htext : (hole .null).IsTreeOf text) :
    ∃ before after, text = before ++ (utf8 "null".toList ++ after) ∧ Surrounds before after hole := by
  obtain ⟨hwhole, htokens⟩ := htext
  obtain ⟨before, t, u, after, ht, hu, hwritten⟩ := h.exists_marks
  rw [tokens_eq_lex, hwritten] at htokens
  obtain ⟨front, back, rfl, hback, hfront⟩ := lex_cut isProper_between ht htokens
  obtain ⟨blanks, rest, rfl, hblanks, hrest⟩ := exists_null hback
  -- the blanks stay before whatever stands for the `null`, and a mark comes behind it
  refine ⟨front ++ blanks, rest, by rw [List.append_assoc], fun n text hn => ?_⟩
  refine ⟨h.isWhole hwhole hn.1, ?_⟩
  have hsound : ∀ t ∈ lex .between text, t.isSound = true := by
    rw [← tokens_eq_lex, hn.2]
    exact hn.1.sound
  rw [tokens_eq_lex, List.append_assoc, hfront, lex_blanks hblanks,
    lex_append Lexing.noConfusion hsound (breaks_of_mark hu hrest), ← tokens_eq_lex, hn.2, hrest,
    hwritten]
  rfl

end

end TrackResolver.Json
