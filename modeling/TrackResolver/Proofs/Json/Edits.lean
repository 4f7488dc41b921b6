import Mathlib.Logic.Relation
import TrackResolver.Proofs.Json.Maps
import TrackResolver.Proofs.Json.Places

/-!
# What makes no difference to a reader

A reader of records looks at the known members of an object and at nothing else. So there are changes
of a document that it does not see, however deep in the document they are, and one that it never
accepts: a known member that is there twice. In a map, where all names are free, the last member of a
name counts.

Results:
* `Edit`, `Repeats`: the changes that are not seen, and what is not accepted.
* `Follows`: a reader to which both apply; `Follows.option` and the like for each reader.
* `Specified.follows_record`: a record.
* `Form`: a reader that carries the format that it follows.
* `KnownMembersOnly`: the texts that such a reader decodes; `Follows.knownMembersOnly`.
-/
namespace TrackResolver.Json

open Reading

/-! ## Changes -/

/-- The value can stand in a map whose values have this format. -/
def Format.Takes : Format → Node → Prop
  | .text, n => ∃ s, readText n = .ok s
  | .dict f, .object members .closed =>
    ∀ m ∈ members, (∃ name, readName m.1 = .ok name) ∧ f.Takes m.2
  | _, _ => False

/-- A change of a value of this format that its reader does not see. -/
inductive Edit : Format → Node → Node → Prop
  /-- The members of a record in another order. -/
  | reorder {known : List (String × Format)} {members order : List (Node × Node)}
    (h : order.Perm members) :
    Edit (.record known) (.object members .closed) (.object order .closed)
  /-- A member more that the record does not have, with any value. -/
  | insert {known : List (String × Format)} {front back : List (Node × Node)} {k v : Node}
    {name : String} (hname : readName k = .ok name) (hno : name ∉ known.map (·.1)) (hv : v.IsWhole) :
    Edit (.record known) (.object (front ++ back) .closed) (.object (front ++ (k, v) :: back) .closed)
  /-- A `null` for an optional member that was not there. -/
  | addNull {known : List (String × Format)} {front back : List (Node × Node)} {k : Node}
    {name : String} {f : Format} (hknown : (name, .option f) ∈ known) (hname : readName k = .ok name)
    (habsent : ∀ m ∈ front ++ back, readName m.1 ≠ .ok name) :
    Edit (.record known) (.object (front ++ back) .closed)
      (.object (front ++ (k, .null) :: back) .closed)
  /-- An optional member less that was `null`. -/
  | dropNull {known : List (String × Format)} {front back : List (Node × Node)} {k : Node}
    {name : String} {f : Format} (hknown : (name, .option f) ∈ known) (hname : readName k = .ok name) :
    Edit (.record known) (.object (front ++ (k, .null) :: back) .closed)
      (.object (front ++ back) .closed)
  /-- A member more in a map, with one of the same name behind it. -/
  | overwritten {f : Format} {front back : List (Node × Node)} {k v : Node} {name : String}
    (hname : readName k = .ok name) (hv : f.Takes v) (hlater : ∃ m ∈ back, readName m.1 = .ok name) :
    Edit (.dict f) (.object (front ++ back) .closed) (.object (front ++ (k, v) :: back) .closed)
  /-- A change within a member of a record, which can be given as an array. -/
  | within {known : List (String × Format)} {name : String} {f : Format} {hole : Node → Node}
    {n n' : Node} (hknown : (name, f) ∈ known) (hplace : Place (known.map (·.1)) name hole)
    (h : Edit f n n') : Edit (.record known) (hole n) (hole n')
  | option {f : Format} {n n' : Node} (h : Edit f n n') : Edit (.option f) n n'
  | item {f : Format} {front back : List Node} {n n' : Node} (h : Edit f n n') :
    Edit (.list f) (.array (front ++ n :: back) .closed) (.array (front ++ n' :: back) .closed)
  | entry {f : Format} {front back : List (Node × Node)} {k n n' : Node} (h : Edit f n n') :
    Edit (.dict f) (.object (front ++ (k, n) :: back) .closed)
      (.object (front ++ (k, n') :: back) .closed)

/-- Somewhere in a value of this format a record has a known member twice. -/
inductive Repeats : Format → Node → Prop
  | here {known : List (String × Format)} {front back : List (Node × Node)} {m : Node × Node}
    {name : String} (hknown : name ∈ known.map (·.1)) (hname : readName m.1 = .ok name)
    (hlater : ∃ l ∈ back, readName l.1 = .ok name) :
    Repeats (.record known) (.object (front ++ m :: back) .closed)
  | within {known : List (String × Format)} {name : String} {f : Format} {hole : Node → Node}
    {n : Node} (hknown : (name, f) ∈ known) (hplace : Place (known.map (·.1)) name hole)
    (h : Repeats f n) : Repeats (.record known) (hole n)
  | option {f : Format} {n : Node} (h : Repeats f n) : Repeats (.option f) n
  | item {f : Format} {front back : List Node} {n : Node} (h : Repeats f n) :
    Repeats (.list f) (.array (front ++ n :: back) .closed)
  | entry {f : Format} {front back : List (Node × Node)} {k n : Node} (h : Repeats f n) :
    Repeats (.dict f) (.object (front ++ (k, n) :: back) .closed)

theorem Place.isContainer {names : List String} {name : String} {hole : Node → Node}
    (h : Place names name hole) (n : Node) : (hole n).IsContainer := by
  cases h <;> trivial

theorem Edit.isContainer {f : Format} {n n' : Node} (h : Edit f n n') :
    n.IsContainer ∧ n'.IsContainer := by
  induction h with
  | within _ hplace => exact ⟨hplace.isContainer _, hplace.isContainer _⟩
  | option _ ih => exact ih
  | _ => exact ⟨trivial, trivial⟩

theorem Repeats.isContainer {f : Format} {n : Node} (h : Repeats f n) : n.IsContainer := by
  induction h with
  | within _ hplace => exact hplace.isContainer _
  | option _ ih => exact ih
  | _ => trivial

/-! ## Readers -/

/-- The reader does not see these changes and does not accept a known member twice. -/
structure Follows {α : Type} (read : Reader α) (f : Format) : Prop where
  edited : ∀ {n n' : Node} {a : α}, Edit f n n' → read n = .ok a → read n' = .ok a
  repeated : ∀ {n : Node} {a : α}, Repeats f n → read n ≠ .ok a
  takes : ∀ {n : Node}, f.Takes n → ∃ a, read n = .ok a

section
variable {α : Type} {read : Reader α} {f : Format}

theorem follows_plain (read : Reader α) : Follows read .plain := ⟨nofun, nofun, nofun⟩

theorem follows_text : Follows readText .text := ⟨nofun, nofun, id⟩

theorem readOption_of_isContainer {n : Node} (h : n.IsContainer) :
    readOption read n = (read n).map some := by
  cases n <;> first | rfl | cases h

theorem Follows.option (h : Follows read f) : Follows (readOption read) (.option f) where
  edited hedit hread := by
    cases hedit with
    | option hedit =>
      obtain ⟨hn, hn'⟩ := hedit.isContainer
      rw [readOption_of_isContainer hn, map_eq_ok_iff] at hread
      obtain ⟨a, ha, rfl⟩ := hread
      rw [readOption_of_isContainer hn', h.edited hedit ha]
      rfl
  repeated hrepeats hread := by
    cases hrepeats with
    | option hrepeats =>
      rw [readOption_of_isContainer hrepeats.isContainer, map_eq_ok_iff] at hread
      obtain ⟨a, ha, -⟩ := hread
      exact h.repeated hrepeats ha
  takes := nofun

/-! ### Lists -/

theorem readList_middle {front back : List Node} {n : Node} {as : List α}
    (h : readList read (.array (front ++ n :: back) .closed) = .ok as) :
    ∃ a, read n = .ok a ∧ ∀ n', read n' = .ok a →
      readList read (.array (front ++ n' :: back) .closed) = .ok as := by
  obtain ⟨_, hitems, -⟩ := exists_of_bind h
  rw [List.mapM_append] at hitems
  obtain ⟨_, -, hrest⟩ := exists_of_bind hitems
  obtain ⟨_, hmore, -⟩ := exists_of_bind hrest
  rw [List.mapM_cons] at hmore
  obtain ⟨a, ha, -⟩ := exists_of_bind hmore
  refine ⟨a, ha, fun n' hn' => ?_⟩
  have hsame : readList read (.array (front ++ n' :: back) .closed) =
      readList read (.array (front ++ n :: back) .closed) := by
    simp only [readList, List.mapM_append, List.mapM_cons, hn', ha]
  rw [hsame, h]

theorem Follows.list (h : Follows read f) : Follows (readList read) (.list f) where
  edited hedit hread := by
    cases hedit with
    | item hedit =>
      obtain ⟨a, ha, hother⟩ := readList_middle hread
      exact hother _ (h.edited hedit ha)
  repeated hrepeats hread := by
    cases hrepeats with
    | item hrepeats =>
      obtain ⟨a, ha, -⟩ := readList_middle hread
      exact h.repeated hrepeats ha
  takes := nofun

/-! ### Maps -/

theorem Follows.dict (h : Follows read f) : Follows (readDict read) (.dict f) where
  edited hedit hread := by
    cases hedit with
    | overwritten hname hv hlater =>
      obtain ⟨a, ha⟩ := h.takes hv
      exact (lastWins read).overwritten hread hname ha hlater
    | entry hedit =>
      obtain ⟨es₁, e, es₂, hfront, he, hback, hd⟩ := readDict_middle_iff.1 hread
      exact readDict_middle_iff.2 ⟨es₁, e, es₂, hfront, ⟨he.1, h.edited hedit he.2⟩, hback, hd⟩
  repeated hrepeats hread := by
    cases hrepeats with
    | entry hrepeats =>
      obtain ⟨_, _, _, -, he, -⟩ := readDict_middle_iff.1 hread
      exact h.repeated hrepeats he.2
  takes := by
    intro n hn
    unfold Format.Takes at hn
    split at hn
    · next heq => cases heq
    · next members heq =>
      cases heq
      refine exists_readDict fun m hm => ?_
      obtain ⟨⟨name, hname⟩, hvalue⟩ := hn m hm
      obtain ⟨a, ha⟩ := h.takes hvalue
      exact ⟨(name, a), hname, ha⟩
    · cases hn

/-! ### Records -/

/-- What members of these names and formats make up. -/
def formatOf {τ : Type} (known : List (Known τ)) : Format :=
  .record (known.map fun k => (k.name, k.format))

/-- The record knows these members, each of which is read by its format, and an optional one that is
`null` is as good as left out. -/
structure Specified {τ : Type} (r : Record Node τ) (known : List (Known τ)) : Prop
    extends Knows r known where
  follows : ∀ k ∈ known, Follows k.read k.format
  optional : ∀ k ∈ known, ∀ f, k.format = .option f →
    k.required = false ∧ (k.read .null).map (k.put · r.blank) = .ok r.blank

theorem names_formats {τ : Type} (known : List (Known τ)) :
    (known.map fun k => (k.name, k.format)).map (·.1) = known.map Known.name := by
  rw [List.map_map]
  rfl

theorem mem_formats_iff {τ : Type} {known : List (Known τ)} {name : String} :
    (name, f) ∈ known.map (fun k => (k.name, k.format)) ↔
      ∃ k ∈ known, k.name = name ∧ k.format = f := by
  simp only [List.mem_map, Prod.mk.injEq]

theorem Specified.follows_record {τ : Type} {r : Record Node τ} {known : List (Known τ)}
    (h : Specified r known) : Follows (readRecord r) (formatOf known) where
  edited hedit hread := by
    unfold formatOf at hedit
    cases hedit with
    | reorder hp => exact h.readRecord_perm hp hread
    | insert hname hno hv => exact h.readRecord_insert hname (names_formats known ▸ hno) hv.skip hread
    | addNull hknown hname habsent =>
      obtain ⟨k, hk, rfl, hformat⟩ := mem_formats_iff.1 hknown
      obtain ⟨c, hc, hblank⟩ := map_eq_ok_iff.1 (h.optional k hk _ hformat).2
      have hothers := h.others_of_readRecord hread habsent
      exact (h.readRecord_member_iff hk hname).2 ⟨_, c, hothers, hc, h.put_of_others hk hblank hothers⟩
    | dropNull hknown hname =>
      -- what the others make is a record already, and `null` puts nothing in
      obtain ⟨k, hk, rfl, hformat⟩ := mem_formats_iff.1 hknown
      obtain ⟨hrequired, hnull⟩ := h.optional k hk _ hformat
      obtain ⟨c, hc, hblank⟩ := map_eq_ok_iff.1 hnull
      obtain ⟨y, c', hothers, hc', rfl⟩ := (h.readRecord_member_iff hk hname).1 hread
      cases hc.symm.trans hc'
      rw [h.put_of_others hk hblank hothers]
      exact h.readRecord_of_others hk hrequired hothers
    | within hknown hplace hedit =>
      obtain ⟨k, hk, rfl, rfl⟩ := mem_formats_iff.1 hknown
      obtain ⟨y, c, hc, rfl, hother⟩ := h.readRecord_place hk (names_formats known ▸ hplace) hread
      exact hother _ c ((h.follows k hk).edited hedit hc)
  repeated hrepeats hread := by
    unfold formatOf at hrepeats
    cases hrepeats with
    | here hknown hname hlater =>
      obtain ⟨l, hl, hagain⟩ := hlater
      have hfresh := h.fresh_of_readRecord (h.readRecord_perm List.perm_middle.symm hread)
        (names_formats known ▸ hknown) hname
      exact hfresh l (List.mem_append_right _ hl) hagain
    | within hknown hplace hrepeats =>
      obtain ⟨k, hk, rfl, rfl⟩ := mem_formats_iff.1 hknown
      obtain ⟨y, c, hc, -⟩ := h.readRecord_place hk (names_formats known ▸ hplace) hread
      exact (h.follows k hk).repeated hrepeats hc
  takes := nofun

/-- A reader with the format that it follows. -/
structure Form (α : Type) where
  read : Reader α
  format : Format
  follows : Follows read format

namespace Form

def plain (read : Reader α) : Form α := ⟨read, .plain, follows_plain read⟩

def text : Form String := ⟨readText, .text, follows_text⟩

def option (form : Form α) : Form (Option α) := ⟨readOption form.read, _, form.follows.option⟩

def list (form : Form α) : Form (List α) := ⟨readList form.read, _, form.follows.list⟩

def dict (form : Form α) : Form (Dict α) := ⟨readDict form.read, _, form.follows.dict⟩

def record {τ : Type} {r : Record Node τ} {known : List (Known τ)} (h : Specified r known) : Form τ :=
  ⟨readRecord r, _, h.follows_record⟩

@[simp] theorem format_plain (read : Reader α) : (plain read).format = .plain := rfl
@[simp] theorem format_text : text.format = .text := rfl
@[simp] theorem format_option (form : Form α) : form.option.format = .option form.format := rfl
@[simp] theorem format_list (form : Form α) : form.list.format = .list form.format := rfl
@[simp] theorem format_dict (form : Form α) : form.dict.format = .dict form.format := rfl
@[simp] theorem format_record {τ : Type} {r : Record Node τ} {known : List (Known τ)}
    (h : Specified r known) : (record h).format = formatOf known := rfl

@[simp] theorem map_read_null {β : Type} (form : Form α) (g : Option α → β) :
    (form.option.read .null).map g = .ok (g none) := rfl

/-- A member that is read by the form. -/
def known {τ : Type} (form : Form α) (name : String) (required : Bool) (put : α → τ → τ) : Known τ :=
  ⟨name, required, form.read, put, form.format⟩

theorem follows_known {τ : Type} (form : Form α) (name : String) (required : Bool)
    (put : α → τ → τ) :
    Follows (form.known name required put).read (form.known name required put).format :=
  form.follows

end Form

/-! ## Texts -/

/-- A text is decoded by the members that are known. Changes that the reader does not see, as many as
one likes, leave what is decoded as it is, and so do blanks between two tokens; a known member that is
there twice is never accepted. It is all the same whether the reader looks behind the document. -/
structure KnownMembersOnly (read : Reader α) (f : Format) : Prop where
  tree : ∀ {text : List UInt8} {a : α}, readWhole read text = .ok a → ∃ n : Node, n.IsTreeOf text
  edited : ∀ {n n' : Node} {text text' : List UInt8} {a : α}, n.IsTreeOf text → n'.IsTreeOf text' →
    Relation.ReflTransGen (Edit f) n n' → readWhole read text = .ok a → readWhole read text' = .ok a
  spaced : ∀ {before after blanks : List UInt8} {a : α},
    tokens (before ++ after) = tokens before ++ tokens after → (∀ b ∈ blanks, isSpace b = true) →
    readWhole read (before ++ after) = .ok a → readWhole read (before ++ (blanks ++ after)) = .ok a
  repeated : ∀ {n : Node} {text : List UInt8} {a : α}, n.IsTreeOf text → Repeats f n →
    readWhole read text ≠ .ok a
  first : ∀ {n : Node} {text : List UInt8}, n.IsTreeOf text →
    readFirst read text = readWhole read text

theorem readWhole_of_tree {n : Node} {text : List UInt8} (h : n.IsTreeOf text) :
    readWhole read text = read n := by
  rw [readWhole, h.parse]
  dsimp only
  cases read n <;> rfl

theorem Follows.edited_all (h : Follows read f) {n n' : Node} {a : α}
    (hedits : Relation.ReflTransGen (Edit f) n n') (hread : read n = .ok a) : read n' = .ok a := by
  induction hedits with
  | refl => exact hread
  | tail _ hedit ih => exact h.edited hedit ih

theorem Follows.knownMembersOnly (h : Follows read f) (hminds : Reader.Minds read) :
    KnownMembersOnly read f where
  tree hread := by
    obtain ⟨n, hn, -⟩ := (readWhole_eq_ok_iff hminds).1 hread
    exact ⟨n, hn⟩
  edited hn hn' hedits hread := by
    rw [readWhole_of_tree hn] at hread
    rw [readWhole_of_tree hn', h.edited_all hedits hread]
  spaced {before after blanks a} hcut hblanks hread := by
    obtain ⟨n, ⟨hwhole, htokens⟩, hn⟩ := (readWhole_eq_ok_iff hminds).1 hread
    have hsound : ∀ t ∈ tokens before, t.isSound = true := fun t ht =>
      hwhole.sound t (htokens ▸ hcut ▸ List.mem_append_left _ ht)
    rw [← tokens_spaced hsound hcut hblanks] at htokens
    exact (readWhole_eq_ok_iff hminds).2 ⟨n, ⟨hwhole, htokens⟩, hn⟩
  repeated hn hrepeats hread := by
    rw [readWhole_of_tree hn] at hread
    exact h.repeated hrepeats hread
  first hn := by
    rw [readWhole_of_tree hn, readFirst, hn.parse]

end

end TrackResolver.Json
