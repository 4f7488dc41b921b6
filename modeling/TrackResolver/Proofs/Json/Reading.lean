import Mathlib.Data.List.Forall2
import TrackResolver.Json.Decode
import TrackResolver.Proofs.Json.Parsing

/-!
# Reading back what is written

The members of an object have no order of their own, and a dictionary may be walked in any. So what
is written is read back however the members of the objects in it stand.

Results:
* `decodeText_charPieces`: a text, whatever its characters.
* `ofNumeral?_numeral`: an integer of 64 bits.
* `Reads`: a value is read, however it is arranged; `reads_text` and the like for each reader.
* `Reads.readWhole`: so is a document that holds it.
-/
namespace TrackResolver.Json

open Reading

/-! ## Texts -/

theorem foldlM_feed_bytes (bytes taken : List UInt8) :
    (bytes.map Piece.byte).foldlM Spelling.feed ⟨taken, none⟩ = .ok ⟨bytes.reverse ++ taken, none⟩ := by
  induction bytes generalizing taken with
  | nil => rfl
  | cons b bytes ih =>
    rw [List.map_cons, List.foldlM_cons, List.reverse_cons, List.append_assoc]
    exact ih (b :: taken)

theorem foldlM_feed_charPieces (c : Char) (taken : List UInt8) :
    (charPieces c).foldlM Spelling.feed ⟨taken, none⟩ =
      .ok ⟨(String.utf8EncodeChar c).reverse ++ taken, none⟩ := by
  rw [charPieces]
  split
  · next h =>
    have hlead : isLead c.toNat = false := by simp [isLead]; omega
    have htrail : isTrail c.toNat = false := by simp [isTrail]; omega
    have hbytes : charBytes c.toNat = String.utf8EncodeChar c := by
      rw [charBytes, Char.ofNat_toNat]
    simp [Spelling.feed, hlead, htrail, hbytes]
  · exact foldlM_feed_bytes _ _

theorem foldlM_feed_flatMap (cs : List Char) (taken : List UInt8) :
    (cs.flatMap charPieces).foldlM Spelling.feed ⟨taken, none⟩ =
      .ok ⟨(utf8 cs).reverse ++ taken, none⟩ := by
  induction cs generalizing taken with
  | nil => rfl
  | cons c cs ih =>
    have hutf8 : utf8 (c :: cs) = String.utf8EncodeChar c ++ utf8 cs := by simp [utf8]
    rw [List.flatMap_cons, List.foldlM_append, foldlM_feed_charPieces, hutf8, List.reverse_append,
      List.append_assoc]
    exact ih _

theorem fromUTF8?_utf8 (s : String) : String.fromUTF8? ⟨(utf8 s.toList).toArray⟩ = some s := by
  have hbytes : ByteArray.mk (utf8 s.toList).toArray = s.toByteArray := by
    rw [← toList_toUTF8, String.ofList_toList]
    rfl
  rw [hbytes, String.fromUTF8?, dif_pos s.isValidUTF8]
  rfl

/-- A text is spelled by the pieces of its characters. -/
theorem decodeText_charPieces (s : String) :
    decodeText (s.toList.flatMap charPieces) .closed = .ok s := by
  have hbytes : pieceBytes (s.toList.flatMap charPieces) .closed = .ok (utf8 s.toList) := by
    have hfeed := foldlM_feed_flatMap s.toList []
    rw [List.append_nil] at hfeed
    rw [pieceBytes, hfeed]
    simp [Spelling.finish, bind, Except.bind]
  rw [decodeText, hbytes]
  simp [fromUTF8?_utf8]

theorem readName_textNode (name : String) : readName (textNode name) = .ok name :=
  decodeText_charPieces name

/-! ## Integers -/

theorem digits_of_lt {n : Nat} (h : n < 10) : digits n = [n] := by
  have hall : ∀ d : Fin 10, digitOf (code (Nat.digitChar d)) = d.val := by decide
  rw [digits, Nat.toDigits_of_lt_base h, List.map_singleton, hall ⟨n, h⟩]

theorem digits_of_le {n : Nat} (h : 10 ≤ n) : digits n = digits (n / 10) ++ digits (n % 10) := by
  rw [digits, Nat.toDigits_of_base_le (by decide) h, List.map_append, digits, digits,
    Nat.toDigits_of_lt_base (Nat.mod_lt n (by decide))]

theorem digitsValue_digits (n : Nat) : digitsValue (digits n) = n := by
  induction n using Nat.strongRecOn with
  | ind n ih =>
    by_cases hlt : n < 10
    · simp [digits_of_lt hlt, digitsValue]
    · have hquotient := ih (n / 10) (by omega)
      rw [digits_of_le (Nat.le_of_not_lt hlt), digits_of_lt (Nat.mod_lt n (by decide)), digitsValue,
        List.foldl_append]
      rw [digitsValue] at hquotient
      rw [hquotient]
      simp
      omega

/-- An integer of 64 bits, with or without a sign, is itself. -/
theorem ofNumeral?_numeral {n : Int} (hlow : Int64.minValue.toInt ≤ n) (hhigh : n < capacity) :
    Quantity.ofNumeral? (numeral n) = some (.integer n) := by
  have hmin : Int64.minValue.toInt = -9223372036854775808 := by decide
  have hmax : capacity = 18446744073709551616 := rfl
  have hfits : digitsValue (digits n.natAbs) < capacity := by
    rw [digitsValue_digits]
    omega
  by_cases hn : n < 0
  · have hgather := gather_of_fits 0 0 (digits n.natAbs) hfits
    have hvalue := digitsValue_digits n.natAbs
    rw [digitsValue] at hvalue
    rw [hvalue] at hgather
    have hsigned : integral true n.natAbs = .integer n := by
      have hzero : n.natAbs ≠ 0 := by omega
      have hlarge : ¬ Nat.pow 2 63 < n.natAbs := by
        show ¬ 9223372036854775808 < n.natAbs
        omega
      have habs : -(n.natAbs : Int) = n := by omega
      unfold integral
      rw [if_neg (by decide), if_neg (by simp only [hzero, hlarge]; decide), habs]
    simp [Quantity.ofNumeral?, numeral, hn, hgather, hsigned]
  · rw [numeral, decide_eq_false hn, Quantity.ofNumeral?_digits _ hfits, digitsValue_digits]
    simp
    omega

/-! ## Arrangements -/

/-- The same value with the members of its objects in another order. -/
inductive Value.Rearranges : Value → Value → Prop
  | same (v : Value) : v.Rearranges v
  | list {items others : List Value} (h : List.Forall₂ Value.Rearranges items others) :
    (Value.list items).Rearranges (.list others)
  | object {members others order : List (String × Value)}
    (hnames : members.map (·.1) = others.map (·.1))
    (h : List.Forall₂ Value.Rearranges (members.map (·.2)) (others.map (·.2)))
    (horder : order.Perm others) : (Value.object members).Rearranges (.object order)

theorem Value.Rearranges.of_list {items : List Value} {w : Value}
    (h : (Value.list items).Rearranges w) :
    ∃ others, w = .list others ∧ List.Forall₂ Value.Rearranges items others := by
  cases h with
  | same => exact ⟨items, rfl, List.forall₂_same.2 fun v _ => .same v⟩
  | list h => exact ⟨_, rfl, h⟩

/-- A member with the same name and a value that is rearranged. -/
def SameMember (a b : String × Value) : Prop := b.1 = a.1 ∧ a.2.Rearranges b.2

theorem forall₂_sameMember {members others : List (String × Value)}
    (hnames : members.map (·.1) = others.map (·.1))
    (h : List.Forall₂ Value.Rearranges (members.map (·.2)) (others.map (·.2))) :
    List.Forall₂ SameMember members others := by
  induction members generalizing others with
  | nil =>
    rw [List.map_eq_nil_iff.1 hnames.symm]
    exact .nil
  | cons a members ih =>
    cases others with
    | nil => cases hnames
    | cons b others =>
      simp only [List.map_cons, List.cons.injEq, List.forall₂_cons] at hnames h
      exact .cons ⟨hnames.1.symm, h.1⟩ (ih hnames.2 h.2)

theorem Value.Rearranges.of_object {members : List (String × Value)} {w : Value}
    (h : (Value.object members).Rearranges w) :
    ∃ others order, w = .object order ∧ others.Perm order ∧
      List.Forall₂ SameMember members others := by
  cases h with
  | same => exact ⟨members, members, rfl, .refl _, List.forall₂_same.2 fun m _ => ⟨rfl, .same m.2⟩⟩
  | object hnames h horder => exact ⟨_, _, rfl, horder.symm, forall₂_sameMember hnames h⟩

/-! ## Single values -/

/-- However the value is arranged, it is read as `a`. -/
def Reads {α : Type} (read : Reader α) (v : Value) (a : α) : Prop :=
  ∀ w, v.Rearranges w → read w.node = .ok a

theorem Reads.readWhole {α : Type} {read : Reader α} {v : Value} {a : α} (h : Reads read v a)
    {w : Value} (hw : v.Rearranges w) : readWhole read w.render.toUTF8.data.toList = .ok a := by
  have hread : read w.node = .ok a := h w hw
  rw [Json.readWhole, parse_render]
  dsimp only
  rw [hread]
  rfl

theorem reads_text (s : String) : Reads readText (.text s) s := by
  intro w hw
  cases hw
  exact decodeText_charPieces s

theorem reads_boolean (b : Bool) : Reads readBoolean (.boolean b) b := by
  intro w hw
  cases hw
  rfl

theorem reads_int64 (n : Int64) : Reads readInt64 (.integer n.toInt) n := by
  intro w hw
  cases hw
  have hhigh : n.toInt < capacity := Int.lt_of_le_of_lt n.toInt_le (by decide)
  have hnumeral : Quantity.ofNumeral? (numeral n.toInt) = some (.integer n.toInt) :=
    ofNumeral?_numeral n.minValue_le_toInt hhigh
  have hread : readInteger "i64" Int64.minValue.toInt Int64.maxValue.toInt
      (Value.integer n.toInt).node = .ok n.toInt := by
    rw [Value.node, readInteger, readQuantity, hnumeral]
    exact if_pos ⟨n.minValue_le_toInt, n.toInt_le⟩
  rw [readInt64, hread]
  simp [Except.map]

section
variable {α : Type} {read : Reader α}

theorem reads_none (read : Reader α) : Reads (readOption read) .null none := by
  intro w hw
  cases hw
  rfl

/-- A value that is there is never taken for one that is not. -/
theorem Reads.some {v : Value} {a : α} (h : Reads read v a) (hv : v ≠ .null) :
    Reads (readOption read) v (some a) := by
  intro w hw
  have hread := h w hw
  cases w with
  | null => cases hw; exact absurd rfl hv
  | _ => simp_all [readOption, Value.node, textNode, Except.map]

theorem mapM_itemNodes {write : α → Value} (h : ∀ a, Reads read (write a) a) {as : List α}
    {others : List Value} (hothers : List.Forall₂ Value.Rearranges (as.map write) others) :
    (itemNodes others).mapM read = .ok as := by
  induction as generalizing others with
  | nil => cases hothers; rfl
  | cons a as ih =>
    cases hothers with
    | cons hw hrest =>
      rw [itemNodes, List.mapM_cons, h a _ hw, ih hrest]
      rfl

theorem Reads.list {write : α → Value} (h : ∀ a, Reads read (write a) a) (as : List α) :
    Reads (readList read) (.list (as.map write)) as := by
  intro w hw
  obtain ⟨others, rfl, hothers⟩ := hw.of_list
  rw [Value.node, readList, mapM_itemNodes h hothers]
  rfl

end

end TrackResolver.Json
