import TrackResolver.Json.Token
import TrackResolver.Json.Value

/-!
# The tokens of what is written

Texts and integers as the lexer finds them in the bytes of a rendered value, whatever comes behind
them. A number is over when the next byte cannot belong to it, so behind an integer has to stand what
may stand behind a value.

Results:
* `tokens_eq_lex`: the lexer as a recursion over the bytes.
* `lex_quoteList`: a text between quotes, for every character.
* `lex_integerList`: an integer of any size.
-/
namespace TrackResolver.Json

/-! ## Characters as bytes -/

/-- The bytes of characters in UTF-8. -/
def utf8 (cs : List Char) : List UInt8 := cs.flatMap String.utf8EncodeChar

@[simp] theorem utf8_nil : utf8 [] = [] := rfl

@[simp] theorem utf8_append (a b : List Char) : utf8 (a ++ b) = utf8 a ++ utf8 b :=
  List.flatMap_append

theorem utf8EncodeChar_ascii {c : Char} (h : c.toNat < 128) : String.utf8EncodeChar c = [code c] := by
  have hle : c.val.toNat ≤ 127 := Nat.le_of_lt_succ h
  rw [String.utf8EncodeChar, if_pos hle]
  rfl

theorem utf8_cons {c : Char} (h : c.toNat < 128) (cs : List Char) :
    utf8 (c :: cs) = code c :: utf8 cs := by
  rw [utf8, List.flatMap_cons, utf8EncodeChar_ascii h]
  rfl

theorem toList_toUTF8 (cs : List Char) : (String.ofList cs).toUTF8.data.toList = utf8 cs := by
  simp [String.toByteArray_ofList, List.utf8Encode, utf8]

theorem code_inj {c d : Char} (hc : c.toNat < 128) (hd : d.toNat < 128) (h : code c = code d) :
    c = d := by
  have hn : c.toNat.toUInt8.toNat = d.toNat.toUInt8.toNat := congrArg UInt8.toNat h
  simp at hn
  exact Char.toNat_inj.1 (by omega)

theorem high_of_mem {c : Char} (h : 128 ≤ c.toNat) : ∀ b ∈ String.utf8EncodeChar c, 128 ≤ b.toNat := by
  have hlt : ¬ c.val.toNat ≤ 127 := Nat.not_le_of_lt h
  rw [String.utf8EncodeChar, if_neg hlt]
  split
  · simp; omega
  · split <;> simp <;> omega

theorem plain_of_mem {c : Char} (hc : ¬ c.toNat < 0x20) (hquote : c ≠ '"') (hback : c ≠ '\\') :
    ∀ b ∈ String.utf8EncodeChar c, b ≠ code '"' ∧ b ≠ code '\\' ∧ ¬ b < 0x20 := by
  intro b hb
  by_cases hascii : c.toNat < 128
  · rw [utf8EncodeChar_ascii hascii, List.mem_singleton] at hb
    subst hb
    refine ⟨fun h => hquote (code_inj hascii (by decide) h),
      fun h => hback (code_inj hascii (by decide) h), ?_⟩
    rw [UInt8.lt_iff_toNat_lt]
    simp [code]
    omega
  · have hhigh := high_of_mem (Nat.le_of_not_lt hascii) b hb
    refine ⟨?_, ?_, ?_⟩
    · rintro rfl
      exact absurd hhigh (by decide)
    · rintro rfl
      exact absurd hhigh (by decide)
    · rw [UInt8.lt_iff_toNat_lt]
      exact fun hlt => absurd (Nat.lt_trans hlt (by decide)) (Nat.not_lt.2 hhigh)

/-! ## The lexer byte by byte -/

/-- The tokens that bytes complete when the lexer is in the middle of something. -/
def lex : Lexing → List UInt8 → List Token
  | s, [] => s.finish
  | s, b :: rest => (s.step b).1 ++ lex (s.step b).2 rest

theorem finish_run (l : Lexer) (bytes : List UInt8) :
    ((l.run bytes).state.finish.reverse ++ (l.run bytes).found).reverse =
      l.found.reverse ++ lex l.state bytes := by
  induction bytes generalizing l with
  | nil => simp [Lexer.run, lex]
  | cons b rest ih =>
    have hfeed : l.run (b :: rest) = (l.feed b).run rest := rfl
    rw [hfeed, ih]
    simp [Lexer.feed, lex]

theorem tokens_eq_lex (bytes : List UInt8) : tokens bytes = lex .between bytes :=
  finish_run .start bytes

section
variable (rest : List UInt8)

theorem lex_mark {b : UInt8} {t : Token} (h : begin b = ([t], .between)) :
    lex .between (b :: rest) = t :: lex .between rest := by
  have hstep : Lexing.between.step b = ([t], .between) := h
  rw [lex, hstep]
  rfl

theorem lex_null : lex .between (utf8 "null".toList ++ rest) = .null :: lex .between rest := rfl

theorem lex_true : lex .between (utf8 "true".toList ++ rest) = .boolean true :: lex .between rest :=
  rfl

theorem lex_false : lex .between (utf8 "false".toList ++ rest) = .boolean false :: lex .between rest :=
  rfl

end

/-! ## Texts -/

/-- The pieces in which a character is written: a control character without a letter of its own as
a unit, any other in its bytes. -/
def charPieces (c : Char) : List Piece :=
  if escapeLetter? c = none ∧ c.toNat < 0x20 then [.unit c.toNat]
  else (String.utf8EncodeChar c).map .byte

section
variable (pieces : List Piece) (rest : List UInt8)

theorem lex_letter {c letter : Char} (h : escapeLetter? c = some letter) :
    lex (.text pieces) (utf8 ['\\', letter] ++ rest) =
      lex (.text ((charPieces c).reverse ++ pieces)) rest := by
  unfold escapeLetter? at h
  split at h <;> simp at h <;> subst h <;> rfl

theorem hexOf?_hexDigit (n : Nat) : hexOf? (code (hexDigit n)) = some (n % 16) := by
  have hall : ∀ d : Fin 16, hexOf? (code (Nat.digitChar d)) = some d.val := by decide
  exact hall ⟨n % 16, Nat.mod_lt _ (by decide)⟩

theorem hexDigit_ascii (n : Nat) : (hexDigit n).toNat < 128 := by
  have hall : ∀ d : Fin 16, (Nat.digitChar d).toNat < 128 := by decide
  exact hall ⟨n % 16, Nat.mod_lt _ (by decide)⟩

theorem lex_control {c : Char} (hnone : escapeLetter? c = none) (hc : c.toNat < 0x20) :
    lex (.text pieces)
      (utf8 ['\\', 'u', '0', '0', hexDigit (c.toNat / 16), hexDigit c.toNat] ++ rest) =
      lex (.text ((charPieces c).reverse ++ pieces)) rest := by
  have hbytes : utf8 ['\\', 'u', '0', '0', hexDigit (c.toNat / 16), hexDigit c.toNat] =
      [code '\\', code 'u', code '0', code '0', code (hexDigit (c.toNat / 16)),
        code (hexDigit c.toNat)] := by
    rw [utf8_cons (by decide), utf8_cons (by decide), utf8_cons (by decide), utf8_cons (by decide),
      utf8_cons (hexDigit_ascii _), utf8_cons (hexDigit_ascii _), utf8_nil]
  have hfour : (Lexing.unit pieces [code (hexDigit (c.toNat / 16)), code '0', code '0']).step
      (code (hexDigit c.toNat)) = ([], .text (.unit c.toNat :: pieces)) := by
    have hzero : hexOf? (code '0') = some 0 := by decide
    have hvalue : c.toNat / 16 % 16 * 16 + c.toNat % 16 = c.toNat := by omega
    simp [Lexing.step, hexOf?_hexDigit, hzero, hvalue]
  rw [hbytes, charPieces, if_pos ⟨hnone, hc⟩]
  show lex (.unit pieces [code (hexDigit (c.toNat / 16)), code '0', code '0'])
    (code (hexDigit c.toNat) :: rest) = _
  rw [lex, hfour]
  rfl

/-- Bytes that stand for themselves. -/
theorem lex_plain {bytes : List UInt8}
    (h : ∀ b ∈ bytes, b ≠ code '"' ∧ b ≠ code '\\' ∧ ¬ b < 0x20) :
    lex (.text pieces) (bytes ++ rest) =
      lex (.text ((bytes.map Piece.byte).reverse ++ pieces)) rest := by
  induction bytes generalizing pieces with
  | nil => rfl
  | cons b bytes ih =>
    obtain ⟨hquote, hback, hlow⟩ := h b List.mem_cons_self
    have hstep : (Lexing.text pieces).step b = ([], .text (.byte b :: pieces)) := by
      simp [Lexing.step, hquote, hback, hlow]
    rw [List.cons_append, lex, hstep, ih _ fun b hb => h b (List.mem_cons_of_mem _ hb)]
    simp

theorem lex_escaped (c : Char) :
    lex (.text pieces) (utf8 (escaped c) ++ rest) =
      lex (.text ((charPieces c).reverse ++ pieces)) rest := by
  rw [escaped]
  cases hletter : escapeLetter? c with
  | some letter => exact lex_letter pieces rest hletter
  | none =>
    by_cases hc : c.toNat < 0x20
    · rw [if_pos hc]
      exact lex_control pieces rest hletter hc
    · have hquote : c ≠ '"' := by rintro rfl; cases hletter
      have hback : c ≠ '\\' := by rintro rfl; cases hletter
      rw [if_neg hc, charPieces, if_neg (fun h => hc h.2)]
      have hutf8 : utf8 [c] = String.utf8EncodeChar c := by simp [utf8]
      rw [hutf8]
      exact lex_plain pieces rest (plain_of_mem hc hquote hback)

theorem lex_text (cs : List Char) :
    lex (.text pieces) (utf8 (cs.flatMap escaped ++ ['"']) ++ rest) =
      .text (pieces.reverse ++ cs.flatMap charPieces) :: lex .between rest := by
  induction cs generalizing pieces with
  | nil =>
    have hclose : (Lexing.text pieces).step (code '"') = ([.text pieces.reverse], .between) := rfl
    rw [List.flatMap_nil, List.nil_append, utf8_cons (by decide)]
    simp [lex, hclose]
  | cons c cs ih =>
    rw [List.flatMap_cons, List.append_assoc, utf8_append, List.append_assoc, lex_escaped, ih]
    simp

end

/-- A text is one token, in the pieces of its characters. -/
theorem lex_quoteList (cs : List Char) (rest : List UInt8) :
    lex .between (utf8 (quoteList cs) ++ rest) = .text (cs.flatMap charPieces) :: lex .between rest := by
  have hopen : Lexing.between.step (code '"') = ([], .text []) := rfl
  rw [quoteList, List.cons_append, utf8_cons (by decide), List.cons_append, lex, hopen, lex_text]
  rfl

/-! ## Integers -/

/-- What may stand behind a value inside an array or an object; no number goes on with it. -/
def Ends (rest : List UInt8) : Prop :=
  ∀ b ∈ rest.head?, b = code ',' ∨ b = code ']' ∨ b = code '\x7d'

/-- The first byte is none with which a number could go on. -/
def Breaks (rest : List UInt8) : Prop :=
  ∀ b ∈ rest.head?, isDigit b = false ∧ b ≠ code '.' ∧ b ≠ code 'e' ∧ b ≠ code 'E'

/-- The decimal digits of a natural number. -/
def digits (n : Nat) : List Nat := (Nat.toDigits 10 n).map fun c => digitOf (code c)

/-- An integer as it is written. -/
def numeral (n : Int) : Numeral := { negative := n < 0, whole := digits n.natAbs }

section
variable {rest : List UInt8}

theorem Ends.breaks (h : Ends rest) : Breaks rest := by
  intro b hb
  rcases h b hb with rfl | rfl | rfl <;> decide

theorem lex_number_end (part : Part) (hpart : part.final = true) (n : Numeral) (h : Breaks rest) :
    lex (.number part n) rest = .number n.inOrder :: lex .between rest := by
  cases rest with
  | nil => rw [lex, Lexing.finish, if_pos hpart]; rfl
  | cons b rest =>
    obtain ⟨hdigit, hpoint, hsmall, hlarge⟩ := h b rfl
    have hstep : (Lexing.number part n).step b = (.number n.inOrder :: (begin b).1, (begin b).2) := by
      cases part with
      | zero | whole | fraction | exponent =>
        simp [Lexing.step, Part.extend?, Part.final, hdigit, hpoint, hsmall, hlarge]
      | _ => cases hpart
    rw [lex, hstep]
    rfl

theorem ascii_of_isDigit {c : Char} (h : c.isDigit = true) : c.toNat < 128 := by
  simp [Char.isDigit, UInt32.le_iff_toNat_le] at h
  exact Nat.lt_of_le_of_lt h.2 (by decide)

theorem isDigit_code {c : Char} (h : c.isDigit = true) : isDigit (code c) = true := by
  have hascii := ascii_of_isDigit h
  simp [Char.isDigit, UInt32.le_iff_toNat_le] at h
  have hn : 48 ≤ c.toNat ∧ c.toNat ≤ 57 := h
  simp [isDigit, code, UInt8.le_iff_toNat_le]
  omega

/-- Digits after the first. -/
theorem lex_whole {ds : List Char} (hds : ∀ c ∈ ds, c.isDigit = true) (n : Numeral) :
    lex (.number .whole n) (utf8 ds ++ rest) =
      lex (.number .whole { n with whole := (ds.map fun c => digitOf (code c)).reverse ++ n.whole })
        rest := by
  induction ds generalizing n with
  | nil => rfl
  | cons c ds ih =>
    have hc := hds c List.mem_cons_self
    have hstep : (Lexing.number .whole n).step (code c) =
        ([], .number .whole (n.pushWhole (digitOf (code c)))) := by
      simp [Lexing.step, Part.extend?, isDigit_code hc]
    rw [utf8_cons (ascii_of_isDigit hc), List.cons_append, lex, hstep,
      ih fun c hc => hds c (List.mem_cons_of_mem _ hc)]
    simp [Numeral.pushWhole]

/-- A number but zero does not begin with a zero. -/
theorem exists_toDigits {n : Nat} (hn : n ≠ 0) :
    ∃ d ds, Nat.toDigits 10 n = Nat.digitChar d :: ds ∧ d ≠ 0 ∧ d < 10 := by
  induction n using Nat.strongRecOn with
  | ind n ih =>
    by_cases hlt : n < 10
    · exact ⟨n, [], Nat.toDigits_of_lt_base hlt, hn, hlt⟩
    · obtain ⟨d, ds, hds, hd⟩ := ih (n / 10) (by omega) (by omega)
      refine ⟨d, ds ++ [Nat.digitChar (n % 10)], ?_, hd⟩
      rw [Nat.toDigits_of_base_le (by decide) (Nat.le_of_not_lt hlt), hds, List.cons_append]

theorem step_digitChar {d : Nat} (hd : d ≠ 0) (hlt : d < 10) :
    Lexing.between.step (code (Nat.digitChar d)) = ([], .number .whole ⟨false, [d], [], none⟩) ∧
    (Lexing.number .sign ⟨true, [], [], none⟩).step (code (Nat.digitChar d)) =
      ([], .number .whole ⟨true, [d], [], none⟩) ∧
    digitOf (code (Nat.digitChar d)) = d := by
  have hall : ∀ d : Fin 10, d.val ≠ 0 →
      Lexing.between.step (code (Nat.digitChar d)) =
        ([], .number .whole ⟨false, [d.val], [], none⟩) ∧
      (Lexing.number .sign ⟨true, [], [], none⟩).step (code (Nat.digitChar d)) =
        ([], .number .whole ⟨true, [d.val], [], none⟩) ∧
      digitOf (code (Nat.digitChar d)) = d.val := by decide
  exact hall ⟨d, hlt⟩ hd

/-- The digits of a number, at its beginning and after its sign. -/
theorem lex_toDigits (m : Nat) (h : Ends rest) :
    lex .between (utf8 (Nat.toDigits 10 m) ++ rest) =
      .number ⟨false, digits m, [], none⟩ :: lex .between rest ∧
    lex (.number .sign ⟨true, [], [], none⟩) (utf8 (Nat.toDigits 10 m) ++ rest) =
      .number ⟨true, digits m, [], none⟩ :: lex .between rest := by
  by_cases hm : m = 0
  · subst hm
    have hzero := lex_number_end .zero rfl ⟨false, [0], [], none⟩ h.breaks
    have hminus := lex_number_end .zero rfl ⟨true, [0], [], none⟩ h.breaks
    exact ⟨hzero, hminus⟩
  · obtain ⟨d, ds, hds, hd, hlt⟩ := exists_toDigits hm
    have hall : ∀ c ∈ Nat.digitChar d :: ds, c.isDigit = true := fun c hc =>
      Nat.isDigit_of_mem_toDigits (by decide) (by decide) (hds ▸ hc)
    obtain ⟨hbegin, hsign, hvalue⟩ := step_digitChar hd hlt
    rw [digits, hds, utf8_cons (ascii_of_isDigit (hall _ List.mem_cons_self)), List.cons_append,
      lex, lex, hbegin, hsign, lex_whole fun c hc => hall c (List.mem_cons_of_mem _ hc),
      lex_whole fun c hc => hall c (List.mem_cons_of_mem _ hc),
      lex_number_end .whole rfl _ h.breaks, lex_number_end .whole rfl _ h.breaks]
    simp [Numeral.inOrder, hvalue]

/-- An integer is one token. -/
theorem lex_integerList (n : Int) (h : Ends rest) :
    lex .between (utf8 (integerList n) ++ rest) = .number (numeral n) :: lex .between rest := by
  rw [integerList, numeral]
  by_cases hn : n < 0
  · have hsign : Lexing.between.step (code '-') = ([], .number .sign ⟨true, [], [], none⟩) := rfl
    rw [if_pos hn, utf8_cons (by decide), List.cons_append, lex, hsign]
    simp [hn, (lex_toDigits _ h).2]
  · rw [if_neg hn]
    simp [hn, (lex_toDigits _ h).1]

end

end TrackResolver.Json
