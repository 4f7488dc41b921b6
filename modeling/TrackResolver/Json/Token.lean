import TrackResolver.Reading.Fault

/-!
# JSON tokens

`tokens` cuts a document, given as bytes, into its tokens, one byte at a time. The last token may be
one that cannot be finished; behind it nothing is looked at. A text is kept in the pieces in which
it is written: whether they make up characters is asked only when the text is read.

* `Lexer.run_append`: a document is cut from left to right, with the state handed on.
-/
namespace TrackResolver.Json

open Reading (Stop)

/-- A piece of a text between quotes. -/
inductive Piece where
  /-- A byte that stands for itself or is written with a backslash and one letter. -/
  | byte (b : UInt8)
  /-- A UTF-16 unit that is written with four hexadecimal digits. -/
  | unit (u : Nat)
deriving DecidableEq

/-- A number as it is written: its digits, those after the point, and the exponent with its sign. -/
structure Numeral where
  negative : Bool
  whole : List Nat
  fraction : List Nat := []
  exponent : Option (Bool × List Nat) := none
deriving DecidableEq

inductive Token where
  | openArray
  | closeArray
  | openObject
  | closeObject
  | comma
  | colon
  | null
  | boolean (b : Bool)
  | number (n : Numeral)
  | text (pieces : List Piece)
  /-- The letters of `null`, `true` or `false` are not all there. -/
  | brokenWord (null : Bool) (stop : Stop)
  | brokenNumber (stop : Stop)
  | brokenText (pieces : List Piece) (stop : Stop)
  /-- A byte with which no token begins. -/
  | stray
deriving DecidableEq

/-- The parts of a number; digits are collected latest first. -/
inductive Part where
  /-- After the minus sign. -/
  | sign
  /-- After a leading zero. -/
  | zero
  | whole
  /-- After the point. -/
  | point
  | fraction
  /-- After the letter of the exponent. -/
  | mark
  /-- After the sign of the exponent. -/
  | markSign
  | exponent
deriving DecidableEq

/-- What the lexer is in the middle of. -/
inductive Lexing where
  | between
  /-- Inside a word: the bytes to come, and what it says. -/
  | word (left : List UInt8) (token : Token)
  | number (part : Part) (n : Numeral)
  | text (pieces : List Piece)
  /-- After a backslash. -/
  | escape (pieces : List Piece)
  /-- After `\u`: the bytes of the four that are there, latest first. -/
  | unit (pieces : List Piece) (digits : List UInt8)
  /-- Behind a token that cannot be finished. -/
  | ended
deriving DecidableEq

/-! ## Bytes -/

/-- The byte of an ASCII character. -/
def code (c : Char) : UInt8 := c.toNat.toUInt8

def isSpace (b : UInt8) : Bool := b = 0x20 || b = 0x0a || b = 0x09 || b = 0x0d

def isDigit (b : UInt8) : Bool := code '0' ≤ b && b ≤ code '9'

def digitOf (b : UInt8) : Nat := (b - code '0').toNat

/-- The value of a hexadecimal digit of either case. -/
def hexOf? (b : UInt8) : Option Nat :=
  if isDigit b then some (digitOf b)
  else if code 'a' ≤ b && b ≤ code 'f' then some (b - code 'a' + 10).toNat
  else if code 'A' ≤ b && b ≤ code 'F' then some (b - code 'A' + 10).toNat
  else none

/-- What a letter after a backslash stands for. -/
def escaped? (b : UInt8) : Option UInt8 :=
  if b = code '"' || b = code '\\' || b = code '/' then some b
  else if b = code 'b' then some 0x08
  else if b = code 'f' then some 0x0c
  else if b = code 'n' then some 0x0a
  else if b = code 'r' then some 0x0d
  else if b = code 't' then some 0x09
  else none

/-! ## Numbers -/

namespace Numeral

/-- With the digits in the order in which they are read. -/
def inOrder (n : Numeral) : Numeral where
  negative := n.negative
  whole := n.whole.reverse
  fraction := n.fraction.reverse
  exponent := n.exponent.map fun (negative, digits) => (negative, digits.reverse)

def pushWhole (n : Numeral) (d : Nat) : Numeral := { n with whole := d :: n.whole }

def pushFraction (n : Numeral) (d : Nat) : Numeral := { n with fraction := d :: n.fraction }

def pushExponent (n : Numeral) (d : Nat) : Numeral :=
  { n with exponent := n.exponent.map fun (negative, digits) => (negative, d :: digits) }

end Numeral

/-- Whether a number may end after this part. -/
def Part.final : Part → Bool
  | .zero | .whole | .fraction | .exponent => true
  | .sign | .point | .mark | .markSign => false

/-- The number with one more byte, if that byte can follow in this part. -/
def Part.extend? (part : Part) (n : Numeral) (b : UInt8) : Option (Part × Numeral) :=
  match part with
  | .sign =>
    if b = code '0' then some (.zero, n.pushWhole 0)
    else if isDigit b then some (.whole, n.pushWhole (digitOf b)) else none
  | .zero =>
    if b = code '.' then some (.point, n)
    else if b = code 'e' || b = code 'E' then some (.mark, { n with exponent := some (false, []) })
    else none
  | .whole =>
    if isDigit b then some (.whole, n.pushWhole (digitOf b))
    else if b = code '.' then some (.point, n)
    else if b = code 'e' || b = code 'E' then some (.mark, { n with exponent := some (false, []) })
    else none
  | .point => if isDigit b then some (.fraction, n.pushFraction (digitOf b)) else none
  | .fraction =>
    if isDigit b then some (.fraction, n.pushFraction (digitOf b))
    else if b = code 'e' || b = code 'E' then some (.mark, { n with exponent := some (false, []) })
    else none
  | .mark =>
    if b = code '+' then some (.markSign, n)
    else if b = code '-' then some (.markSign, { n with exponent := some (true, []) })
    else if isDigit b then some (.exponent, n.pushExponent (digitOf b)) else none
  | .markSign | .exponent =>
    if isDigit b then some (.exponent, n.pushExponent (digitOf b)) else none

/-! ## The lexer -/

/-- The lexer at a byte that begins a token or stands between two. -/
def begin (b : UInt8) : List Token × Lexing :=
  if isSpace b then ([], .between)
  else if b = code '[' then ([.openArray], .between)
  else if b = code ']' then ([.closeArray], .between)
  else if b = code '\x7b' then ([.openObject], .between)
  else if b = code '\x7d' then ([.closeObject], .between)
  else if b = code ',' then ([.comma], .between)
  else if b = code ':' then ([.colon], .between)
  else if b = code '"' then ([], .text [])
  else if b = code '-' then ([], .number .sign ⟨true, [], [], none⟩)
  else if b = code '0' then ([], .number .zero ⟨false, [0], [], none⟩)
  else if isDigit b then ([], .number .whole ⟨false, [digitOf b], [], none⟩)
  else if b = code 'n' then ([], .word ("ull".toList.map code) .null)
  else if b = code 't' then ([], .word ("rue".toList.map code) (.boolean true))
  else if b = code 'f' then ([], .word ("alse".toList.map code) (.boolean false))
  else ([.stray], .ended)

/-- One byte more: the tokens that it completes, and what the lexer is in then. -/
def Lexing.step (s : Lexing) (b : UInt8) : List Token × Lexing :=
  match s with
  | between => begin b
  | word [] token => let (ts, s) := begin b; (token :: ts, s)
  | word (w :: left) token =>
    if b ≠ w then ([.brokenWord (token = .null) .malformed], ended)
    else if left.isEmpty then ([token], between)
    else ([], word left token)
  | number part n =>
    match part.extend? n b with
    | some (part, n) => ([], number part n)
    | none =>
      if !part.final || (part = .zero && isDigit b) then ([.brokenNumber .malformed], ended)
      else let (ts, s) := begin b; (.number n.inOrder :: ts, s)
  | text pieces =>
    if b = code '"' then ([.text pieces.reverse], between)
    else if b = code '\\' then ([], escape pieces)
    else if b < 0x20 then ([.brokenText pieces.reverse .malformed], ended)
    else ([], text (.byte b :: pieces))
  | escape pieces =>
    if b = code 'u' then ([], unit pieces [])
    else match escaped? b with
      | some c => ([], text (.byte c :: pieces))
      | none => ([.brokenText pieces.reverse .malformed], ended)
  | unit pieces [d₃, d₂, d₁] =>
    match hexOf? d₁, hexOf? d₂, hexOf? d₃, hexOf? b with
    | some x₁, some x₂, some x₃, some x₄ =>
      ([], text (.unit (((x₁ * 16 + x₂) * 16 + x₃) * 16 + x₄) :: pieces))
    | _, _, _, _ => ([.brokenText pieces.reverse .malformed], ended)
  | unit pieces digits => ([], unit pieces (b :: digits))
  | ended => ([], ended)

/-- The token that the end of the document completes or cuts off. -/
def Lexing.finish : Lexing → List Token
  | between | ended => []
  | word [] token => [token]
  | word _ token => [.brokenWord (token = .null) .unfinished]
  | number part n => [if part.final then .number n.inOrder else .brokenNumber .unfinished]
  | text pieces | escape pieces | unit pieces _ => [.brokenText pieces.reverse .unfinished]

/-- The lexer on its way through a document: the tokens found, latest first, and its state. -/
structure Lexer where
  found : List Token
  state : Lexing

def Lexer.start : Lexer := ⟨[], .between⟩

def Lexer.feed (l : Lexer) (b : UInt8) : Lexer :=
  let (ts, s) := l.state.step b
  ⟨ts.reverse ++ l.found, s⟩

def Lexer.run (l : Lexer) (bytes : List UInt8) : Lexer := bytes.foldl feed l

def tokens (bytes : List UInt8) : List Token :=
  let l := Lexer.start.run bytes
  (l.state.finish.reverse ++ l.found).reverse

theorem Lexer.run_append (l : Lexer) (a b : List UInt8) : l.run (a ++ b) = (l.run a).run b :=
  List.foldl_append

end TrackResolver.Json
