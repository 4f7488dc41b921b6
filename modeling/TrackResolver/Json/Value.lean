import TrackResolver.Dict

/-!
# JSON values and how they are written

`Value.render` writes a value without any blank between its parts. The members of an object stand in
the order in which they are given.
-/
namespace TrackResolver.Json

inductive Value where
  | null
  | boolean (b : Bool)
  | integer (n : Int)
  | text (s : String)
  | list (items : List Value)
  | object (members : List (String × Value))
deriving Inhabited

namespace Value

/-- The entries of a dictionary as the members of an object. -/
def ofDict {α : Type} (write : α → Value) (d : Dict α) : Value :=
  .object (d.entries.map fun e => (e.1, write e.2))

/-- A member that is written only when it has a value. -/
def optional {α : Type} (name : String) (write : α → Value) (a : Option α) :
    List (String × Value) :=
  match a with
  | none => []
  | some a => [(name, write a)]

end Value

/-- The letter that stands for a control character after a backslash. -/
def escapeLetter? (c : Char) : Option Char :=
  match c with
  | '"' => some '"'
  | '\\' => some '\\'
  | '\x08' => some 'b'
  | '\x0c' => some 'f'
  | '\n' => some 'n'
  | '\r' => some 'r'
  | '\t' => some 't'
  | _ => none

/-- A digit of a number in base sixteen. -/
def hexDigit (n : Nat) : Char := Nat.digitChar (n % 16)

/-- One character as it stands between quotes. -/
def escaped (c : Char) : List Char :=
  match escapeLetter? c with
  | some letter => ['\\', letter]
  | none =>
    if c.toNat < 0x20 then ['\\', 'u', '0', '0', hexDigit (c.toNat / 16), hexDigit c.toNat] else [c]

/-- A text between quotes. -/
def quoteList (s : List Char) : List Char := '"' :: s.flatMap escaped ++ ['"']

/-- An integer in decimal digits. -/
def integerList (n : Int) : List Char :=
  if n < 0 then '-' :: Nat.toDigits 10 n.natAbs else Nat.toDigits 10 n.natAbs

mutual
/-- The characters of a value. -/
def Value.renderList : Value → List Char
  | .null => "null".toList
  | .boolean true => "true".toList
  | .boolean false => "false".toList
  | .integer n => integerList n
  | .text s => quoteList s.toList
  | .list items => '[' :: renderItems items
  | .object members => '\x7b' :: renderMembers members

/-- The items of an array, and its closing bracket. -/
def renderItems : List Value → List Char
  | [] => [']']
  | [v] => v.renderList ++ [']']
  | v :: w :: rest => v.renderList ++ ',' :: renderItems (w :: rest)

/-- The members of an object, and its closing brace. -/
def renderMembers : List (String × Value) → List Char
  | [] => ['\x7d']
  | [(k, v)] => quoteList k.toList ++ ':' :: v.renderList ++ ['\x7d']
  | (k, v) :: m :: rest =>
    quoteList k.toList ++ ':' :: v.renderList ++ ',' :: renderMembers (m :: rest)
end

def Value.render (v : Value) : String := String.ofList v.renderList

end TrackResolver.Json
