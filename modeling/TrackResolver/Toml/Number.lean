import TrackResolver.Toml.Lexical
import TrackResolver.Toml.Value

/-!
# TOML numbers

Decimal numbers may have a sign and no leading zeros; numbers of other bases begin with a zero and a
small letter. Single underscores may stand between digits. An integer has to fit 64 bits, and a
number that is rounded to infinity is refused.
-/
namespace TrackResolver.Toml

open Text (isHexDigit digitsValue)

/-- The digits of a number after the digits `done`, latest first. -/
def moreDigits (ok : Char → Bool) (done : List Char) : Scan (List Char)
  | '_' :: c :: cs => if ok c then moreDigits ok (c :: done) cs else none
  | c :: cs => if ok c then moreDigits ok (c :: done) cs else some (done.reverse, c :: cs)
  | [] => some (done.reverse, [])

/-- One digit or more. -/
def digits (ok : Char → Bool) : Scan (List Char)
  | c :: cs => if ok c then moreDigits ok [c] cs else none
  | [] => none

/-- A sign, if there is one: whether the number is negative. -/
def sign : List Char → Bool × List Char
  | '+' :: cs => (false, cs)
  | '-' :: cs => (true, cs)
  | cs => (false, cs)

/-- The digits of a whole number: a zero, or digits that do not begin with one. -/
def wholeDigits : Scan (List Char)
  | '0' :: cs => some (['0'], cs)
  | cs => digits Char.isDigit cs

def integerOf (negative : Bool) (n : Nat) : Option Value :=
  let i : Int := if negative then -n else n
  if Int64.minValue.toInt ≤ i ∧ i ≤ Int64.maxValue.toInt then some (.integer i) else none

/-- A number of base sixteen, eight or two. -/
def basedInteger (base : Nat) (ok : Char → Bool) : Scan Value := fun cs => do
  let (ds, cs) ← digits ok cs
  let n ← integerOf false (digitsValue base ds)
  return (n, cs)

/-- The binary number next to `ds · 10 ^ e`. Outside the range of binary numbers the power of ten is
not worked out. -/
def nearest (ds : List Char) (e : Int) : Float :=
  let significant := ds.dropWhile (· = '0')
  let size : Int := significant.length + e
  if significant.isEmpty || size < -400 then 0.0
  else if 400 < size then Float.ofScientific 1 false 400
  else Float.ofScientific (digitsValue 10 significant) (e < 0) e.natAbs

/-- The part behind the point, if there is one. -/
def fraction (cs : List Char) : Option (List Char × List Char) :=
  match cs with
  | '.' :: cs => digits Char.isDigit cs
  | cs => some ([], cs)

/-- The exponent, if there is one. -/
def exponent (cs : List Char) : Option (Option Int × List Char) :=
  let behind (cs : List Char) : Option (Option Int × List Char) := do
    let (negative, cs) := sign cs
    let (ds, cs) ← digits Char.isDigit cs
    let n : Int := digitsValue 10 ds
    return (some (if negative then -n else n), cs)
  match cs with
  | 'e' :: cs | 'E' :: cs => behind cs
  | cs => some (none, cs)

/-- A number of base ten. -/
def decimalNumber : Scan Value := fun cs => do
  let (negative, cs) := sign cs
  let (whole, cs) ← wholeDigits cs
  let (part, cs) ← fraction cs
  let (e?, cs) ← exponent cs
  if part.isEmpty && e?.isNone then
    let n ← integerOf negative (digitsValue 10 whole)
    return (n, cs)
  else
    let size := nearest (whole ++ part) (e?.getD 0 - part.length)
    if negative then return (.float (-size), cs)
    else if size.isInf then none
    else return (.float size, cs)

/-- A number that is written as a word, with or without a sign. -/
def wordNumber : Scan Value := fun cs =>
  let (negative, cs) := sign cs
  match cs with
  | 'i' :: 'n' :: 'f' :: cs =>
    let infinity := Float.ofScientific 1 false 400
    some (.float (if negative then -infinity else infinity), cs)
  | 'n' :: 'a' :: 'n' :: cs => some (.float (0.0 / 0.0), cs)
  | _ => none

def number : Scan Value
  | '0' :: 'x' :: cs => basedInteger 16 isHexDigit cs
  | '0' :: 'o' :: cs => basedInteger 8 (fun c => '0' ≤ c && c ≤ '7') cs
  | '0' :: 'b' :: cs => basedInteger 2 (fun c => c = '0' || c = '1') cs
  | cs => (decimalNumber cs).or (wordNumber cs)

end TrackResolver.Toml
