import TrackResolver.Toml.Lexical
import TrackResolver.Toml.Value

/-!
# Dates and times

A date, a time, or a date with a time and perhaps an offset. Every part has to be in its range, and
the day has to be one of its month. A moment is shown with a capital `T` and `Z`, and with no more
digits of the fraction than are needed, nine at most.
-/
namespace TrackResolver.Toml

open Text (padded digitsValue)

/-- A number of exactly `n` digits, from `least` to `most`. -/
def ranged (n least most : Nat) : Scan Nat := fun cs =>
  let ds := cs.take n
  let value := digitsValue 10 ds
  if ds.length = n && ds.all Char.isDigit && least ≤ value && value ≤ most then
    some (value, cs.drop n)
  else none

/-- The text behind `c`. -/
def expect (c : Char) : List Char → Option (List Char)
  | d :: cs => if c = d then some cs else none
  | [] => none

def isLeapYear (year : Nat) : Bool := year % 4 = 0 && (year % 100 ≠ 0 || year % 400 = 0)

def daysIn (year month : Nat) : Nat :=
  if month = 2 then (if isLeapYear year then 29 else 28)
  else if month = 4 || month = 6 || month = 9 || month = 11 then 30 else 31

def date : Scan (List Char) := fun cs => do
  let (year, cs) ← ranged 4 0 9999 cs
  let (month, cs) ← ranged 2 1 12 (← expect '-' cs)
  let (day, cs) ← ranged 2 1 31 (← expect '-' cs)
  if day ≤ daysIn year month then
    return (padded 4 year ++ '-' :: padded 2 month ++ '-' :: padded 2 day, cs)
  else none

/-- The digits behind a point, if there are any, as they are shown. -/
def secondPart : List Char → List Char × List Char
  | '.' :: cs =>
    let ds := cs.takeWhile Char.isDigit
    if ds.isEmpty then ([], '.' :: cs)
    else
      let shown := ((ds.take 9).reverse.dropWhile (· = '0')).reverse
      (if shown.isEmpty then [] else '.' :: shown, cs.drop ds.length)
  | cs => ([], cs)

def time : Scan (List Char) := fun cs => do
  let (hour, cs) ← ranged 2 0 23 cs
  let (minute, cs) ← ranged 2 0 59 (← expect ':' cs)
  let (second, cs) ← ranged 2 0 60 (← expect ':' cs)
  let (part, cs) := secondPart cs
  return (padded 2 hour ++ ':' :: padded 2 minute ++ ':' :: padded 2 second ++ part, cs)

/-- An offset, if one follows. One of no minutes is positive. -/
def offset : List Char → List Char × List Char
  | 'Z' :: cs | 'z' :: cs => (['Z'], cs)
  | '+' :: cs => ((signed '+' cs).getD ([], '+' :: cs))
  | '-' :: cs => ((signed '-' cs).getD ([], '-' :: cs))
  | cs => ([], cs)
where
  /-- Hours and minutes behind a sign. -/
  signed (mark : Char) : Scan (List Char) := fun cs => do
    let (hour, cs) ← ranged 2 0 23 cs
    let (minute, cs) ← ranged 2 0 59 (← expect ':' cs)
    let mark := if hour = 0 ∧ minute = 0 then '+' else mark
    return (mark :: padded 2 hour ++ ':' :: padded 2 minute, cs)

/-- The time behind a date, if one follows. -/
def timeBehind : List Char → List Char × List Char
  | c :: cs =>
    if c = 'T' || c = 't' || c = ' ' then
      match time cs with
      | some (shown, cs) =>
        let (away, cs) := offset cs
        ('T' :: shown ++ away, cs)
      | none => ([], c :: cs)
    else ([], c :: cs)
  | [] => ([], [])

def moment : Scan Value := fun cs =>
  match date cs with
  | some (day, cs) =>
    let (rest, cs) := timeBehind cs
    some (.moment (String.ofList (day ++ rest)), cs)
  | none => (time cs).map fun (shown, cs) => (.moment (String.ofList shown), cs)

end TrackResolver.Toml
