import TrackResolver.Text.Digits
import TrackResolver.Text.Split

/-!
# Tables of characters in writing

A table of characters is written with their code points in hexadecimal digits, apart from each other
by blanks and line breaks. In a table of spans a word is a code point or the first and the last of a
span: `41-5a`. In a table of rules a word also says what the character becomes, and a rule may hold
for every n-th character of a span: `41-5a=61`, `100-12e/2=101`, `bd=31.2044.32`. The first character
of a span becomes what is written, and the others what lies as far behind that.
-/
namespace TrackResolver.Text

/-- The words between blanks and line breaks. -/
def words (s : String) : List (List Char) :=
  let (word, found) := s.toList.foldl (fun (word, found) c =>
    if c = ' ' || c = '\n' then ([], if word.isEmpty then found else word.reverse :: found)
    else (c :: word, found)) (([], []) : List Char × List (List Char))
  (if word.isEmpty then found else word.reverse :: found).reverse

/-- The code points from `first` to `last`. -/
structure Span where
  first : Nat
  last : Nat
deriving Inhabited

def Span.holds (s : Span) (n : Nat) : Bool := s.first ≤ n && n ≤ s.last

def Span.ofWord (word : List Char) : Span :=
  match cutAt? '-' word with
  | some (first, last) => ⟨digitsValue 16 first, digitsValue 16 last⟩
  | none => ⟨digitsValue 16 word, digitsValue 16 word⟩

def spans (s : String) : Array Span := ((words s).map Span.ofWord).toArray

def isAmong (table : Array Span) (c : Char) : Bool := table.any (·.holds c.toNat)

/-- What every `step`-th character of a span becomes. -/
structure Rule where
  span : Span
  step : Nat
  becomes : List Nat
deriving Inhabited

/-- What the rule makes of a code point. -/
def Rule.image? (r : Rule) (n : Nat) : Option (List Char) :=
  let offset := n - r.span.first
  if r.span.holds n && offset % r.step = 0 then
    some (r.becomes.map fun m => Char.ofNat (m + offset))
  else none

def Rule.ofWord (word : List Char) : Rule :=
  let (domain, becomes) := (cutAt? '=' word).getD (word, [])
  let (span, step) := (cutAt? '/' domain).getD (domain, ['1'])
  ⟨Span.ofWord span, digitsValue 16 step, (splitOn '.' becomes).map (digitsValue 16)⟩

def rules (s : String) : Array Rule := ((words s).map Rule.ofWord).toArray

/-- What the first rule that speaks of `c` makes of it. -/
def becomes? (table : Array Rule) (c : Char) : Option (List Char) :=
  table.findSome? (·.image? c.toNat)

end TrackResolver.Text
