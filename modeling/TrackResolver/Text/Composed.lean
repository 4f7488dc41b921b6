import TrackResolver.Text.CombiningClass
import TrackResolver.Text.CompositionTable

/-!
# Composed text

The same text can be spelled with composite characters or with bases and marks. `composed` gives the
one spelling with as few characters as there can be (Normalization Form C): every character is taken
apart, marks that do not touch are put into the order of their classes, and what belongs together is
put together again. The syllables of Hangul are put together by their numbers.
-/
namespace TrackResolver.Text

/-- The parts of a character, taken apart up to `depth` times. -/
def parts : Nat → Char → List Char
  | 0, c => [c]
  | depth + 1, c =>
    match becomes? composites c with
    | some cs => cs.flatMap (parts depth)
    | none => [c]

/-- Puts a mark behind those of no higher class; `done` is the text before it, latest first. -/
def insertMark (c : Char) : List Char → List Char
  | [] => [c]
  | d :: done =>
    if 0 < combiningClass c && combiningClass c < combiningClass d then d :: insertMark c done
    else c :: d :: done

/-- With all characters taken apart and the marks in order. No character has more than four
parts. -/
def decomposed (cs : List Char) : List Char :=
  ((cs.flatMap (parts 3)).foldl (fun done c => insertMark c done) []).reverse

/-- The syllable of Hangul that two of its parts make. -/
def hangul? (a b : Char) : Option Char :=
  let m := a.toNat
  let n := b.toNat
  if 0x1100 ≤ m && m < 0x1113 && 0x1161 ≤ n && n < 0x1176 then
    some (Char.ofNat (0xac00 + ((m - 0x1100) * 21 + (n - 0x1161)) * 28))
  else if 0xac00 ≤ m && m < 0xd7a4 && (m - 0xac00) % 28 = 0 && 0x11a8 ≤ n && n < 0x11c3 then
    some (Char.ofNat (m + (n - 0x11a7)))
  else none

/-- The composite of two characters. -/
def composite? (a b : Char) : Option Char :=
  match composites.find? (·.becomes = [a.toNat, b.toNat]) with
  | some rule => some (Char.ofNat rule.span.first)
  | none => hangul? a b

/-- A text on its way together: what is finished, the base that may still take marks, and the marks
that it did not take; all of it latest first. -/
structure Composing where
  done : List Char := []
  base : Option Char := none
  held : List Char := []

namespace Composing

/-- What there is so far, latest first. -/
def text (s : Composing) : List Char := s.held ++ (s.base.toList ++ s.done)

/-- Whether nothing stands between the base and a character of this class. -/
def reaches (s : Composing) (k : Nat) : Bool :=
  match s.held with
  | [] => true
  | d :: _ => combiningClass d < k

/-- One character more. -/
def feed (s : Composing) (c : Char) : Composing :=
  let k := combiningClass c
  match if s.reaches k then s.base.bind (composite? · c) else none with
  | some b => { s with base := some b }
  | none =>
    if k = 0 then ⟨s.text, some c, []⟩
    else { s with held := c :: s.held }

end Composing

/-- The composed spelling of a text. -/
def composed (cs : List Char) : List Char :=
  ((decomposed cs).foldl Composing.feed {}).text.reverse

end TrackResolver.Text
