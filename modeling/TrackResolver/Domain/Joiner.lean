import TrackResolver.Text.CombiningClass
import TrackResolver.Text.Joining

/-!
# Joiners

Two characters that are not seen change how their neighbours are joined. They may stand behind a mark
that takes the vowel from its letter, and the one that keeps letters apart also between two letters
that would join without it.
-/
namespace TrackResolver.Domain

open Text (isVirama isTransparent joinsBefore joinsBehind)

/-- Keeps letters apart. -/
def nonJoiner : Char := '\u200c'

/-- Joins letters. -/
def joiner : Char := '\u200d'

/-- Whether the first character across which letters are not joined has a property. -/
def nextLetter (p : Char → Bool) (cs : List Char) : Bool :=
  match cs.dropWhile isTransparent with
  | c :: _ => p c
  | [] => false

/-- Whether a joiner may stand between `before`, latest first, and `behind`. -/
def mayJoin (c : Char) (before behind : List Char) : Bool :=
  before.head?.any isVirama ||
    c = nonJoiner && nextLetter joinsBehind before && nextLetter joinsBefore behind

/-- Whether all joiners stand where they may; `before` is what was looked at, latest first. -/
def joinersFit (before : List Char) : List Char → Bool
  | [] => true
  | c :: cs =>
    ((c ≠ nonJoiner && c ≠ joiner) || mayJoin c before cs) && joinersFit (c :: before) cs

end TrackResolver.Domain
