import TrackResolver.Text.Bidi

/-!
# Labels in two directions

If a name has a character that is written from right to left, its labels have to be such that they
look the same wherever they stand: each begins with a letter, and what else it holds goes with the
direction of that letter.
-/
namespace TrackResolver.Domain

open Text (Bidi bidi)

/-- Whether a name with this character has to be looked at. -/
def isRightward (c : Char) : Bool :=
  match bidi c with
  | .right | .arabic | .arabicNumber => true
  | _ => false

/-- What may stand in a label of any direction. -/
def isShared : Bidi → Bool
  | .european | .plusMinus | .separator | .currency | .neutral | .boundary | .mark => true
  | _ => false

/-- What the last character is that is no mark. -/
def lastBidi (label : List Bidi) : Option Bidi := label.reverse.find? (· ≠ .mark)

/-- Whether a label has one direction. -/
def isDirected (label : List Char) : Bool :=
  let classes := label.map bidi
  match classes.head? with
  | none => true
  | some .left =>
    classes.all (fun b => b = .left || isShared b) &&
      (lastBidi classes).any fun b => b = .left || b = .european
  | some .right | some .arabic =>
    classes.all (fun b => b = .right || b = .arabic || b = .arabicNumber || isShared b) &&
      (lastBidi classes).any (fun b =>
        b = .right || b = .arabic || b = .european || b = .arabicNumber) &&
      !(classes.contains .european && classes.contains .arabicNumber)
  | some _ => false

end TrackResolver.Domain
