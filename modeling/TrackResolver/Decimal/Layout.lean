import TrackResolver.Decimal.Shortest

/-!
# How a decimal number is written

A number stands in positional notation, with at least one digit on either side of the point, or in
scientific notation with the sign of the exponent. A `Layout` says which exponents are positional
and which way a tie between two shortest forms goes.
-/
namespace TrackResolver.Decimal

/-- `positional e` tells whether a number whose leading digit counts `10 ^ e` is written out. -/
structure Layout where
  positional : Int → Bool
  tie : Tie

/-- The leading digit counts `10 ^ e`. -/
def positionalText (digits : List Char) (e : Int) : List Char :=
  if 0 ≤ e then
    let whole := e.toNat + 1
    if digits.length ≤ whole then
      digits ++ List.replicate (whole - digits.length) '0' ++ ['.', '0']
    else digits.take whole ++ '.' :: digits.drop whole
  else '0' :: '.' :: List.replicate ((-e).toNat - 1) '0' ++ digits

def scientificText (digits : List Char) (e : Int) : List Char :=
  let mantissa := match digits with
    | [d] => [d]
    | d :: ds => d :: '.' :: ds
    | [] => []
  mantissa ++ 'e' :: (if 0 ≤ e then '+' else '-') :: Nat.toDigits 10 e.natAbs

/-- A finite number in a layout, or the name of one that is not finite. -/
def Layout.write (layout : Layout) (f : Float) : String :=
  if f.isNaN then "NaN"
  else if f.isInf then (if f < 0 then "-inf" else "inf")
  else
    let (negative, point) := ofFloat layout.tie f
    let digits := Nat.toDigits 10 point.digits
    let e : Int := point.scale + digits.length - 1
    let body := if layout.positional e then positionalText digits e else scientificText digits e
    String.ofList (if negative then '-' :: body else body)

end TrackResolver.Decimal
