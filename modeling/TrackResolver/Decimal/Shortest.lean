/-!
# The fewest digits that read back

A finite binary number is `m · 2 ^ q`. Around it lies the interval of the reals that are rounded to
it; the ends belong to it when `m` is even. `shortest?` looks for the coarsest decimal grid with a
point in the interval and takes the point nearest to the number. If two are as near, a `Tie` decides.
-/
namespace TrackResolver.Decimal

/-- Which of the two neighbours to take for a number halfway between them. -/
inductive Tie where
  | even
  | up
deriving DecidableEq

/-- Whether a number halfway above `below` goes down to it. -/
def Tie.goesDown (below : Nat) : Tie → Bool
  | even => below % 2 = 0
  | up => false

/-- The number `digits · 10 ^ scale`. -/
structure Point where
  digits : Nat
  scale : Int
deriving DecidableEq, Repr

/-- `x · a / b` is `x · 2 ^ (q - 2)` counted in steps of `10 ^ k`. -/
def ratio (q k : Int) : Nat × Nat :=
  (Nat.pow 2 (q - 2).toNat * Nat.pow 10 (-k).toNat, Nat.pow 2 (2 - q).toNat * Nat.pow 10 k.toNat)

/-- The point of the grid with step `10 ^ k` to take for `m · 2 ^ q`, if one lies in the interval.
The neighbour below is only half as far away when `narrow` holds. -/
def onGrid? (tie : Tie) (m : Nat) (q : Int) (narrow : Bool) (k : Int) : Option Nat :=
  let (a, b) := ratio q k
  let low := 4 * m - (if narrow then 1 else 2)
  let high := 4 * m + 2
  let inside (c : Nat) : Bool :=
    c ≠ 0 && (if m % 2 = 0 then low * a ≤ c * b && c * b ≤ high * a
      else low * a < c * b && c * b < high * a)
  let below := 4 * m * a / b
  let nearer := 2 * (4 * m * a) < (2 * below + 1) * b ||
    (2 * (4 * m * a) = (2 * below + 1) * b && tie.goesDown below)
  if inside below && (nearer || !inside (below + 1)) then some below
  else if inside (below + 1) then some (below + 1)
  else none

/-- Tries the grids from `10 ^ k` downwards. -/
def descend? (tie : Tie) (m : Nat) (q : Int) (narrow : Bool) : Nat → Int → Option Point
  | 0, _ => none
  | n + 1, k =>
    match onGrid? tie m q narrow k with
    | some digits => some ⟨digits, k⟩
    | none => descend? tie m q narrow n (k - 1)

/-- The point with the fewest digits that is rounded to `m · 2 ^ q`. No number needs more than
seventeen, and the first grid tried is at most two steps above the leading digit. -/
def shortest? (tie : Tie) (m : Nat) (q : Int) (narrow : Bool) : Option Point :=
  descend? tie m q narrow 20 ((Nat.log2 m + q + 1) * 30103 / 100000 + 1)

/-- A finite number as its sign and the shortest point; zero has the point zero. -/
def ofFloat (tie : Tie) (f : Float) : Bool × Point :=
  let bits := f.toBits.toNat
  let exponent : Nat := bits / Nat.pow 2 52 % Nat.pow 2 11
  let fraction : Nat := bits % Nat.pow 2 52
  let (m, q) : Nat × Int :=
    if exponent = 0 then (fraction, -1074) else (Nat.pow 2 52 + fraction, (exponent : Int) - 1075)
  let point := if m = 0 then ⟨0, 0⟩
    else (shortest? tie m q (fraction = 0 && 1 < exponent)).getD ⟨m, q⟩
  (bits / Nat.pow 2 63 = 1, point)

end TrackResolver.Decimal
