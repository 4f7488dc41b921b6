import TrackResolver.Json.Token
import TrackResolver.Decimal.Layout

/-!
# JSON numbers

A number without fraction and exponent is an integer as long as it fits 64 bits. Any other is
binary: its digits are gathered while they fit 64 bits, and the power of ten is applied to what was
gathered. A number beyond the largest binary one is refused.

* `Quantity.ofNumeral?_digits`: a natural number below `2 ^ 64` in its decimal digits is itself.
-/
namespace TrackResolver.Json

/-- What a number comes to. -/
inductive Quantity where
  | integer (n : Int)
  | decimal (f : Float)

/-- One more than the greatest significand. -/
def capacity : Nat := UInt64.size

/-- Appends digits to a significand while they fit, and counts them. -/
def gather (significand taken : Nat) : List Nat → Nat × Nat
  | [] => (significand, taken)
  | d :: ds =>
    if significand * 10 + d < capacity then gather (significand * 10 + d) (taken + 1) ds
    else (significand, taken)

/-- The exponents whose powers of ten are binary numbers. -/
def greatestPower : Nat := 308

/-- The power of ten nearest to it that is binary. -/
def power (n : Nat) : Float := Float.ofScientific 1 false n

/-- Divides by the greatest power of ten, until nothing is left or as often as it is told. -/
def shrink (f : Float) : Nat → Float
  | 0 => f
  | n + 1 => if f == 0.0 then f else shrink (f / power greatestPower) n

/-- `significand · 10 ^ e`, unless it is too large. -/
def scaled? (significand : Nat) (e : Int) : Option Float :=
  let f := Float.ofNat significand
  let size := e.natAbs
  if e < 0 then
    let steps := (size - 1) / greatestPower
    some (shrink f steps / power (size - greatestPower * steps))
  else if size ≤ greatestPower then
    let product := f * power size
    if product.isInf then none else some product
  else if significand = 0 then some f
  else none

/-- The value of decimal digits. -/
def digitsValue (digits : List Nat) : Nat := digits.foldl (fun n d => n * 10 + d) 0

/-- The least exponent that is too large to be counted. -/
def exponentCapacity : Nat := Nat.pow 2 31

/-- The binary number with this significand and the power of ten that the digits left out and the
written exponent make up. -/
def binary? (n : Numeral) (significand : Nat) (e : Int) : Option Float :=
  let size := match n.exponent with
    | none => scaled? significand e
    | some (negative, digits) =>
      let written := digitsValue digits
      if written < exponentCapacity then
        scaled? significand (if negative then e - written else e + written)
      else if significand ≠ 0 && !negative then none
      else some 0.0
  size.map fun f => if n.negative then -f else f

/-- What the digits of an integer come to. A negative zero and a negative number beyond 64 bits
are binary. -/
def integral (negative : Bool) (significand : Nat) : Quantity :=
  if !negative then .integer significand
  else if significand = 0 || Nat.pow 2 63 < significand then .decimal (-Float.ofNat significand)
  else .integer (-significand)

/-- The value of a number as it is written, unless it is too large. -/
def Quantity.ofNumeral? (n : Numeral) : Option Quantity :=
  let (significand, taken) := gather 0 0 n.whole
  let left := n.whole.length - taken
  if left = 0 && n.fraction.isEmpty && n.exponent.isNone then
    some (integral n.negative significand)
  else
    let (significand, places) := gather significand 0 n.fraction
    (binary? n significand (left - places)).map .decimal

/-- Numbers are written out when the leading digit counts from `10 ^ -5` to `10 ^ 15`. -/
def layout : Decimal.Layout := ⟨fun e => -5 ≤ e && e ≤ 15, .even⟩

/-- How a number is shown where it is not wanted. -/
def Quantity.shape : Quantity → Reading.Shape
  | integer n => .integer n
  | decimal f => .decimal (layout.write f)

theorem gather_of_fits (s t : Nat) (ds : List Nat)
    (h : ds.foldl (fun n d => n * 10 + d) s < capacity) :
    gather s t ds = (ds.foldl (fun n d => n * 10 + d) s, t + ds.length) := by
  induction ds generalizing s t with
  | nil => rfl
  | cons d ds ih =>
    have grows : ∀ (l : List Nat) (m : Nat), m ≤ l.foldl (fun n d => n * 10 + d) m := by
      intro l
      induction l with
      | nil => exact fun m => Nat.le_refl m
      | cons e l ihl => exact fun m => Nat.le_trans (by omega) (ihl (m * 10 + e))
    have hs : s * 10 + d < capacity := Nat.lt_of_le_of_lt (grows ds _) h
    rw [gather, if_pos hs, ih _ _ h]
    simp only [List.foldl_cons, List.length_cons, Prod.mk.injEq, true_and]
    omega

theorem Quantity.ofNumeral?_digits (ds : List Nat) (h : digitsValue ds < capacity) :
    ofNumeral? ⟨false, ds, [], none⟩ = some (.integer (digitsValue ds)) := by
  simp only [ofNumeral?, gather_of_fits 0 0 ds h]
  simp [integral, digitsValue]

end TrackResolver.Json
