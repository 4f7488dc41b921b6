import TrackResolver.Text.Digits

/-!
# Durations and instants

A `Duration` is a whole number of nanoseconds. `Duration.text` writes it in the largest of the units
s, ms, µs and ns in which it is at least one, with the digits of the fraction that are needed and no
more. An `Instant` is the time since the clock of the process was started.
-/
namespace TrackResolver

/-- A span of time, in nanoseconds. -/
structure Duration where
  nanos : Nat
deriving DecidableEq, Repr, Inhabited

/-- A point in time, in nanoseconds on the clock of the process. -/
abbrev Instant := Nat

namespace Duration

instance : LE Duration := ⟨fun a b => a.nanos ≤ b.nanos⟩
instance : LT Duration := ⟨fun a b => a.nanos < b.nanos⟩
instance : DecidableLE Duration := fun a b => inferInstanceAs (Decidable (a.nanos ≤ b.nanos))
instance : DecidableLT Duration := fun a b => inferInstanceAs (Decidable (a.nanos < b.nanos))

/-- The longer of two spans. -/
instance : Max Duration := ⟨fun a b => ⟨Nat.max a.nanos b.nanos⟩⟩

/-- The shorter of two spans. -/
instance : Min Duration := ⟨fun a b => ⟨Nat.min a.nanos b.nanos⟩⟩

def zero : Duration := ⟨0⟩
def ofSeconds (s : Nat) : Duration := ⟨s * 1000000000⟩
def ofMillis (ms : Nat) : Duration := ⟨ms * 1000000⟩
def ofMicros (us : Nat) : Duration := ⟨us * 1000⟩

def toMillis (d : Duration) : Nat := d.nanos / 1000000

/-- A number of units as a decimal: `part` counts the units of which `10 ^ places` make one. -/
def decimal (places part : Nat) : List Char :=
  let whole := Nat.toDigits 10 (part / Nat.pow 10 places)
  let fraction := Text.padded places (part % Nat.pow 10 places)
  let fraction := (fraction.reverse.dropWhile (· == '0')).reverse
  if fraction.isEmpty then whole else whole ++ '.' :: fraction

def text (d : Duration) : String :=
  if 1000000000 ≤ d.nanos then String.ofList (decimal 9 d.nanos) ++ "s"
  else if 1000000 ≤ d.nanos then String.ofList (decimal 6 d.nanos) ++ "ms"
  else if 1000 ≤ d.nanos then String.ofList (decimal 3 d.nanos) ++ "µs"
  else String.ofList (decimal 0 d.nanos) ++ "ns"

end Duration

end TrackResolver
