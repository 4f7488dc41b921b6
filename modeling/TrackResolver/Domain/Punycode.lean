import TrackResolver.Text.Split

/-!
# Punycode

A label that is not in ASCII is sent as its ASCII characters, a dash, and a row of numbers in base
thirty-six that says which other characters are to be put in and where. `decode?` reads such a label.
It gives up where a number has no end or leaves thirty-two bits, and where it names no character.
-/
namespace TrackResolver.Domain.Punycode

/-- The value of a digit; the letters come first. -/
def digit? (c : Char) : Option Nat :=
  if 'a' ≤ c && c ≤ 'z' then some (c.toNat - 'a'.toNat)
  else if 'A' ≤ c && c ≤ 'Z' then some (c.toNat - 'A'.toNat)
  else if '0' ≤ c && c ≤ '9' then some (c.toNat - '0'.toNat + 26)
  else none

/-- The digit below which a number ends at its `k / 36`-th place. -/
def threshold (bias k : Nat) : Nat := min 26 (max 1 (k - bias))

/-- The bias for numbers like `n`: thirty-six for each time that it can be divided by thirty-five
before it is small, and a share of thirty-six for the rest. -/
def biasFor (n : Nat) : Nat :=
  if n < 456 then 36 * n / (n + 38) else 36 + biasFor (n / 35)

/-- The bias of the next number, from the one just read; `size` characters are there. -/
def adapt (read size : Nat) (isFirst : Bool) : Nat :=
  let n := if isFirst then read / 700 else read / 2
  biasFor (n + n / size)

/-- The greatest number of thirty-two bits. -/
def limit : Nat := UInt32.size - 1

/-- Reads a number and adds it to `i`; gives the sum and what is left to read. -/
def readNumber (bias k weight i : Nat) :
    (cs : List Char) → Option (Nat × { rest : List Char // rest.length < cs.length })
  | [] => none
  | c :: cs =>
    match digit? c with
    | none => none
    | some d =>
      let t := threshold bias k
      if limit < i + d * weight then none
      else if d < t then some (i + d * weight, ⟨cs, Nat.lt_succ_self _⟩)
      else if limit < weight * (36 - t) then none
      else (readNumber bias (k + 36) (weight * (36 - t)) (i + d * weight) cs).map fun (i, rest) =>
        (i, ⟨rest.1, Nat.lt_succ_of_lt rest.2⟩)

/-- Puts the characters that the numbers name into `label`, from the `i`-th place on and from the
code point `n` on. -/
def insertAll? (bias n i : Nat) (label cs : List Char) : Option (List Char) :=
  if cs.isEmpty then some label
  else
    match readNumber bias 36 1 i cs with
    | none => none
    | some (sum, ⟨rest, _⟩) =>
      let size := label.length + 1
      let n := n + sum / size
      if n.isValidChar then
        insertAll? (adapt (sum - i) size (i = 0)) n (sum % size + 1)
          (label.insertIdx (sum % size) (Char.ofNat n)) rest
      else none
termination_by cs.length

/-- The label that is sent as `cs`. -/
def decode? (cs : List Char) : Option (List Char) :=
  match Text.cutAt? '-' cs.reverse with
  | some (numbers, c :: plain) => insertAll? 72 128 0 (c :: plain).reverse numbers.reverse
  | _ => insertAll? 72 128 0 [] cs

end TrackResolver.Domain.Punycode
