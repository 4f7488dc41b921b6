import TrackResolver.Domain.Name
import TrackResolver.Text.Digits

/-!
# Hosts

The host of an address is a name, an IPv4 address in up to four numbers of base eight, ten or
sixteen, or an IPv6 address between square brackets. A name whose last part is a number has to be an
IPv4 address.
-/
namespace TrackResolver.Proxy

open Text (digit? isHexDigit)

/-- Why an address cannot be read. -/
inductive Fault where
  /-- It does not begin with a scheme. -/
  | relative
  | emptyHost
  /-- It is no domain name. -/
  | badName
  /-- A character cannot stand in a host of this scheme. -/
  | badCharacter
  | badPort
  | badIPv4
  | badIPv6
deriving DecidableEq

def Fault.message : Fault → String
  | relative => "relative URL without a base"
  | emptyHost => "empty host"
  | badName => "invalid international domain name"
  | badCharacter => "invalid domain character"
  | badPort => "invalid port number"
  | badIPv4 => "invalid IPv4 address"
  | badIPv6 => "invalid IPv6 address"

/-- The value of digits of a base up to sixteen. -/
def number? (base : Nat) (cs : List Char) : Option Nat :=
  cs.foldlM (fun n c => do
    let d ← digit? c
    if d < base then some (n * base + d) else none) 0

/-! ## IPv4 -/

/-- A number of an IPv4 address: a leading zero makes it octal, `0x` hexadecimal. -/
def ipv4Number? : List Char → Option Nat
  | [] => none
  | '0' :: 'x' :: ds | '0' :: 'X' :: ds => number? 16 ds
  | '0' :: d :: ds => number? 8 (d :: ds)
  | ds => number? 10 ds

/-- The parts of a name between its dots, without the empty one behind a dot at the end. -/
def labels (name : List Char) : List (List Char) :=
  match (Text.splitOn '.' name).reverse with
  | [] :: l :: ls => (l :: ls).reverse
  | ls => ls.reverse

/-- Whether the last part of a name is a number. -/
def endsInNumber (name : List Char) : Bool :=
  match (labels name).getLast? with
  | none | some [] => false
  | some l => l.all Char.isDigit || (ipv4Number? l).isSome

/-- All numbers but the last are bytes; the last fills the bytes that are left. -/
def isIPv4 (name : List Char) : Bool :=
  let parts := labels name
  match (parts.mapM ipv4Number?).map List.reverse with
  | some (last :: firsts) =>
    parts.length ≤ 4 && last < Nat.pow 256 (4 - firsts.length) && firsts.all (· < 256)
  | _ => false

/-! ## IPv6 -/

/-- A byte in decimal digits, without leading zeros. -/
def isByte (cs : List Char) : Bool :=
  !cs.isEmpty && (cs.length = 1 || cs.head? ≠ some '0') &&
    match number? 10 cs with
    | some n => n < 256
    | none => false

def isGroup (cs : List Char) : Bool := !cs.isEmpty && cs.length ≤ 4 && cs.all isHexDigit

/-- How many groups of an IPv6 address stand here; four bytes at the `last` place count as two. -/
def groups? (last : Bool) (cs : List Char) : Option Nat :=
  if cs.isEmpty then some 0
  else
    let parts := Text.splitOn ':' cs
    match parts.reverse with
    | [] => none
    | l :: firsts =>
      if !firsts.all isGroup then none
      else if isGroup l then some parts.length
      else
        let bytes := Text.splitOn '.' l
        if last && bytes.length = 4 && bytes.all isByte then some (parts.length + 1) else none

/-- The text before the first two colons and the text behind them. -/
def cutAtColons? : List Char → Option (List Char × List Char)
  | ':' :: ':' :: cs => some ([], cs)
  | c :: cs => (cutAtColons? cs).map fun (before, behind) => (c :: before, behind)
  | [] => none

/-- An IPv6 address has eight groups; two colons stand for one or more that are zero. -/
def isIPv6 (cs : List Char) : Bool :=
  match cutAtColons? cs with
  | none => groups? true cs = some 8
  | some (before, behind) =>
    match groups? false before, groups? true behind with
    | some m, some n => m + n ≤ 7
    | _, _ => false

/-! ## Names -/

/-- The characters that may not stand in a host of any other scheme. -/
def notInHost : List Char := "\x00\t\n\r #/:<>?@[\\]^|".toList

/-- A byte written as a percent sign and two digits. -/
def percentByte? (c d : Char) : Option UInt8 := do
  return (16 * (← digit? c) + (← digit? d)).toUInt8

/-- The bytes of a text with the bytes that are written in digits decoded. -/
def percentDecode : List Char → List UInt8
  | '%' :: c :: d :: cs =>
    match percentByte? c d with
    | some b => b :: percentDecode cs
    | none => String.utf8EncodeChar '%' ++ percentDecode (c :: d :: cs)
  | c :: cs => String.utf8EncodeChar c ++ percentDecode cs
  | [] => []
termination_by cs => cs.length

/-- Reads the host of an address whose scheme is known to name hosts. -/
def readHost (cs : List Char) : Except Fault (List Char) :=
  match cs with
  | [] => .error .emptyHost
  | '[' :: rest =>
    if rest.getLast? = some ']' && isIPv6 rest.dropLast then .ok cs else .error .badIPv6
  | _ =>
    match (String.fromUTF8? ⟨(percentDecode cs).toArray⟩).bind fun s => Domain.read? s.toList with
    | none => .error .badName
    | some [] => .error .emptyHost
    | some name =>
      if endsInNumber name && !isIPv4 name then .error .badIPv4 else .ok name

/-- Reads the host of an address of any other scheme. -/
def readOpaqueHost (cs : List Char) : Except Fault (List Char) :=
  match cs with
  | '[' :: rest =>
    if rest.getLast? = some ']' && isIPv6 rest.dropLast then .ok cs else .error .badIPv6
  | _ => if cs.any notInHost.contains then .error .badCharacter else .ok cs

end TrackResolver.Proxy
