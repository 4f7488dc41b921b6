import TrackResolver.Json.Node
import TrackResolver.Json.Number
import TrackResolver.Reading.Record
import TrackResolver.Dict

/-!
# Reading JSON

A reader goes through the tree of a document in the order in which it is written and gives up at the
first thing that is wrong: a place where the text stops being JSON, or a value that does not fit.
`Record.ofNode` reads a record from an object or, field by field, from an array. Members that the
record does not have are passed over, and only their form is checked.

A tree that stops somewhere says so in all values around that place, so `Node.skip` looks at one
ending only.
-/
namespace TrackResolver.Json

open Reading

/-- Reads a value from its tree. -/
abbrev Reader (α : Type) := Node → Except Fault α

def Ending.check : Ending → Except Fault Unit
  | closed => .ok ()
  | stopped s => .error (.stopped s)

/-- Passes over a value. -/
def Node.skip : Node → Except Fault Unit
  | null | boolean _ | number _ => .ok ()
  | text _ ending | array _ ending | object _ ending => ending.check
  | brokenWord _ s | nothing s => .error (.stopped s)
  | brokenNumber _ => .error (.stopped .malformed)

/-! ## Texts -/

/-- The units that begin a pair, and those that end one. -/
def isLead (u : Nat) : Bool := 0xd800 ≤ u && u < 0xdc00
def isTrail (u : Nat) : Bool := 0xdc00 ≤ u && u < 0xe000

/-- The bytes of the character with this code point. -/
def charBytes (n : Nat) : List UInt8 := String.utf8EncodeChar (Char.ofNat n)

/-- A text on its way: its bytes, latest first, and the unit that waits for the second of its
pair. -/
structure Spelling where
  bytes : List UInt8 := []
  lead : Option Nat := none

/-- One piece more. A unit that begins a pair has to be followed by one that ends it, and the other
way round. -/
def Spelling.feed (s : Spelling) : Piece → Except Stop Spelling
  | .byte b => match s.lead with
    | none => .ok { s with bytes := b :: s.bytes }
    | some _ => .error .malformed
  | .unit u => match s.lead with
    | some lead =>
      if isTrail u then
        .ok ⟨(charBytes ((lead - 0xd800) * 0x400 + (u - 0xdc00) + 0x10000)).reverse ++ s.bytes, none⟩
      else .error .malformed
    | none =>
      if isTrail u then .error .malformed
      else if isLead u then .ok { s with lead := some u }
      else .ok { s with bytes := (charBytes u).reverse ++ s.bytes }

/-- The bytes of a text that ends here. -/
def Spelling.finish (s : Spelling) : Ending → Except Stop (List UInt8)
  | .stopped stop => .error stop
  | .closed => if s.lead.isSome then .error .malformed else .ok s.bytes.reverse

/-- The bytes that a text stands for. -/
def pieceBytes (pieces : List Piece) (ending : Ending) : Except Stop (List UInt8) := do
  (← pieces.foldlM Spelling.feed {}).finish ending

/-- The text that pieces make up. -/
def decodeText (pieces : List Piece) (ending : Ending) : Except Fault String :=
  match pieceBytes pieces ending with
  | .error s => .error (.stopped s)
  | .ok bytes =>
    match String.fromUTF8? ⟨bytes.toArray⟩ with
    | some s => .ok s
    | none => .error (.stopped .malformed)

/-! ## Single values -/

def readQuantity (n : Numeral) : Except Fault Quantity :=
  match Quantity.ofNumeral? n with
  | some q => .ok q
  | none => .error (.stopped .malformed)

/-- The complaint about a value where `wanted` is expected. -/
def Node.mismatch (wanted : String) : Node → Fault
  | null => .data (.wrongKind .null wanted)
  | boolean b => .data (.wrongKind (.boolean b) wanted)
  | number n => match readQuantity n with
    | .ok q => .data (.wrongKind q.shape wanted)
    | .error fault => fault
  | text pieces ending => match decodeText pieces ending with
    | .ok s => .data (.wrongKind (.text s) wanted)
    | .error fault => fault
  | array .. => .data (.wrongKind .sequence wanted)
  | object .. => .data (.wrongKind .map wanted)
  | brokenWord _ s | brokenNumber s | nothing s => .stopped s

def readText : Reader String
  | .text pieces ending => decodeText pieces ending
  | n => .error (n.mismatch "a string")

def readBoolean : Reader Bool
  | .boolean b => .ok b
  | n => .error (n.mismatch "a boolean")

/-- Reads an integer from `low` to `high`; `wanted` is the name of that range. -/
def readInteger (wanted : String) (low high : Int) : Reader Int
  | .number n => match readQuantity n with
    | .error fault => .error fault
    | .ok (.decimal f) => .error (.data (.wrongKind (Quantity.decimal f).shape wanted))
    | .ok (.integer i) =>
      if low ≤ i ∧ i ≤ high then .ok i else .error (.data (.wrongValue (.integer i) wanted))
  | n => .error (n.mismatch wanted)

def readInt64 : Reader Int64 := fun n =>
  (readInteger "i64" Int64.minValue.toInt Int64.maxValue.toInt n).map Int64.ofInt

def readUInt64 : Reader UInt64 := fun n =>
  (readInteger "u64" 0 (UInt64.size - 1) n).map fun i => i.toNat.toUInt64

/-- Nothing is written as `null`. -/
def readOption {α : Type} (read : Reader α) : Reader (Option α)
  | .null => .ok none
  | .brokenWord true s => .error (.stopped s)
  | n => (read n).map some

/-! ## Sequences and maps -/

def readList {α : Type} (read : Reader α) : Reader (List α)
  | .array items ending => do
    let values ← items.mapM read
    ending.check
    return values
  | n => .error (n.mismatch "a sequence")

/-- The name of a member. -/
def readName : Reader String
  | .text pieces ending => decodeText pieces ending
  | .nothing s => .error (.stopped s)
  | _ => .error (.stopped .malformed)

/-- Of two members under one name the later stays. -/
def readDict {α : Type} (read : Reader α) : Reader (Dict α)
  | .object members ending => do
    let d ← members.foldlM (fun (d : Dict α) (name, value) => do
      return d.insert (← readName name) (← read value)) Dict.empty
    ending.check
    return d
  | n => .error (n.mismatch "a map")

/-- One of several names, alone or as the only member of an object, with `null`. What stands there in
place of a member's name is malformed, as it is in a map, and not a value of the wrong kind. -/
def readChoice {α : Type} (choices : List (String × α)) : Reader α
  | .text pieces ending => do pick (← decodeText pieces ending)
  | .object [] .closed => .error (.stopped .malformed)
  | .object [] (.stopped s) => .error (.stopped s)
  | .object ((name, value) :: more) ending => do
    let choice ← pick (← readName name)
    match value with
    | .null => pure ()
    | n => .error (n.mismatch "unit")
    if more.isEmpty then
      ending.check
      return choice
    else .error (.stopped .malformed)
  | .nothing s => .error (.stopped s)
  | _ => .error (.stopped .malformed)
where
  /-- The choice of this name. -/
  pick (name : String) : Except Fault α :=
    match choices.find? (·.1 = name) with
    | some (_, a) => .ok a
    | none => .error (.data (.unknownVariant name (choices.map (·.1))))

/-! ## Records -/

/-- The fields of an object that have been read, and the record as far as it is known. -/
structure Progress (τ : Type) where
  seen : List String
  value : τ

variable {τ : Type}

/-- Reads one member. The same field twice is an error before its second value is looked at. -/
def readMember (r : Record Node τ) (p : Progress τ) (member : Node × Node) :
    Except Fault (Progress τ) := do
  let name ← readName member.1
  match r.field? name with
  | none =>
    member.2.skip
    return p
  | some f =>
    if p.seen.contains name then .error (.data (.duplicate name))
    else return ⟨name :: p.seen, ← f.read member.2 p.value⟩

def readMembers (r : Record Node τ) (members : List (Node × Node)) (ending : Ending) :
    Except Fault τ := do
  let p ← members.foldlM (readMember r) ⟨[], r.blank⟩
  ending.check
  match Record.missing? r.fields p.seen with
  | some f => .error (.data (.missing f.name))
  | none => return p.value

/-- Reads the fields from the items of an array, in order. There may be no item after the last
field. -/
def readItems (r : Record Node τ) (ending : Ending) :
    List (Field Node τ) → List Node → τ → Except Fault τ
  | [], [], value => do
    ending.check
    return value
  | [], _ :: _, _ => .error (.stopped .malformed)
  | left@(_ :: _), [], value => do
    ending.check
    r.checkLength left
    return value
  | f :: left, item :: items, value => do readItems r ending left items (← f.read item value)

/-- Reads a record from an object or an array. -/
def readRecord (r : Record Node τ) : Reader τ
  | .object members ending => readMembers r members ending
  | .array items ending => readItems r ending r.fields items r.blank
  | n => .error (n.mismatch r.wanted)

/-- A field whose value `read` reads and `put` puts into the record. -/
def field {α : Type} (name : String) (read : Reader α) (put : α → τ → τ) : Field Node τ where
  name := name
  read n value := return put (← read n) value

/-- A field that may not be left out. -/
def requiredField {α : Type} (name : String) (read : Reader α) (put : α → τ → τ) : Field Node τ where
  name := name
  required := true
  read n value := return put (← read n) value

/-! ## Documents -/

/-- Reads the first value of a document and does not look behind it. -/
def readFirst {α : Type} (read : Reader α) (bytes : List UInt8) : Except Fault α :=
  read (parse bytes).1

/-- Reads a document that holds one value and nothing else. -/
def readWhole {α : Type} (read : Reader α) (bytes : List UInt8) : Except Fault α := do
  let (node, more) := parse bytes
  let value ← read node
  if more then .error (.stopped .malformed) else return value

end TrackResolver.Json
