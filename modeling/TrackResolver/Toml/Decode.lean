import TrackResolver.Toml.Value
import TrackResolver.Reading.Record
import TrackResolver.Dict

/-!
# Reading TOML values

Readers go through a tree in the order of its entries; the first value that does not fit is reported.
`readRecord` reads a record from a table, or field by field from an array; entries and items that the
record does not have are passed over.
-/
namespace TrackResolver.Toml

open Reading

/-- Reads something from a value. -/
abbrev Reader (α : Type) := Value → Except Fault α

/-- The complaint about a value where `wanted` is expected. -/
def Value.mismatch (v : Value) (wanted : String) : Fault := .data (.wrongKind v.shape wanted)

/-- Reads a text; `wanted` says what kind of text it is. -/
def readTextAs (wanted : String) : Reader String
  | .text s => .ok s
  | v => .error (v.mismatch wanted)

def readText : Reader String := readTextAs "a string"

def readBoolean : Reader Bool
  | .boolean b => .ok b
  | v => .error (v.mismatch "a boolean")

/-- Reads an integer that is not negative. -/
def readUInt64 : Reader UInt64
  | .integer n =>
    if 0 ≤ n ∧ n < UInt64.size then .ok n.toNat.toUInt64
    else .error (.data (.wrongValue (.integer n) "u64"))
  | v => .error (v.mismatch "u64")

def readList {α : Type} (read : Reader α) : Reader (List α) := fun v =>
  match v.items? with
  | some items => items.mapM read
  | none => .error (v.mismatch "a sequence")

def readDict {α : Type} (read : Reader α) : Reader (Dict α) := fun v =>
  match v.entries? with
  | some entries =>
    entries.foldlM (fun (d : Dict α) (k, v) => do return d.insert k (← read v)) Dict.empty
  | none => .error (v.mismatch "a map")

/-- What goes with a name that is written as a table: nothing. -/
def readNothing : Value → Except Fault Unit
  | .table [] | .array [] | .tables [] => .ok ()
  | .table _ | .array _ => .error (.data .notEmptyTable)
  | .tables _ => .error (.data .notEmptyArray)
  | v => .error (.data (.notTable v.kindName))

/-- One of several names, alone or as the only entry of a table. -/
def readChoice {α : Type} (choices : List (String × α)) : Reader α
  | .text s => pick s
  | .table [] => .error (.data .noEntry)
  | .table [(k, v)] => do
    let choice ← pick k
    readNothing v
    return choice
  | .table _ => .error (.data .severalEntries)
  | _ => .error (.data .notNameOrTable)
where
  /-- The choice of this name. -/
  pick (name : String) : Except Fault α :=
    match choices.find? (·.1 = name) with
    | some (_, a) => .ok a
    | none => .error (.data (.unknownVariant name (choices.map (·.1))))

variable {τ : Type}

/-- Reads one entry into a record. -/
def readEntry (r : Record Value τ) (value : τ) (entry : String × Value) : Except Fault τ :=
  match r.field? entry.1 with
  | some f => f.read entry.2 value
  | none => .ok value

/-- Reads the fields from the items of an array, in order. -/
def readItems : List (Field Value τ) → List Value → τ → Except Fault τ
  | f :: fields, item :: items, value => do readItems fields items (← f.read item value)
  | _, _, value => .ok value

/-- Reads a record all of whose fields may be left out. -/
def readRecord (r : Record Value τ) : Reader τ := fun v =>
  match v.items?, v.entries? with
  | some items, _ => readItems r.fields items r.blank
  | none, some entries => entries.foldlM (readEntry r) r.blank
  | none, none => .error (v.mismatch r.wanted)

/-- A field whose value `read` reads and `put` puts into the record. -/
def field {α : Type} (name : String) (read : Reader α) (put : α → τ → τ) : Field Value τ where
  name := name
  read v value := return put (← read v) value

end TrackResolver.Toml
