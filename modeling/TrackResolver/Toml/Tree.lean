import TrackResolver.Toml.Value

/-!
# Tables on their way

A document builds its tables in pieces: by headers, by dotted keys, and by headers of their
subtables. An `Item` remembers how a table came to be, and that decides what may still be added to
it: a table is declared once, and dotted keys only reach tables that dotted keys have made.
-/
namespace TrackResolver.Toml

/-- How a table came to be. -/
inductive Origin where
  /-- By a dotted key. -/
  | dotted
  /-- By the header of a table inside it. -/
  | implied
  /-- By its own header. -/
  | declared
deriving DecidableEq

inductive Item where
  | value (v : Value)
  | table (origin : Origin) (entries : List (String × Item))
  /-- Tables under double brackets, latest first. -/
  | rows (tables : List (List (String × Item)))

abbrev Entries := List (String × Item)

namespace Entries

def find? (es : Entries) (k : String) : Option Item := (List.find? (·.1 = k) es).map (·.2)

/-- Puts `item` under `k`, in the place of what stands there or at the end. -/
def put (es : Entries) (k : String) (item : Item) : Entries :=
  if es.any (·.1 = k) then es.map fun e => if e.1 = k then (k, item) else e
  else es ++ [(k, item)]

/-- Moves `k` to the end, with a new item. -/
def replaceLast (es : Entries) (k : String) (item : Item) : Entries :=
  es.filter (·.1 ≠ k) ++ [(k, item)]

end Entries

/-- Changes the table at a path of keys. Tables that are missing on the way are made; under double
brackets the latest table is meant. `dotted` tells whether the path comes from a dotted key. -/
def changeAt (dotted : Bool) (change : Origin → Entries → Option (Origin × Entries)) :
    List String → Origin → Entries → Option (Origin × Entries)
  | [], origin, es => change origin es
  | k :: path, origin, es =>
    match es.find? k with
    | none => do
      let made := if dotted then .dotted else .implied
      let (made, inner) ← changeAt dotted change path made []
      return (origin, es.put k (.table made inner))
    | some (.value _) => none
    | some (.table made inner) =>
      if dotted && made = .declared then none
      else do
        let (made, inner) ← changeAt dotted change path made inner
        return (origin, es.put k (.table made inner))
    | some (.rows []) => none
    | some (.rows (row :: rows)) => do
      let (_, row) ← changeAt dotted change path .declared row
      return (origin, es.put k (.rows (row :: rows)))

/-- Adds a value under a dotted key to a table. -/
def addValue (path : List String) (k : String) (v : Value) (origin : Origin) (es : Entries) :
    Option (Origin × Entries) :=
  changeAt true
    (fun origin es =>
      if decide (origin = .dotted) = path.isEmpty then none
      else if (es.find? k).isSome then none
      else some (origin, es.put k (.value v)))
    path origin es

/-- Declares the table `k`. One that is only implied so far moves to the end. -/
def declare (k : String) (origin : Origin) (es : Entries) : Option (Origin × Entries) :=
  match es.find? k with
  | none => some (origin, es.put k (.table .declared []))
  | some (.table .implied inner) => some (origin, es.replaceLast k (.table .declared inner))
  | some _ => none

/-- Adds one table to the array `k`. -/
def addRow (k : String) (origin : Origin) (es : Entries) : Option (Origin × Entries) :=
  match es.find? k with
  | none => some (origin, es.put k (.rows [[]]))
  | some (.rows rows) => some (origin, es.put k (.rows ([] :: rows)))
  | some _ => none

mutual
/-- The value that an item comes to. -/
def Item.toValue : Item → Value
  | .value v => v
  | .table _ entries => .table (entryValues entries)
  | .rows tables => .tables (rowValues tables).reverse

def entryValues : List (String × Item) → List (String × Value)
  | [] => []
  | (k, item) :: rest => (k, item.toValue) :: entryValues rest

def rowValues : List (List (String × Item)) → List Value
  | [] => []
  | row :: rest => .table (entryValues row) :: rowValues rest
end

end TrackResolver.Toml
