import TrackResolver.Engine
import TrackResolver.Text.Quoted

/-!
# The registry of engines

A `Registry` keeps engines in the order in which their names first came, and remembers at which
position each name stands. Registering a name again puts the new engine in the old place; removing
one moves those behind it one place forward.

This is the service's `EngineRegistry`, with `register`, `deregister`, `get`, `contains`, `list`, `len` and
`is_empty`.
-/
namespace TrackResolver

/-- An engine under the name that it had when it was registered. -/
structure Entry where
  name : String
  engine : Engine

structure Registry where
  entries : List Entry := []
  /-- The position of each name in `entries`. -/
  positions : Dict Nat := .empty

namespace Registry

def empty : Registry := {}

instance : Inhabited Registry := ⟨empty⟩

def register (r : Registry) (e : Engine) : Registry :=
  match r.positions.get? e.id with
  | some p => { r with entries := r.entries.set p ⟨e.id, e⟩ }
  | none =>
    { entries := r.entries ++ [⟨e.id, e⟩]
      positions := r.positions.insert e.id r.entries.length }

/-- Takes a name out; also the engine that stood under it. -/
def deregister (r : Registry) (name : String) : Option Engine × Registry :=
  match r.positions.get? name with
  | none => (none, r)
  | some p =>
    (r.entries[p]?.map (·.engine),
     { entries := r.entries.eraseIdx p
       positions := (r.positions.erase name).map fun q => if p < q then q - 1 else q })

def get? (r : Registry) (name : String) : Option Engine :=
  (r.positions.get? name).bind fun p => r.entries[p]?.map (·.engine)

def contains (r : Registry) (name : String) : Bool := r.positions.contains name

/-- The names in order. -/
def list (r : Registry) : List String := r.entries.map (·.name)

def size (r : Registry) : Nat := r.entries.length

def isEmpty (r : Registry) : Bool := r.entries.isEmpty

/-- The registry that holds these engines, registered in order. -/
def ofList (engines : List Engine) : Registry := engines.foldl register empty

/-- The registry as a diagnostic shows it. -/
def inspect (r : Registry) : String :=
  "EngineRegistry \x7b engines: [" ++ ", ".intercalate (r.list.map Text.quoted) ++ "] \x7d"

end Registry

end TrackResolver
