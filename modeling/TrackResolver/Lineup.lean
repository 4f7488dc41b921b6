import TrackResolver.Registry

/-!
# The line-up of a search

Before a search starts, its list of names is checked as a whole: it must not be empty, every name
has to be registered, and none may come twice. All names at fault are reported together.

`Registry.lineup` is `resolve_engines` of the service's `Executor`.
-/
namespace TrackResolver

/-- The names that come for the time `n + 1`, in the order in which they do; `before` are the names
that have come already. -/
def arrivals (n : Nat) (before : List String) : List String → List String
  | [] => []
  | name :: rest =>
    if before.count name = n then name :: arrivals n (name :: before) rest
    else arrivals n (name :: before) rest

namespace Registry

/-- The names that are not registered, each once. -/
def missing (r : Registry) (names : List String) : List String :=
  (arrivals 0 [] names).filter fun name => !r.contains name

/-- The names that come twice or more often, each once. -/
def repeated (names : List String) : List String := arrivals 1 [] names

/-- The engines that are asked for, in order. A name that is not registered is reported before one
that comes twice. -/
def lineup (r : Registry) (names : List String) : Except CallError (List Entry) :=
  if names.isEmpty then .error .noEngines
  else if !(r.missing names).isEmpty then .error (.unknownEngines (r.missing names) .notRegistered)
  else if !(repeated names).isEmpty then .error (.unknownEngines (repeated names) .duplicated)
  else .ok (names.filterMap fun name => (r.get? name).map fun e => ⟨name, e⟩)

end Registry

end TrackResolver
