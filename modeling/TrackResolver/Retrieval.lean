import TrackResolver.Registry

/-!
# Retrieving

A result that already has a link needs no engine. Any other is given to the engine whose name it
carries, and to no other.

`Registry.retrieve` is the service's `retrieve`.
-/
namespace TrackResolver

/-- How a retrieval goes. -/
inductive Retrieval where
  /-- The result has a link of its own. -/
  | ready (p : Playable)
  /-- Nobody is registered under the name that the result carries. -/
  | unowned (engine : String)
  /-- The engine was asked. -/
  | asked (engine : String) (answer : Except EngineError Playable)

def Registry.retrieve (r : Registry) (f : Found) (c : Context) : Retrieval :=
  match f.link with
  | some p => .ready p
  | none =>
    match r.get? f.source with
    | none => .unowned f.source
    | some e => .asked f.source (e.retrieve f (c.view f.source))

/-- What the caller is told. -/
def Retrieval.answer : Retrieval → Except CallError Playable
  | ready p => .ok p
  | unowned engine => .error (.unknownEngines [engine] .notRegistered)
  | asked _ (.ok p) => .ok p
  | asked engine (.error e) => .error (.engineFailed engine e)

end TrackResolver
