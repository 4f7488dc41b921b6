import TrackResolver.Ledger
import TrackResolver.Retrieval

/-!
# The executor

An `Executor` runs searches and retrievals over a registry and keeps count of the calls that they
make. A call gives its answer, the time it took, and the executor as it is afterwards.

This is the service's `Executor` with its `search` and `retrieve`. The counts are none of its own: they
are what its engines would see of the calls.
-/
namespace TrackResolver

structure Executor where
  registry : Registry
  ledger : Ledger := .empty

/-- What became of a call that took `elapsed`. -/
structure Call (α : Type) where
  answer : α
  elapsed : Duration
  after : Executor

/-- What the caller of a search learns. -/
inductive SearchAnswer where
  | found (f : Found)
  | refused (why : CallError)
  /-- Nothing: the caller went away. -/
  | abandoned

/-- What a search that ended in this way says. -/
def Closing.answer : Closing → SearchAnswer
  | settled (.ok f) => .found f
  | settled (.error report) => .refused (.allFailed report)
  | abandoned => .abandoned

namespace Executor

/-- Searches `song` with the engines `names`. There is no call to speak of when the search does not
end. -/
def search (x : Executor) (names : List String) (song : Song) (c : Context)
    (patience : Option Duration) : Option (Call SearchAnswer) :=
  match x.registry.lineup names with
  | .error why => some ⟨.refused why, .zero, x⟩
  | .ok lineup =>
    let slots := launch lineup song c
    ((settle c.mode slots).close patience).map fun (time, closing) =>
      ⟨closing.answer, time, { x with ledger := x.ledger.enterSearch time slots }⟩

/-- Turns a result into a link. -/
def retrieve (x : Executor) (f : Found) (c : Context) : Call (Except CallError Playable) :=
  let r := x.registry.retrieve f c
  let after := match r with
    | .asked engine _ => { x with ledger := x.ledger.enterRetrieval engine }
    | _ => x
  ⟨r.answer, .zero, after⟩

/-- The executor as a diagnostic shows it. -/
def inspect (x : Executor) : String :=
  "Executor \x7b registry: " ++ x.registry.inspect ++ " \x7d"

end Executor

end TrackResolver
