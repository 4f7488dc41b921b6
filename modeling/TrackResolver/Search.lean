import TrackResolver.Lineup

/-!
# Searching

All engines of a line-up start at the same instant. Each fills its `Slot`, now, later or never, and
the policy of the call picks the winner:

* `settleInOrder` looks at the slots one after another. The first that holds a result wins, and it
  wins when the last slot looked at is filled; before a slot that is never filled the search waits
  without end. This is how a search by order is settled.
* A search by speed is the same walk over the slots in the order in which they are filled.

When a search ends, the engines that are still at work are stopped: `Slot.fate`.

`launch` is the service's function of that name, `settleInOrder` is `order_first`, and the walk in the
order of time is `fast_first`.

* `settle_orderFirst`: the policy by order.
-/
namespace TrackResolver

/-- What the call holds of one engine that it started. -/
structure Slot where
  engine : String
  run : Run Found

namespace Slot

/-- What an ending means for the call: a result that carries another engine's name is a failure, and
so is an end without an answer. -/
def judge (engine : String) : Ending Found → Except EngineError Found
  | .died => .error (.provider "engine task ended without reporting a result")
  | .answered (.error e) => .error e
  | .answered (.ok f) => (f.ensureFrom engine).map fun _ => f

/-- Whether `s` is filled no later than `t`; a slot that is never filled comes last. -/
def notAfter (s t : Slot) : Bool :=
  match s.run.time?, t.run.time? with
  | some a, some b => a ≤ b
  | _, none => true
  | none, some _ => false

end Slot

/-- Starts the engines of a line-up. Each gets its own view of the context. -/
def launch (lineup : List Entry) (song : Song) (c : Context) : List Slot :=
  lineup.map fun entry => ⟨entry.name, entry.engine.search song (c.view entry.name)⟩

/-- What a search comes to, if nobody stops it. -/
inductive Settlement where
  | pending
  | settled (time : Duration) (result : Except FailureReport Found)

/-- Walks through the slots from `time` on, after `failures`. -/
def settleFrom (time : Duration) (failures : List (String × EngineError)) :
    List Slot → Settlement
  | [] => .settled time (.error ⟨failures⟩)
  | slot :: rest =>
    match slot.run with
    | .hangs => .pending
    | .finishes t ending =>
      match Slot.judge slot.engine ending with
      | .ok f => .settled (max time t) (.ok f)
      | .error e => settleFrom (max time t) (failures ++ [(slot.engine, e)]) rest

def settleInOrder (slots : List Slot) : Settlement := settleFrom .zero [] slots

/-- The report with the engines in the order of `names`. -/
def FailureReport.inOrderOf (names : List String) (r : FailureReport) : FailureReport :=
  ⟨r.failures.mergeSort fun a b => names.idxOf a.1 ≤ names.idxOf b.1⟩

/-- Puts a report into the order in which the engines were requested. -/
def Settlement.reported (names : List String) : Settlement → Settlement
  | pending => pending
  | settled time result => settled time (result.mapError (·.inOrderOf names))

/-- Settles a search by its policy. -/
def settle (mode : SearchMode) (slots : List Slot) : Settlement :=
  let names := slots.map (·.engine)
  match mode with
  | .orderFirst => (settleInOrder slots).reported names
  | .fastFirst => (settleInOrder (slots.mergeSort Slot.notAfter)).reported names

theorem settle_orderFirst (slots : List Slot) :
    settle .orderFirst slots = (settleInOrder slots).reported (slots.map (·.engine)) := rfl

/-! ## The end of a call -/

/-- How a search ends for its caller. -/
inductive Closing where
  | settled (result : Except FailureReport Found)
  /-- The caller went away first. -/
  | abandoned

/-- When and how a search ends for a caller who waits no longer than `patience`; a search that is
not settled, for a patient caller, does not end. -/
def Settlement.close (patience : Option Duration) : Settlement → Option (Duration × Closing)
  | pending => patience.map fun p => (p, .abandoned)
  | settled time result =>
    match patience with
    | some p => if time < p then some (time, .settled result) else some (p, .abandoned)
    | none => some (time, .settled result)

/-- What becomes of an engine that was started. -/
inductive Fate where
  /-- It gave its answer before the search ended. -/
  | completed
  /-- It broke off before the search ended. -/
  | died
  /-- The end of the search stopped it. -/
  | cancelled
deriving DecidableEq

/-- The fate of an engine in a search that ends at `time`. -/
def Slot.fate (time : Duration) (slot : Slot) : Fate :=
  match slot.run with
  | .hangs => .cancelled
  | .finishes t ending =>
    if t ≤ time then
      match ending with
      | .answered _ => .completed
      | .died => .died
    else .cancelled

end TrackResolver
