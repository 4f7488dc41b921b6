import TrackResolver.Search

/-!
# The ledger of calls

A `Ledger` counts for each engine what it was asked and what became of it. Only an engine that was
stopped by the end of a search has seen the sign to stop.
-/
namespace TrackResolver

/-- The counts of one engine. -/
structure Tally where
  searches : Nat := 0
  retrieves : Nat := 0
  /-- Searches that gave an answer. -/
  completed : Nat := 0
  /-- Searches that ended without one. -/
  dropped : Nat := 0
  /-- Those of `dropped` that saw the sign to stop. -/
  sawCancel : Nat := 0
deriving DecidableEq, Inhabited

/-- One more search with this fate. -/
def Tally.searched (t : Tally) : Fate → Tally
  | .completed => { t with searches := t.searches + 1, completed := t.completed + 1 }
  | .died => { t with searches := t.searches + 1, dropped := t.dropped + 1 }
  | .cancelled =>
    { t with
      searches := t.searches + 1
      dropped := t.dropped + 1
      sawCancel := t.sawCancel + 1 }

def Tally.retrieved (t : Tally) : Tally := { t with retrieves := t.retrieves + 1 }

abbrev Ledger := Dict Tally

namespace Ledger

/-- The counts of `engine`; of one that was never asked they are zero. -/
def tally (l : Ledger) (engine : String) : Tally := (l.get? engine).getD {}

/-- Enters the engines of a search that ended at `time`. -/
def enterSearch (l : Ledger) (time : Duration) (slots : List Slot) : Ledger :=
  slots.foldl (fun l slot => l.insert slot.engine ((l.tally slot.engine).searched (slot.fate time))) l

def enterRetrieval (l : Ledger) (engine : String) : Ledger :=
  l.insert engine (l.tally engine).retrieved

end Ledger

end TrackResolver
