import TrackResolver.Text.Blank
import TrackResolver.Failure

/-!
# How the winner of a search is picked

`SearchMode` is the service's type of that name, `text` how it is shown and `ofText?` how it is read
from text.

* `ofText?_text`: the name that a mode is shown by is read back as that mode.
-/
namespace TrackResolver

/-- The policy by which one result is picked among several engines. -/
inductive SearchMode where
  /-- The first success in time. -/
  | fastFirst
  /-- The first success in the order in which the engines were requested. -/
  | orderFirst
deriving DecidableEq, Repr, Inhabited

namespace SearchMode

def text : SearchMode → String
  | fastFirst => "fast_first"
  | orderFirst => "order_first"

/-- A name as it is compared: no blanks around it, ASCII letters small, dashes as underscores. -/
def normalized (s : String) : String :=
  String.ofList ((Text.trimList s.toList).map fun c => if c = '-' then '_' else c.toLower)

/-- The mode that `s` names. The complaint shows the name as it was compared. -/
def ofText? (s : String) : Except SetupError SearchMode :=
  let name := normalized s
  if name = "fast_first" ∨ name = "fastfirst" then .ok fastFirst
  else if name = "order_first" ∨ name = "orderfirst" then .ok orderFirst
  else .error (.config ("Unknown search mode: " ++ name))

theorem ofText?_text (m : SearchMode) : ofText? m.text = .ok m := by
  cases m <;> rfl

/-- The spellings that a document may use, in the order in which they are listed. -/
def spellings : List (String × SearchMode) :=
  [("FastFirst", fastFirst), ("fast_first", fastFirst), ("OrderFirst", orderFirst),
   ("order_first", orderFirst)]

end SearchMode

end TrackResolver
