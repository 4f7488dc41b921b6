import TrackResolver.Context

/-!
# Engines

An engine is one provider of music. It is asked for a song with `search` and for a link to something
it has found with `retrieve`. A search takes time: a `Run` says when it ends and how, or that it
never does. `Run.within` puts a deadline on it.

`Engine` is the service's interface of that name, with `engine_id`, `search`, `retrieve` and
`ensure_owned`. `Run.within` is `with_deadline`.

* `within_of_le`: a run that ends by its deadline is not changed by it.
-/
namespace TrackResolver

/-- How a run ends. -/
inductive Ending (α : Type) where
  | answered (answer : Except EngineError α)
  /-- The run broke off without an answer. -/
  | died

/-- What becomes of something that was started. -/
inductive Run (α : Type) where
  | finishes (time : Duration) (ending : Ending α)
  | hangs

namespace Run

variable {α : Type}

/-- The time at which the run ends, if it does. -/
def time? : Run α → Option Duration
  | finishes time _ => some time
  | hangs => none

/-- The run under a deadline. To finish at the deadline is in time. -/
def within (deadline : Duration) : Run α → Run α
  | finishes time ending =>
    if time ≤ deadline then finishes time ending
    else finishes deadline (.answered (.error (.timeout deadline)))
  | hangs => finishes deadline (.answered (.error (.timeout deadline)))

theorem within_of_le {d t : Duration} {e : Ending α} (h : t ≤ d) :
    (finishes t e).within d = finishes t e := if_pos h

end Run

structure Engine where
  /-- The name under which the engine is registered and which its results carry. -/
  id : String
  search : Song → View → Run Found
  retrieve : Found → View → Except EngineError Playable

/-- Refuses a result that carries another name than `engine`. -/
def Found.ensureFrom (f : Found) (engine : String) : Except EngineError Unit :=
  if f.source = engine then .ok () else .error (.sourceMismatch engine f.source)

/-- Refuses what another engine has found. -/
def Engine.ensureOwned (e : Engine) (f : Found) : Except EngineError Unit := f.ensureFrom e.id

end TrackResolver
