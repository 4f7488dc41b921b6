import TrackResolver.Config

/-!
# The budget of requests

A `Budget` admits a number of requests in a window of time. A window opens with the first request
that comes when none is open, and is open for the period of the limit; when it has admitted its
number, the requests that still come are shed. If the end of a window lies beyond the range of the
clock the budget breaks and admits nothing ever after.

Instants are counted from the start of the process; the clock has a reading of its own then.

This is the layer that `build_router` puts around the routes of a service with a `RateLimitConfig`.
-/
namespace TrackResolver.Http

/-- What becomes of a request. -/
inductive Verdict where
  | admitted
  | shed
  /-- The budget is broken. -/
  | broken
deriving DecidableEq

/-- The last second that a clock can tell. -/
def lastSecond : Nat := Nat.pow 2 63 - 1

/-- The clock of the machine. -/
structure Clock where
  /-- What it read when the process was started, in nanoseconds. -/
  start : Nat
deriving DecidableEq

/-- Whether the clock can tell this time. -/
def Clock.tells (clock : Clock) (t : Instant) : Bool :=
  (clock.start + t) / 1000000000 ≤ lastSecond

structure Window where
  /-- The instant at which the window is no longer open. -/
  until_ : Instant
  /-- How many requests it still admits. -/
  left : Nat
deriving DecidableEq

structure Budget where
  clock : Clock
  limit : RateLimit
  /-- The latest window; none if the budget is broken. -/
  window : Option Window
deriving DecidableEq

namespace Budget

/-- A budget of which nothing is used. -/
def fresh (clock : Clock) (limit : RateLimit) : Budget := ⟨clock, limit, some ⟨0, 0⟩⟩

/-- Takes a request out of a window, if there is one left. -/
def take (b : Budget) (w : Window) : Verdict × Budget :=
  match w.left with
  | 0 => (.shed, { b with window := some w })
  | left + 1 => (.admitted, { b with window := some { w with left } })

/-- A request at the instant `now`. -/
def request (b : Budget) (now : Instant) : Verdict × Budget :=
  match b.window with
  | none => (.broken, b)
  | some w =>
    if now < w.until_ then b.take w
    else
      let until_ := now + b.limit.period.nanos
      if b.clock.tells until_ then b.take ⟨until_, b.limit.requests.toNat⟩
      else (.broken, { b with window := none })

end Budget

end TrackResolver.Http
