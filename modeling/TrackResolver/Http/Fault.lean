import TrackResolver.Failure
import TrackResolver.Http.Message

/-!
# What the service answers when it cannot help

An `ApiFault` has a status, a code for programs and a message for people. When all engines of a
search failed, the failure of each is listed.

`ApiFault` is the service's `ApiError`, of which `kind` and `failures?` are the `parts`; `rateLimited` and
`unavailable` are what `handle_limiter_error` makes of a request that the limit does not let through.
-/
namespace TrackResolver.Http

/-- Why a body is refused. -/
inductive BodyFault where
  /-- It does not say that it is JSON. -/
  | wrongType
  | tooLarge
  /-- It is not JSON. -/
  | malformed
  /-- It is JSON that does not fit. -/
  | misfit
deriving DecidableEq

namespace BodyFault

def status : BodyFault → Nat
  | wrongType => 415
  | tooLarge => 413
  | malformed => 400
  | misfit => 422

def message : BodyFault → String
  | wrongType => "Expected request with \x60Content-Type: application/json\x60"
  | tooLarge => "Failed to buffer the request body"
  | malformed => "Failed to parse the request body as JSON"
  | misfit => "Failed to deserialize the JSON body into the target type"

end BodyFault

inductive ApiFault where
  | call (why : CallError)
  | body (why : BodyFault)
  /-- The budget is used up. -/
  | rateLimited
  | unavailable (why : String)
deriving DecidableEq

namespace ApiFault

def message : ApiFault → String
  | call why => why.message
  | body why => why.message
  | rateLimited => "Too many requests, try again later"
  | unavailable why => "Service unavailable: " ++ why

/-- Status and code. -/
def kind : ApiFault → Nat × String
  | body why => (why.status, "INVALID_BODY")
  | rateLimited => (429, "RATE_LIMITED")
  | unavailable _ => (503, "SERVICE_UNAVAILABLE")
  | call .noEngines => (422, "EMPTY_ENGINE_LIST")
  | call (.unknownEngines ..) => (422, "UNKNOWN_ENGINE")
  | call (.allFailed report) =>
    if report.allNoMatch then (404, "NO_MATCH") else (502, "ALL_ENGINES_FAILED")
  | call (.engineFailed _ .noMatch) => (404, "NO_MATCH")
  | call (.engineFailed _ (.timeout _)) => (504, "ENGINE_TIMEOUT")
  | call (.engineFailed _ (.sourceMismatch ..)) => (422, "SOURCE_MISMATCH")
  | call (.engineFailed _ (.provider _)) => (502, "ENGINE_FAILED")

def status (f : ApiFault) : Nat := f.kind.1

def code (f : ApiFault) : String := f.kind.2

/-- The failures of the engines of a search. -/
def failures? : ApiFault → Option (List FailureSummary)
  | call (.allFailed report) => some report.summaries
  | _ => none

end ApiFault

end TrackResolver.Http

namespace TrackResolver

def FailureSummary.toJson (s : FailureSummary) : Json.Value :=
  .object [("engine", .text s.engine), ("kind", .text s.kind), ("message", .text s.message)]

end TrackResolver

namespace TrackResolver.Http.ApiFault

def toJson (f : ApiFault) : Json.Value :=
  .object [("error", .object
    ([("code", .text f.code), ("message", .text f.message)] ++
      Json.Value.optional "failures" (fun l => .list (l.map FailureSummary.toJson)) f.failures?))]

def response (f : ApiFault) : Response := .json f.status f.toJson

end TrackResolver.Http.ApiFault
