import TrackResolver.Http.Budget
import TrackResolver.Http.Service

/-!
# Routing

Requests below `/api/v1` share one budget, if the service has a limit; `/health` is outside it.
OPTIONS is answered before anything else, and every answer may be read from anywhere.

Without a limit a path has to be exact. With one, the part below `/api/v1` is handed on, and a slash
at its beginning is not counted twice.

`Router.ofService` is the service's `build_router`.
-/
namespace TrackResolver.Http

/-- The fault of a request that is not admitted. -/
def Verdict.fault? : Verdict → Option ApiFault
  | .admitted => none
  | .shed => some .rateLimited
  | .broken => some (.unavailable "buffer's worker closed unexpectedly")

/-- A service that is running, with what is left of its budget. -/
structure Router where
  service : Service
  budget : Option Budget

namespace Router

def ofService (clock : Clock) (s : Service) : Router := ⟨s, s.rateLimit.map (Budget.fresh clock)⟩

/-! ## Paths -/

/-- The path below which the endpoints are. -/
def base : List Char := "/api/v1".toList

/-- The endpoint at a path below the base. -/
def apiEndpoint? (path : List Char) : Option Endpoint :=
  if path = "/engines".toList then some .engines
  else if path = "/search".toList then some .search
  else if path = "/retrieve".toList then some .retrieve
  else none

/-- The path below the base, as it stands. -/
def belowBase? (path : List Char) : Option (List Char) :=
  if base.isPrefixOf path then some (path.drop base.length) else none

/-- The endpoint at an exact path. -/
def endpoint? (path : List Char) : Option Endpoint :=
  if path = "/health".toList then some .health else (belowBase? path).bind apiEndpoint?

/-- The path that is handed on to the part of the service with a budget, if it is one of its own. -/
def limitedPath? (path : List Char) : Option (List Char) :=
  match belowBase? path with
  | some [] => some ['/']
  | some ('/' :: '/' :: rest) => some ('/' :: rest)
  | some ('/' :: rest) => some ('/' :: rest)
  | _ => none

/-! ## Answers -/

/-- The answer of whatever is at a path. -/
def dispatch (e : Option Endpoint) (s : Service) (r : Request) : Option Served :=
  match e with
  | some e => e.handle s r
  | none => some { response := { status := 404 }, after := s }

/-- The answer to OPTIONS: what may be asked from elsewhere, and what the path allows if it is an
endpoint outside the budget. -/
def preflight (rt : Router) (r : Request) : Response where
  status := 200
  headers :=
    (match (if rt.budget.isSome ∧ (limitedPath? r.path).isSome then none else endpoint? r.path) with
      | some e => [("allow", e.allow)]
      | none => []) ++
    [("access-control-allow-methods", "GET,POST"), ("access-control-allow-headers", "*")]

/-- The answer to a request that is no more than refused. -/
def refused (s : Service) (why : ApiFault) : Option Served :=
  some { response := why.response, after := s }

/-- The answer to a request other than OPTIONS, and the budget afterwards. -/
def route (rt : Router) (now : Instant) (r : Request) : Option Served × Option Budget :=
  match rt.budget, limitedPath? r.path with
  | some budget, some path =>
    let (verdict, budget) := budget.request now
    match verdict.fault? with
    | some why => (refused rt.service why, some budget)
    | none => (dispatch (apiEndpoint? path) rt.service r, some budget)
  | budget, _ => (dispatch (endpoint? r.path) rt.service r, budget)

/-- A response that may be read from anywhere. -/
def shared (r : Response) : Response := r.withHeader "access-control-allow-origin" "*"

/-- The response to a request that comes at `now`, the time it takes, and the router afterwards. A
request whose search does not end has no response. -/
def handle (rt : Router) (now : Instant) (r : Request) : Option (Response × Duration × Router) :=
  if r.method = .options then some (shared (rt.preflight r), .zero, rt)
  else
    let (served, budget) := rt.route now r
    served.map fun served => (shared served.response, served.elapsed, ⟨served.after, budget⟩)

end Router

end TrackResolver.Http
