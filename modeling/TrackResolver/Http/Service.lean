import TrackResolver.Config
import TrackResolver.Executor
import TrackResolver.Http.Body

/-!
# The service

A `Service` answers requests with an executor, under a default context and perhaps a default list of
engines. Each answer comes with the time it took and the service as it is afterwards.

`Service` is `AppState`, with `with_rate_limit`, `from_config`, `engines_for` and `context_for`. Its
handlers are `health_check`, `list_engines`, `search` and `retrieve`.
-/
namespace TrackResolver.Http

/-- By what a build of the service is told from others. -/
structure BuildInfo where
  gitHash : String
  timestamp : String
  profile : String
deriving DecidableEq, Inhabited

structure Service where
  build : BuildInfo
  executor : Executor
  context : Context := {}
  /-- The engines of a search that names none. -/
  engines : Option (List String) := none
  /-- The limit of the requests, if there is one. -/
  rateLimit : Option RateLimit := none

namespace Service

/-- With this limit, unless it is none. -/
def withRateLimit (s : Service) (limit : RateLimit) : Service :=
  { s with rateLimit := if limit.isEnabled then some limit else none }

def ofConfig (build : BuildInfo) (x : Executor) (c : Config) : Service :=
  Service.withRateLimit ⟨build, x, c.context, c.engines, none⟩ c.server.rateLimit

/-- The engines of a search: those requested, or else the default ones, or else all. -/
def enginesFor (s : Service) (requested : Option (List String)) : List String :=
  match requested, s.engines with
  | some names, _ => names
  | none, some names => names
  | none, none => s.executor.registry.list

/-- The default context with the overrides of a request on it. -/
def contextFor (s : Service) (overrides : Option Overrides) : Context :=
  match overrides with
  | some o => o.layerOn s.context
  | none => s.context

end Service

/-- What the service answers, when, and what it is afterwards. -/
structure Served where
  response : Response
  elapsed : Duration := .zero
  after : Service

def BuildInfo.toJson (b : BuildInfo) : Json.Value :=
  .object [("git_hash", .text b.gitHash), ("timestamp", .text b.timestamp),
    ("profile", .text b.profile)]

namespace Service

def health (s : Service) : Served where
  response := .json 200 (.object
    [("status", .text "ok"), ("module", .text "unm-server"), ("version", .text "0.1.0"),
     ("build", s.build.toJson)])
  after := s

def listEngines (s : Service) : Served where
  response := .json 200 (.object [("engines", .list (s.executor.registry.list.map .text))])
  after := s

/-- The search that a request asks for. A search that does not end has no answer. -/
def search (s : Service) (q : SearchRequest) : Option Served :=
  (s.executor.search (s.enginesFor q.engines) q.song (s.contextFor q.context) none).bind fun call =>
    let served (response : Response) : Served :=
      { response, elapsed := call.elapsed, after := { s with executor := call.after } }
    match call.answer with
    | .found f => some (served (.json 200 f.toJson))
    | .refused why => some (served (ApiFault.call why).response)
    | .abandoned => none

/-- The retrieval that a request asks for. -/
def retrieve (s : Service) (q : RetrieveRequest) : Served :=
  let call := s.executor.retrieve q.found (s.contextFor q.context)
  { response := match call.answer with
      | .ok p => .json 200 p.toJson
      | .error why => (ApiFault.call why).response
    elapsed := call.elapsed
    after := { s with executor := call.after } }

/-- The answer to a request whose body is refused. -/
def refuse (s : Service) (why : BodyFault) : Served :=
  { response := (ApiFault.body why).response, after := s }

end Service

/-- What can be asked of the service. -/
inductive Endpoint where
  | health
  | engines
  | search
  | retrieve
deriving DecidableEq

namespace Endpoint

/-- Whether the endpoint is asked with GET, and else with POST. -/
def isRead : Endpoint → Bool
  | health | engines => true
  | search | retrieve => false

/-- The methods that an endpoint allows. -/
def allow (e : Endpoint) : String := if e.isRead then "GET,HEAD" else "POST"

/-- The answer of an endpoint to a request with the right method. -/
def serve (e : Endpoint) (s : Service) (r : Request) : Option Served :=
  match e with
  | health => some s.health
  | engines => some s.listEngines
  | search => match r.decode SearchRequest.read with
    | .ok q => s.search q
    | .error why => some (s.refuse why)
  | retrieve => match r.decode RetrieveRequest.read with
    | .ok q => some (s.retrieve q)
    | .error why => some (s.refuse why)

/-- The answer to a request of any method. The answer to HEAD is that to GET without its body. -/
def handle (e : Endpoint) (s : Service) (r : Request) : Option Served :=
  if r.method = (if e.isRead then .get else .post) then e.serve s r
  else if e.isRead ∧ r.method = .head then
    (e.serve s r).map fun served => { served with response := served.response.withoutBody }
  else some { response := { status := 405, headers := [("allow", e.allow)] }, after := s }

end Endpoint

end TrackResolver.Http
