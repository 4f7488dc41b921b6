import TrackResolver.Duration

/-!
# Failures

`EngineError` is why one engine failed, `FailureReport` why each engine of a search did, and
`CallError` what the caller of a search or a retrieval is told. Every cause has one text, `message`.

`SetupError` is the service's `Error` and `CallError` its `ExecutorError`; `EngineError` and
`FailureReport` have their names from it.
-/
namespace TrackResolver

/-- What goes wrong with settings and files. -/
inductive SetupError where
  | io (message : String)
  | config (message : String)
  /-- `engine` needs a setting that the caller did not give. -/
  | missing (engine key purpose : String)
deriving DecidableEq, Inhabited

def SetupError.message : SetupError → String
  | io m => "IO error: " ++ m
  | config m => "Configuration error: " ++ m
  | missing engine key purpose =>
    engine ++ ": `" ++ key ++ "` should be configured for " ++ purpose

/-- Why one engine failed. -/
inductive EngineError where
  /-- There is no candidate for the song. -/
  | noMatch
  /-- Transport or reading failed inside the engine. -/
  | provider (message : String)
  /-- The engine ran past its own deadline. -/
  | timeout (after : Duration)
  /-- The result in hand came from `found`, not from `engine`. -/
  | sourceMismatch (engine found : String)
deriving DecidableEq, Inhabited

namespace EngineError

def ofSetup (e : SetupError) : EngineError := provider e.message

/-- The name of the cause in reports. -/
def kind : EngineError → String
  | noMatch => "no_match"
  | provider _ => "provider"
  | timeout _ => "timeout"
  | sourceMismatch .. => "source_mismatch"

def message : EngineError → String
  | noMatch => "No matched song"
  | provider m => "Provider error: " ++ m
  | timeout after => "Timed out after " ++ after.text
  | sourceMismatch engine found =>
    "Engine " ++ engine ++ " cannot retrieve results from " ++ found

end EngineError

/-- Why each engine of a search failed, in the order in which they were requested. -/
structure FailureReport where
  failures : List (String × EngineError)
deriving DecidableEq, Inhabited

/-- One failure as a report shows it. -/
structure FailureSummary where
  engine : String
  kind : String
  message : String
deriving DecidableEq

namespace FailureReport

def engines (r : FailureReport) : List String := r.failures.map (·.1)

def get? (r : FailureReport) (engine : String) : Option EngineError :=
  (r.failures.find? (·.1 = engine)).map (·.2)

/-- There are failures, and each says that nothing was found. -/
def allNoMatch (r : FailureReport) : Bool :=
  !r.failures.isEmpty && r.failures.all (·.2 = .noMatch)

def summaries (r : FailureReport) : List FailureSummary :=
  r.failures.map fun (engine, e) => ⟨engine, e.kind, e.message⟩

def message (r : FailureReport) : String :=
  "; ".intercalate (r.failures.map fun (engine, e) => engine ++ ": " ++ e.message)

end FailureReport

/-- Why the name of an engine is refused. -/
inductive Refusal where
  | notRegistered
  | duplicated
deriving DecidableEq, Inhabited

def Refusal.message : Refusal → String
  | notRegistered => "not registered"
  | duplicated => "requested more than once"

/-- What the caller of a search or a retrieval is told. -/
inductive CallError where
  /-- These names cannot be used. -/
  | unknownEngines (names : List String) (why : Refusal)
  /-- A search was asked for without engines. -/
  | noEngines
  /-- Every requested engine failed. -/
  | allFailed (report : FailureReport)
  /-- The engine that owns a result failed to turn it into a link. -/
  | engineFailed (engine : String) (error : EngineError)
deriving DecidableEq, Inhabited

def CallError.message : CallError → String
  | unknownEngines [name] why => "Engine " ++ name ++ " is " ++ why.message
  | unknownEngines names why => "Engines " ++ ", ".intercalate names ++ " are " ++ why.message
  | noEngines => "No engine was requested"
  | allFailed report => "All engines failed: " ++ report.message
  | engineFailed engine e => "Engine " ++ engine ++ " failed: " ++ e.message

end TrackResolver
