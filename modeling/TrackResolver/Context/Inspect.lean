import TrackResolver.Context
import TrackResolver.Text.Quoted

/-!
# Contexts as a diagnostic shows them

A diagnostic shows all that there is, and so it does of the view that an engine holds: the context in
the view with the settings of every engine. Tables and settings stand in the order of their names
here; the service promises no order.

These are the derived diagnostics of `Context`, `EngineConfig` and `EngineContext`.
-/
namespace TrackResolver

open Text (quoted)

/-- A part that may be missing. -/
def shownPart : Option String → String
  | none => "None"
  | some s => "Some(" ++ s ++ ")"

def shownTruth (b : Bool) : String := if b then "true" else "false"

/-- Entries with their names; `shown` is what there is to show of one. -/
def Dict.inspect {α : Type} (shown : α → String) (d : Dict α) : String :=
  "\x7b" ++ ", ".intercalate (d.entries.map fun e => quoted e.1 ++ ": " ++ shown e.2) ++ "\x7d"

def SearchMode.inspect : SearchMode → String
  | fastFirst => "FastFirst"
  | orderFirst => "OrderFirst"

def Settings.inspect (s : Settings) : String := Dict.inspect quoted s

def Context.inspect (c : Context) : String :=
  "Context \x7b proxy_uri: " ++ shownPart (c.proxy.map quoted) ++
    ", enable_flac: " ++ shownTruth c.flac ++ ", search_mode: " ++ c.mode.inspect ++
    ", config: " ++ c.settings.inspect Settings.inspect ++ " \x7d"

/-- The view of an engine that is searching. -/
def View.inspect (v : View) : String :=
  "EngineContext \x7b context: " ++ v.context.inspect ++
    ", config: EngineConfig \x7b engine: " ++ quoted v.engine ++
    ", values: " ++ shownPart ((v.context.settings.get? v.engine).map Settings.inspect) ++
    " \x7d, cancellation: Some(CancellationToken \x7b is_cancelled: " ++ shownTruth v.cancelled ++
    " \x7d) \x7d"

example : ((({} : Context).set "vault" "token" "k1").view "gossip").inspect =
    "EngineContext \x7b context: Context \x7b proxy_uri: None, enable_flac: false, " ++
    "search_mode: FastFirst, config: \x7b\"vault\": \x7b\"token\": \"k1\"\x7d\x7d \x7d, " ++
    "config: EngineConfig \x7b engine: \"gossip\", values: None \x7d, " ++
    "cancellation: Some(CancellationToken \x7b is_cancelled: false \x7d) \x7d" := by
  decide +kernel

end TrackResolver
