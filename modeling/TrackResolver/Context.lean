import TrackResolver.Song
import TrackResolver.SearchMode
import TrackResolver.Failure

/-!
# The context of a call

A `Context` says how a call is to be made. An engine is given a `View` of it. The view holds the whole
context; what can be asked of it are the common fields and the settings that stand under the engine's
own name. `Overrides` are what a request changes.

`Context` is the service's type of that name: `settingsOf` is `engine_config`, `set` is
`set_engine_config` and `merge` is `merge_engine_config`. `View` is `EngineContext` together with the
`EngineConfig` in it, of which `require` is `get_or_err` and `getD` is `get_or_default`. `Overrides` is
`ApiContext`, and `layerOn` its `layer_over`.
-/
namespace TrackResolver

/-- The settings of one engine. -/
abbrev Settings := Dict String

structure Context where
  /-- Where engines should send their requests through. -/
  proxy : Option String := none
  /-- Whether lossless audio is welcome. -/
  flac : Bool := false
  mode : SearchMode := .fastFirst
  /-- The settings of each engine under its name. -/
  settings : Dict Settings := .empty
deriving DecidableEq, Inhabited

/-- What the engine `engine` is given of a context. -/
structure View where
  context : Context
  engine : String
  /-- Whether another engine has already won. -/
  cancelled : Bool := false
deriving DecidableEq

namespace Context

/-- The settings of `engine`; an engine that is not mentioned has none. -/
def settingsOf (c : Context) (engine : String) : Settings :=
  (c.settings.get? engine).getD .empty

def view (c : Context) (engine : String) : View where
  context := c
  engine := engine

def set (c : Context) (engine key value : String) : Context :=
  { c with settings := c.settings.insert engine ((c.settingsOf engine).insert key value) }

/-- Lays `layer` on one engine's settings, key by key. -/
def mergeOne (settings : Dict Settings) (engine : String) (layer : Settings) : Dict Settings :=
  settings.insert engine (((settings.get? engine).getD .empty).union layer)

/-- Lays `layer` on the settings, engine by engine and key by key. -/
def merge (c : Context) (layer : Dict Settings) : Context :=
  { c with settings := layer.entries.foldl (fun s e => mergeOne s e.1 e.2) c.settings }

end Context

namespace View

/-- The engine's own settings. -/
def settings (v : View) : Settings := v.context.settingsOf v.engine

def proxy (v : View) : Option String := v.context.proxy
def flac (v : View) : Bool := v.context.flac
def mode (v : View) : SearchMode := v.context.mode

/-- The setting `key`, or why it is missed. -/
def require (v : View) (key purpose : String) : Except SetupError String :=
  match v.settings.get? key with
  | some value => .ok value
  | none => .error (.missing v.engine key purpose)

def getD (v : View) (key default : String) : String := (v.settings.get? key).getD default

end View

/-- The part of a context that one request sets; the rest comes from the base. -/
structure Overrides where
  proxy : Option String := none
  flac : Option Bool := none
  mode : Option SearchMode := none
  settings : Dict Settings := .empty
deriving DecidableEq, Inhabited

/-- The base with the overrides laid on it. Nothing of the base can be taken away. -/
def Overrides.layerOn (o : Overrides) (base : Context) : Context :=
  Context.merge
    { base with
      proxy := o.proxy <|> base.proxy
      flac := o.flac.getD base.flac
      mode := o.mode.getD base.mode }
    o.settings

end TrackResolver
