import TrackResolver.Config.Toml
import TrackResolver.Files
import TrackResolver.Text.Blank

/-!
# Loading the settings

The settings file is the one named on the command line, or else by the environment, or else the one
in the user's directory if there is one. A file that cannot be read leaves the defaults, and the
`LoadStatus` says so; a file that can be read and makes no sense is an error. A file of lower rank
never takes the place of one that fails.

`Environment.resolve` is `resolve` of the service's `ConfigResolver`, `defaultPath` its
`default_config_path`, `ofFile` its `load_toml_config`, `applyEnvironment` its `apply_env_overrides` and
`Config.load` the `load` of its `TomlConfig`. `LoadStatus` is `ConfigStatus`.
-/
namespace TrackResolver

/-- What is read of the environment. A variable that holds no text is as good as none. -/
structure Environment where
  /-- The variable with the settings file. -/
  configFile : Option String := none
  /-- The variable with the address to listen at. -/
  bindAddress : Option String := none
  /-- What the platform gives as the user's directory for settings, if it has one. -/
  configDir : Option String := none

/-- Who named the settings file. -/
inductive ConfigSource where
  | commandLine
  | environment
  | userDirectory
deriving DecidableEq

def ConfigSource.text : ConfigSource → String
  | commandLine => "command line"
  | environment => "UNM_CONFIG"
  | userDirectory => "user config directory"

/-- What loading has come to. -/
inductive LoadStatus where
  | loaded (path : String) (source : ConfigSource)
  /-- The file could not be read, so the defaults are in use. -/
  | fellBack (path : String) (source : ConfigSource) (why : FileFault)
  /-- There is no file. -/
  | defaults
deriving DecidableEq

namespace LoadStatus

def isFallback : LoadStatus → Bool
  | fellBack .. => true
  | _ => false

/-- The file that the settings come from. -/
def loadedPath? : LoadStatus → Option String
  | loaded path _ => some path
  | _ => none

end LoadStatus

/-- Why a settings file is of no use. -/
inductive ConfigError where
  | unreadable (why : FileFault)
  | unusable (path : String) (why : Reading.Fault)

namespace Environment

/-- The settings file in the user's directory. -/
def defaultPath (env : Environment) : Option String :=
  env.configDir.map fun dir => Files.join (Files.join dir "unm") "config.toml"

/-- A variable, unless it is blank. -/
def given (value : Option String) : Option String := value.filter fun s => !Text.isAllBlank s

/-- The settings file to read. -/
def resolve (env : Environment) (cli : Option String) (fs : Files) :
    Option (String × ConfigSource) :=
  match cli, given env.configFile with
  | some path, _ => some (path, .commandLine)
  | none, some path => some (path, .environment)
  | none, none => (env.defaultPath.filter fs.contains).map fun path => (path, .userDirectory)

end Environment

namespace Config

/-- Reads one settings file. -/
def ofFile (fs : Files) (path : String) : Except ConfigError Config :=
  match fs.readText path with
  | .error why => .error (.unreadable why)
  | .ok s => (ofText s).mapError (.unusable path)

/-- The address to listen at comes from the environment, if it has one. -/
def applyEnvironment (c : Config) (env : Environment) : Config :=
  match Environment.given env.bindAddress with
  | some address => { c with server := { c.server with bindAddress := address } }
  | none => c

/-- Finds and reads the settings. -/
def load (env : Environment) (cli : Option String) (fs : Files) :
    Except ConfigError (Config × LoadStatus) :=
  match env.resolve cli fs with
  | none => .ok (applyEnvironment {} env, .defaults)
  | some (path, source) =>
    match ofFile fs path with
    | .ok c => .ok (c.applyEnvironment env, .loaded path source)
    | .error (.unreadable why) => .ok (applyEnvironment {} env, .fellBack path source why)
    | .error e => .error e

end Config

end TrackResolver
