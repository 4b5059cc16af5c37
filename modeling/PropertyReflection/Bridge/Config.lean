import PropertyReflection.Log
import PropertyReflection.Text.Utf8
import PropertyReflection.Toml.Library

/-!
# The configuration of the bridge

Three settings, each of which has a default, may be given in a file, and may be overridden by the
environment.  A file is a TOML document; what it does not mention keeps its default, and keys that
are no setting are ignored.
-/

namespace PropertyReflection

/-- The settings of the bridge. -/
structure Config where
  /-- Report every call of a property export. -/
  traceCalls : Bool := false
  /-- Install a logger when the bridge starts. -/
  installLogger : Bool := true
  /-- What the logger lets through. -/
  logFilter : String := "info"
deriving DecidableEq, Repr

/-- The variables that the bridge reads, as bytes, if they are set. -/
structure Environment where
  /-- Overrides `Config.traceCalls`. -/
  trace : Option (List UInt8) := none
  /-- Overrides `Config.logFilter`. -/
  log : Option (List UInt8) := none

namespace Environment

/-- The text of a variable.  One that is not text counts as not set. -/
def readable (value : Option (List UInt8)) : Option String := value.bind Text.ofBytes?

end Environment

namespace Config

/-- The value of a setting, if it is of the sort that is asked for.  A setting that is not there has
its default. -/
def setting {α : Type} (sort? : Toml.Value → Option α) (document : Toml.Document) (name : String)
    (default : α) : Option α :=
  match document.get? name with
  | none => some default
  | some value => sort? value

/-- The settings in a document, if all of them have values of their sorts. -/
def ofDocument (document : Toml.Document) : Option Config := do
  let defaults : Config := {}
  return {
    traceCalls := ← setting Toml.Value.boolean? document "trace_calls" defaults.traceCalls
    installLogger := ← setting Toml.Value.boolean? document "install_logger" defaults.installLogger
    logFilter := ← setting Toml.Value.text? document "log_filter" defaults.logFilter }

/-- The settings in the text of a file. -/
def decode (library : Toml.Library) (text : String) : Except Toml.Fault Config :=
  match library.parse text with
  | .error fault => .error fault
  | .ok document =>
    match ofDocument document with
    | none => .error (library.illTyped text)
    | some config => .ok config

/-- The texts of the trace variable that switch tracing on; all others switch it off. -/
def switchesOn (value : String) : Bool :=
  value == "1" || value.toList.map Char.toLower == "true".toList

/-- Override settings by the environment.  An empty filter does not count. -/
def applyEnvironment (config : Config) (env : Environment) : Config :=
  { config with
    traceCalls := ((Environment.readable env.trace).map switchesOn).getD config.traceCalls
    logFilter :=
      ((Environment.readable env.log).filter (! ·.isEmpty)).getD config.logFilter }

/-- Report the installation of the logger.  One that the process has already is kept, and this is
reported; a new one is installed without a word. -/
def reportLogger (config : Config) (hasLogger : Bool) : List LogEvent :=
  if config.installLogger && hasLogger then [.loggerKept] else []

@[simp] theorem installLogger_applyEnvironment (config : Config) (env : Environment) :
    (config.applyEnvironment env).installLogger = config.installLogger := rfl

end Config

end PropertyReflection
