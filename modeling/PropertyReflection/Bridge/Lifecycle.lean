import PropertyReflection.Bridge.Config
import PropertyReflection.Bridge.Export
import PropertyReflection.Bridge.Platform

/-!
# Starting and stopping the bridge

The bridge is stopped or runs with a configuration.  The host starts it with the path of a
configuration file, binds the exports, and stops it in the end.  A start that fails, for whatever
reason, leaves the bridge as it was.  What a path leads to and what its text says is asked of the
platform.
-/

namespace PropertyReflection

/-- Why the bridge does not do what it is asked to. -/
inductive BridgeFault where
  /-- The bridge is running and cannot be started again. -/
  | alreadyInitialized
  /-- The bridge is not running. -/
  | notInitialized
  /-- The configuration file cannot be read. -/
  | configRead (path : List UInt8) (fault : ReadFault)
  /-- The configuration file makes no sense. -/
  | configParse (fault : Toml.Fault)
  /-- The path of the configuration file is not text. -/
  | invalidPath
deriving DecidableEq, Repr

namespace BridgeFault

/-- The words in which a fault is reported. -/
def message : BridgeFault → String
  | alreadyInitialized => "Property bridge is already initialized"
  | notInitialized => "Property bridge is not initialized"
  | configRead path fault =>
    "Failed to read config '" ++ Text.lossy path ++ "': " ++ fault.message
  | configParse fault => "Invalid config: " ++ fault.message
  | invalidPath => "Config path is not valid UTF-8"

/-- The number by which the host is told. -/
def status : BridgeFault → Int
  | alreadyInitialized => 1
  | notInitialized => 2
  | configRead .. => 3
  | configParse .. => 4
  | invalidPath => 5

/-- No fault is told as success. -/
theorem status_pos (fault : BridgeFault) : 0 < fault.status := by
  cases fault <;> simp [status]

end BridgeFault

namespace Config

/-- The configuration in a file. -/
def loadFile (platform : Platform) (path : List UInt8) : Logged (Except BridgeFault Config) :=
  match platform.read path with
  | .error fault => pure (.error (.configRead path fault))
  | .ok bytes =>
    match Text.ofBytes? bytes with
    | none => pure (.error (.configRead path .invalidUtf8))
    | some text =>
      match decode platform.toml text with
      | .error fault => pure (.error (.configParse fault))
      | .ok config => ⟨.ok config, [.configLoaded (Text.lossy path)]⟩

/-- The configuration in a file, or the default one if there is no path, with the overrides of the
environment. -/
def load (platform : Platform) (env : Environment) (path : Option (List UInt8)) :
    Logged (Except BridgeFault Config) :=
  match path with
  | none => pure (.ok (({} : Config).applyEnvironment env))
  | some path => do
    return (← loadFile platform path).map (·.applyEnvironment env)

end Config

/-- The state of the bridge. -/
structure Bridge where
  /-- The configuration it runs with, if it runs. -/
  config : Option Config
  /-- True if calls of exports are reported. -/
  tracing : Bool
deriving DecidableEq, Repr

namespace Bridge

/-- The bridge before its first start. -/
def stopped : Bridge := ⟨none, false⟩

/-- True if the bridge runs. -/
def isInitialized (bridge : Bridge) : Bool := bridge.config.isSome

/-- Start the bridge with a configuration. -/
def init (bridge : Bridge) (config : Config) (hasLogger : Bool) :
    Logged (Except BridgeFault Bridge) :=
  if bridge.isInitialized then ⟨.error .alreadyInitialized, [.initCalledTwice]⟩
  else
    ⟨.ok ⟨some config, config.traceCalls⟩,
      config.reportLogger hasLogger ++ [.initialized Export.table.length config.traceCalls]⟩

/-- Stop the bridge, and tell whether it ran. -/
def shutdown (bridge : Bridge) : Logged (Bool × Bridge) :=
  if bridge.isInitialized then ⟨(true, stopped), [.shutDown]⟩ else ⟨(false, bridge), []⟩

/-- The configuration that the host asks for.  Its path is a C string and has to be text. -/
def requestedConfig (platform : Platform) (env : Environment) (path : Option (List UInt8)) :
    Logged (Except BridgeFault Config) :=
  match path.map Text.untilNul with
  | none => Config.load platform env none
  | some path =>
    if (Text.ofBytes? path).isNone then pure (.error .invalidPath)
    else Config.load platform env (some path)

/-- Start the bridge with the configuration that the host asks for. -/
def attempt (bridge : Bridge) (platform : Platform) (env : Environment)
    (path : Option (List UInt8)) : Logged (Except BridgeFault Bridge) := do
  match ← requestedConfig platform env path with
  | .error fault => return .error fault
  | .ok config => bridge.init config platform.hasLogger

/-- Start the bridge with the configuration at a path, and tell the host the status, which is zero
on success. -/
def start (bridge : Bridge) (platform : Platform) (env : Environment) (path : Option (List UInt8)) :
    Logged (Int × Bridge) :=
  let attempted := bridge.attempt platform env path
  match attempted.value with
  | .ok started => ⟨(0, started), attempted.log⟩
  | .error fault => ⟨(fault.status, bridge), attempted.log ++ [.initFailed fault.message]⟩

/-- The export of a name, while the bridge runs. -/
def getExport (bridge : Bridge) (name : String) : Except BridgeFault (Option Export) :=
  if bridge.isInitialized then .ok (Export.find? name) else .error .notInitialized

/-- The export whose name is a C string, if there is one and the bridge runs. -/
def getExportByName (bridge : Bridge) (name : Option (List UInt8)) : Option Export := do
  let name ← Text.ofBytes? (Text.untilNul (← name))
  match bridge.getExport name with
  | .ok found => found
  | .error _ => none

/-- Hand all exports over to the host, and tell it how many they are, or the negative status if the
bridge does not run. -/
def registerExports (bridge : Bridge) : Logged (Int × List Export) :=
  if bridge.isInitialized then do
    let entries ← Export.registerAll
    return (entries.length, entries)
  else pure (-BridgeFault.notInitialized.status, [])

/-- A start that fails changes nothing. -/
theorem start_of_status_ne_zero {bridge : Bridge} {platform : Platform} {env : Environment}
    {path : Option (List UInt8)} (h : (bridge.start platform env path).value.1 ≠ 0) :
    (bridge.start platform env path).value.2 = bridge := by
  unfold start at h ⊢
  dsimp only at h ⊢
  split at h <;> simp_all

end Bridge

end PropertyReflection
