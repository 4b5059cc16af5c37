import PropertyReflection.Workspace.Basic

/-!
# Requests of the host

The host sets variables of the environment, provides configuration files, starts and stops the
bridge, and binds its exports.
-/

namespace PropertyReflection

/-- Where a request takes the configuration from. -/
inductive ConfigSource where
  /-- There is no file. -/
  | none
  /-- A file with these contents, written for the purpose. -/
  | contents (bytes : List UInt8)
  /-- Whatever is at a path. -/
  | path (bytes : List UInt8)

/-- The settings in a text, as a workspace reads them. -/
def Config.ofToml (text : String) : Except Toml.Fault Config := decode Toml.library text

namespace Workspace

open Request

/-- The name of a configuration file that is written for a request. -/
def configName : List UInt8 := "bridge.toml".toUTF8.toList

/-- Set the variable that turns tracing on, or take it away. -/
def setTraceVariable (value : Option (List UInt8)) : Request Unit :=
  modify fun ws => { ws with env := { ws.env with trace := value } }

/-- Set the variable that names the log filter, or take it away. -/
def setLogVariable (value : Option (List UInt8)) : Request Unit :=
  modify fun ws => { ws with env := { ws.env with log := value } }

/-- The path of a configuration, after its file was written if need be. -/
def providePath (source : ConfigSource) : Request (Option (List UInt8)) := do
  match source with
  | .none => return none
  | .path bytes => return some bytes
  | .contents bytes =>
    modify fun ws => { ws with files := ws.files.write configName bytes }
    return some configName

/-- Load a configuration. -/
def loadConfig (source : ConfigSource) : Request Config := do
  let path ← providePath source
  let ws ← get
  accept .bridge (← report (Config.load ws.files.platform ws.env path))

/-- Start the bridge as the host does, and give the status. -/
def startBridge (source : ConfigSource) : Request Int := do
  let path ← providePath source
  let ws ← get
  let (status, bridge) ← report (ws.bridge.start ws.files.platform ws.env path)
  modify fun ws => { ws with bridge := bridge }
  return status

/-- Start the bridge with a configuration. -/
def initBridge (config : Config) : Request Unit := do
  let ws ← get
  let bridge ← accept .bridge (← report (ws.bridge.init config ws.files.platform.hasLogger))
  modify fun ws => { ws with bridge := bridge }

/-- Stop the bridge and tell whether it ran. -/
def shutdownBridge : Request Bool := do
  let (ran, bridge) ← report (← get).bridge.shutdown
  modify fun ws => { ws with bridge := bridge }
  return ran

/-- Stop the bridge and tell whether it still runs. -/
def stopBridge : Request Bool := do
  let _ ← shutdownBridge
  return (← get).bridge.isInitialized

/-- The configuration of the bridge. -/
def bridgeConfig : Request Config := do
  require (.bridge .notInitialized) (← get).bridge.config

/-- Tell whether there is an export of a name. -/
def hasExport (name : String) : Request Bool := do
  return (← accept .bridge ((← get).bridge.getExport name)).isSome

/-- Tell whether the host finds an export under a C string. -/
def findsExport (name : Option (List UInt8)) : Request Bool := do
  return ((← get).bridge.getExportByName name).isSome

/-- Hand all exports over to the host. -/
def registerExports : Request (Int × List Export) := do
  report (← get).bridge.registerExports

end Workspace

end PropertyReflection
