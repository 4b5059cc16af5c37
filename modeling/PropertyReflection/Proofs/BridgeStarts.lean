import Mathlib
import PropertyReflection.Bridge.Lifecycle
import PropertyReflection.Proofs.BridgeRuns
import PropertyReflection.Proofs.PropertyNames
import PropertyReflection.Workspace.Directory

/-!
# How the bridge starts

A start reads a file, lays the environment over what it finds there, and then sets two things that
the whole process shares: the switch for tracing and the bridge itself.  It may fail at several
places.  The program does all this in place, so that a failure in between would leave the bridge
half started.  `BridgeCall` is a call of this kind, in the order of the program, and it turns out to
be the start of `Bridge`, which is kept or replaced as a whole.

What a start finds is said without the program: a file gives a layer of settings, each of which it
may leave out, or it gives a fault.  Over it lies the environment and below it lie the defaults.
All this is said of every platform: paths may lead anywhere, and any library may read the TOML.

### Outline

* `BridgeCall.start`, the start in place, and `BridgeCall.run_start`, by which it is the start of
  `Bridge`;
* `Layer`, what a document says about the settings, with `Layer.GivenBy.ofDocument` and
  `Layer.IllTyped.ofDocument`;
* `Finds`, what there is at a path, with `exists_finds` and `Finds.value_requestedConfig`;
* `Config.Layered` and `Layer.layered_applyEnvironment`, for the precedence among environment, file
  and defaults;
* `start_atomic_and_layered`, which puts it together.
-/

namespace PropertyReflection

/-! ### Starting in place -/

/-- A call that works on the bridge in place, reports, and may fail.  What it has changed and
reported when it fails remains so. -/
abbrev BridgeCall (α : Type) := ExceptT BridgeFault (StateT Bridge Logged) α

namespace BridgeCall

/-- Report some events. -/
def report (events : List LogEvent) : BridgeCall Unit :=
  ExceptT.mk fun bridge => ⟨(.ok (), bridge), events⟩

/-- Go on with a result that there is, and fail otherwise. -/
def orFail {α ε : Type} (result : Except ε α) (fault : ε → BridgeFault) : BridgeCall α :=
  ExceptT.mk (pure (result.mapError fault))

/-- Start the bridge with a configuration: refuse if it runs, install the logger, set the switch for
tracing, report, and only then let it run. -/
def init (config : Config) (hasLogger : Bool) : BridgeCall Unit := do
  if (← get).isInitialized then
    report [.initCalledTwice]
    throw .alreadyInitialized
  report (config.reportLogger hasLogger)
  modify fun bridge => { bridge with tracing := config.traceCalls }
  report [.initialized Export.table.length config.traceCalls]
  modify fun bridge => { bridge with config := some config }

/-- Read the configuration in a file. -/
def loadFile (platform : Platform) (path : List UInt8) : BridgeCall Config := do
  let bytes ← orFail (platform.read path) (.configRead path)
  let text ← orFail ((Text.ofBytes? bytes).elim (.error .invalidUtf8) .ok) (.configRead path)
  let config ← orFail (Config.decode platform.toml text) .configParse
  report [.configLoaded (Text.lossy path)]
  return config

/-- Read the configuration at a path, if there is one, and override it by the environment. -/
def load (platform : Platform) (env : Environment) (path : Option (List UInt8)) :
    BridgeCall Config := do
  let config ← match path with
    | some path => loadFile platform path
    | none => pure {}
  return config.applyEnvironment env

/-- Read the configuration at a path that is a C string, if there is one. -/
def loadRequested (platform : Platform) (env : Environment) (path : Option (List UInt8)) :
    BridgeCall Config := do
  let some path := path | load platform env none
  let path := Text.untilNul path
  if (Text.ofBytes? path).isNone then throw .invalidPath
  load platform env (some path)

/-- Start the bridge with the configuration at a path, and answer with the status. -/
def start (platform : Platform) (env : Environment) (path : Option (List UInt8)) :
    StateT Bridge Logged Int := do
  match ← ExceptT.run (loadRequested platform env path >>= (init · platform.hasLogger)) with
  | .ok () => return 0
  | .error fault =>
    StateT.lift ⟨(), [.initFailed fault.message]⟩
    return fault.status

/-- What a call answers, the bridge that it leaves, and what it reports. -/
def outcome {α : Type} (call : BridgeCall α) (bridge : Bridge) :
    Logged (Except BridgeFault α × Bridge) :=
  (ExceptT.run call).run bridge

variable {α β : Type} {bridge : Bridge}

@[simp] theorem outcome_pure (a : α) : outcome (pure a) bridge = ⟨(.ok a, bridge), []⟩ := rfl

@[simp] theorem outcome_throw (fault : BridgeFault) :
    outcome (throw fault : BridgeCall α) bridge = ⟨(.error fault, bridge), []⟩ := rfl

@[simp] theorem outcome_get : outcome get bridge = ⟨(.ok bridge, bridge), []⟩ := rfl

@[simp] theorem outcome_modify (f : Bridge → Bridge) :
    outcome (modify f) bridge = ⟨(.ok (), f bridge), []⟩ := rfl

@[simp] theorem outcome_report (events : List LogEvent) :
    outcome (report events) bridge = ⟨(.ok (), bridge), events⟩ := rfl

@[simp] theorem outcome_orFail {ε : Type} (result : Except ε α) (fault : ε → BridgeFault) :
    outcome (orFail result fault) bridge = ⟨(result.mapError fault, bridge), []⟩ := rfl

/-- A call that succeeds hands on its answer and the bridge; one that fails is the end. -/
@[simp] theorem outcome_bind (call : BridgeCall α) (next : α → BridgeCall β) :
    outcome (call >>= next) bridge =
      match call.outcome bridge with
      | ⟨(.ok a, after), events⟩ =>
        ⟨((next a).outcome after).value, events ++ ((next a).outcome after).log⟩
      | ⟨(.error fault, after), events⟩ => ⟨(.error fault, after), events⟩ := by
  rw [outcome, ExceptT.run_bind]
  rcases h : call.outcome bridge with ⟨⟨fault | a, after⟩, events⟩
  all_goals
    rw [outcome] at h
    rw [StateT.run_bind, h]
  · exact congrArg (Logged.mk _) (List.append_nil events)
  · rfl

/-- Starting with a configuration, in place. -/
theorem outcome_init (bridge : Bridge) (config : Config) (hasLogger : Bool) :
    (init config hasLogger).outcome bridge =
      ⟨match (bridge.init config hasLogger).value with
        | .ok started => (.ok (), started)
        | .error fault => (.error fault, bridge),
      (bridge.init config hasLogger).log⟩ := by
  simp only [init, Bridge.init, outcome_bind, outcome_get]
  cases h : bridge.isInitialized with
  | true => simp
  | false => simp

/-- Loading does not touch the bridge. -/
theorem outcome_loadFile (bridge : Bridge) (platform : Platform) (path : List UInt8) :
    (loadFile platform path).outcome bridge =
      ⟨((Config.loadFile platform path).value, bridge), (Config.loadFile platform path).log⟩ := by
  simp only [Config.loadFile, loadFile, outcome_bind, outcome_orFail]
  cases platform.read path with
  | error fault => rfl
  | ok bytes =>
    cases htext : Text.ofBytes? bytes with
    | none => simp [htext, Except.mapError]
    | some text =>
      cases hconfig : Config.decode platform.toml text <;> simp [htext, hconfig, Except.mapError]

theorem outcome_load (bridge : Bridge) (platform : Platform) (env : Environment)
    (path : Option (List UInt8)) :
    (load platform env path).outcome bridge =
      ⟨((Config.load platform env path).value, bridge), (Config.load platform env path).log⟩ := by
  cases path with
  | none => rfl
  | some path =>
    simp only [load, Config.load, outcome_bind, outcome_loadFile, Logged.value_bind,
      Logged.log_bind]
    cases (Config.loadFile platform path).value <;> simp [Except.map]

/-- Whatever the path and the environment, a configuration is found or refused before the bridge is
touched. -/
theorem outcome_loadRequested (bridge : Bridge) (platform : Platform) (env : Environment)
    (path : Option (List UInt8)) :
    (loadRequested platform env path).outcome bridge =
      ⟨((Bridge.requestedConfig platform env path).value, bridge),
        (Bridge.requestedConfig platform env path).log⟩ := by
  cases path with
  | none => exact outcome_load bridge platform env none
  | some path =>
    simp only [loadRequested, Bridge.requestedConfig, Option.map_some]
    by_cases h : (Text.ofBytes? (Text.untilNul path)).isNone = true
    · simp [h]
    · simp [h, outcome_load]

/-- The start in place is the start. -/
theorem run_start (bridge : Bridge) (platform : Platform) (env : Environment)
    (path : Option (List UInt8)) :
    (start platform env path).run bridge = bridge.start platform env path := by
  have hattempt : (loadRequested platform env path >>= (init · platform.hasLogger)).outcome bridge =
      ⟨match (bridge.attempt platform env path).value with
        | .ok started => (.ok (), started)
        | .error fault => (.error fault, bridge),
      (bridge.attempt platform env path).log⟩ := by
    simp only [outcome_bind, outcome_loadRequested, Bridge.attempt, Logged.value_bind,
      Logged.log_bind]
    cases (Bridge.requestedConfig platform env path).value with
    | error fault => simp
    | ok config => simp [outcome_init]
  rw [outcome] at hattempt
  rw [start, StateT.run_bind, hattempt, Bridge.start]
  cases (bridge.attempt platform env path).value with
  | error fault => rfl
  | ok started => exact congrArg (Logged.mk _) (List.append_nil _)

end BridgeCall

/-! ### What a file says -/

/-- Settings, each of which may be left out. -/
structure Layer where
  traceCalls : Option Bool := none
  installLogger : Option Bool := none
  logFilter : Option String := none

namespace Layer

variable {α : Type} {sort : α → Toml.Value} {sort? : Toml.Value → Option α}
  {layer : Layer} {document : Toml.Document} {name : String}

/-- What a document says about a setting of some sort: the value that it has, if it is there. -/
def Gives (sort : α → Toml.Value) (document : Toml.Document) (name : String) (value : Option α) :
    Prop :=
  document.get? name = value.map sort

/-- A setting is there, with a value of another sort. -/
def GivesOther (sort : α → Toml.Value) (document : Toml.Document) (name : String) : Prop :=
  ∃ value, document.get? name = some value ∧ ∀ a, value ≠ sort a

/-- A document gives these settings and no others. -/
structure GivenBy (layer : Layer) (document : Toml.Document) : Prop where
  traceCalls : Gives .boolean document "trace_calls" layer.traceCalls
  installLogger : Gives .boolean document "install_logger" layer.installLogger
  logFilter : Gives .text document "log_filter" layer.logFilter

/-- A document has a setting with a value of another sort. -/
inductive IllTyped (document : Toml.Document) : Prop where
  | traceCalls (h : GivesOther .boolean document "trace_calls")
  | installLogger (h : GivesOther .boolean document "install_logger")
  | logFilter (h : GivesOther .text document "log_filter")

/-- The settings of the layer, and the defaults for those that it leaves out. -/
def overDefaults (layer : Layer) : Config where
  traceCalls := layer.traceCalls.getD false
  installLogger := layer.installLogger.getD true
  logFilter := layer.logFilter.getD "info"

theorem gives_or_givesOther (sort : α → Toml.Value) (document : Toml.Document) (name : String) :
    (∃ value, Gives sort document name value) ∨ GivesOther sort document name := by
  unfold Gives GivesOther
  rcases document.get? name with _ | value
  · exact Or.inl ⟨none, rfl⟩
  · by_cases h : ∃ a, value = sort a
    · obtain ⟨a, rfl⟩ := h
      exact Or.inl ⟨some a, rfl⟩
    · exact Or.inr ⟨value, rfl, fun a ha => h ⟨a, ha⟩⟩

/-- What is read of a setting that is not there, or is of the sort. -/
theorem setting_of_gives (sorts : ∀ value a, sort? value = some a ↔ value = sort a)
    {value : Option α} (gives : Gives sort document name value) (default : α) :
    Config.setting sort? document name default = some (value.getD default) := by
  rw [Config.setting, gives]
  cases value with
  | none => rfl
  | some a => exact (sorts _ a).mpr rfl

theorem setting_of_givesOther (sorts : ∀ value a, sort? value = some a ↔ value = sort a)
    (gives : GivesOther sort document name) (default : α) :
    Config.setting sort? document name default = none := by
  obtain ⟨value, hget, hne⟩ := gives
  rw [Config.setting, hget]
  exact Option.eq_none_iff_forall_ne_some.mpr fun a ha => hne a ((sorts value a).mp ha)

/-- A document of settings is a layer over the defaults. -/
theorem GivenBy.ofDocument (given : layer.GivenBy document) :
    Config.ofDocument document = some layer.overDefaults := by
  rw [Config.ofDocument, setting_of_gives Toml.Value.boolean?_eq_some_iff given.traceCalls,
    setting_of_gives Toml.Value.boolean?_eq_some_iff given.installLogger,
    setting_of_gives Toml.Value.text?_eq_some_iff given.logFilter]
  rfl

/-- A setting of another sort spoils a document, whatever the other settings are. -/
theorem IllTyped.ofDocument (h : IllTyped document) : Config.ofDocument document = none := by
  unfold Config.ofDocument
  cases h with
  | traceCalls h => simp [setting_of_givesOther Toml.Value.boolean?_eq_some_iff h]
  | installLogger h => simp [setting_of_givesOther Toml.Value.boolean?_eq_some_iff h]
  | logFilter h => simp [setting_of_givesOther Toml.Value.text?_eq_some_iff h]

/-- There is no document besides. -/
theorem givenBy_or_illTyped (document : Toml.Document) :
    (∃ layer : Layer, layer.GivenBy document) ∨ IllTyped document := by
  rcases gives_or_givesOther .boolean document "trace_calls" with ⟨trace, htrace⟩ | h
  · rcases gives_or_givesOther .boolean document "install_logger" with ⟨logger, hlogger⟩ | h
    · rcases gives_or_givesOther .text document "log_filter" with ⟨filter, hfilter⟩ | h
      · exact Or.inl ⟨⟨trace, logger, filter⟩, ⟨htrace, hlogger, hfilter⟩⟩
      · exact Or.inr (.logFilter h)
    · exact Or.inr (.installLogger h)
  · exact Or.inr (.traceCalls h)

/-- A text is a configuration exactly if it is a document of settings. -/
theorem decode_eq_ok_iff {library : Toml.Library} {text : String} {config : Config} :
    Config.decode library text = .ok config ↔
      ∃ document, library.parse text = .ok document ∧
        ∃ layer : Layer, layer.GivenBy document ∧ layer.overDefaults = config := by
  unfold Config.decode
  cases library.parse text with
  | error fault => simp
  | ok document =>
    simp only [Except.ok.injEq, exists_eq_left']
    constructor
    · intro ok
      rcases givenBy_or_illTyped document with ⟨layer, given⟩ | h
      · rw [given.ofDocument] at ok
        exact ⟨layer, given, Except.ok.inj ok⟩
      · rw [h.ofDocument] at ok
        exact absurd ok (by simp)
    · rintro ⟨layer, given, rfl⟩
      rw [given.ofDocument]

end Layer

/-- What there is for the bridge at a path: settings, or a fault. -/
inductive Finds (platform : Platform) :
    Option (List UInt8) → Except BridgeFault Layer → Prop where
  | noPath : Finds platform none (.ok {})
  | notText {path : List UInt8} (h : ∀ text, Text.bytes text ≠ Text.untilNul path) :
      Finds platform (some path) (.error .invalidPath)
  | unreadable {path : List UInt8} {name : String} {fault : ReadFault}
      (named : Text.bytes name = Text.untilNul path)
      (h : platform.read (Text.untilNul path) = .error fault) :
      Finds platform (some path) (.error (.configRead (Text.untilNul path) fault))
  | binary {path contents : List UInt8} {name : String}
      (named : Text.bytes name = Text.untilNul path)
      (read : platform.read (Text.untilNul path) = .ok contents)
      (h : ∀ text, Text.bytes text ≠ contents) :
      Finds platform (some path) (.error (.configRead (Text.untilNul path) .invalidUtf8))
  | malformed {path : List UInt8} {name text : String} {fault : Toml.Fault}
      (named : Text.bytes name = Text.untilNul path)
      (read : platform.read (Text.untilNul path) = .ok (Text.bytes text))
      (h : platform.toml.parse text = .error fault) :
      Finds platform (some path) (.error (.configParse fault))
  | illTyped {path : List UInt8} {name text : String} {document : Toml.Document}
      (named : Text.bytes name = Text.untilNul path)
      (read : platform.read (Text.untilNul path) = .ok (Text.bytes text))
      (parsed : platform.toml.parse text = .ok document) (h : Layer.IllTyped document) :
      Finds platform (some path) (.error (.configParse (platform.toml.illTyped text)))
  | settings {path : List UInt8} {name text : String} {document : Toml.Document} {layer : Layer}
      (named : Text.bytes name = Text.untilNul path)
      (read : platform.read (Text.untilNul path) = .ok (Text.bytes text))
      (parsed : platform.toml.parse text = .ok document) (h : layer.GivenBy document) :
      Finds platform (some path) (.ok layer)

theorem Text.ofBytes?_eq_none_iff {bytes : List UInt8} :
    Text.ofBytes? bytes = none ↔ ∀ text, Text.bytes text ≠ bytes := by
  rw [Option.eq_none_iff_forall_ne_some]
  simp only [ne_eq, Text.ofBytes?_eq_some_iff]

/-- There always is something at a path. -/
theorem exists_finds (platform : Platform) (path : Option (List UInt8)) :
    ∃ found, Finds platform path found := by
  rcases path with _ | path
  · exact ⟨_, .noPath⟩
  cases hname : Text.ofBytes? (Text.untilNul path) with
  | none => exact ⟨_, .notText (Text.ofBytes?_eq_none_iff.mp hname)⟩
  | some name =>
    have named := Text.ofBytes?_eq_some_iff.mp hname
    cases hread : platform.read (Text.untilNul path) with
    | error fault => exact ⟨_, .unreadable named hread⟩
    | ok contents =>
      cases htext : Text.ofBytes? contents with
      | none => exact ⟨_, .binary named hread (Text.ofBytes?_eq_none_iff.mp htext)⟩
      | some text =>
        obtain rfl := Text.ofBytes?_eq_some_iff.mp htext
        cases hparse : platform.toml.parse text with
        | error fault => exact ⟨_, .malformed named hread hparse⟩
        | ok document =>
          rcases Layer.givenBy_or_illTyped document with ⟨layer, h⟩ | h
          · exact ⟨_, .settings named hread hparse h⟩
          · exact ⟨_, .illTyped named hread hparse h⟩

/-- A path that is a text is that of a file. -/
theorem value_requestedConfig_of_named {path : List UInt8} {name : String}
    (named : Text.bytes name = Text.untilNul path) (platform : Platform) (env : Environment) :
    (Bridge.requestedConfig platform env (some path)).value =
      (Config.loadFile platform (Text.untilNul path)).value.map (·.applyEnvironment env) := by
  have hname : Text.ofBytes? (Text.untilNul path) = some name :=
    Text.ofBytes?_eq_some_iff.mpr named
  simp [Bridge.requestedConfig, Config.load, hname]

/-- The configuration that the host asks for is what there is at the path, over the defaults and
below the environment. -/
theorem Finds.value_requestedConfig {platform : Platform} {path : Option (List UInt8)}
    {found : Except BridgeFault Layer} (finds : Finds platform path found) (env : Environment) :
    (Bridge.requestedConfig platform env path).value =
      found.map fun layer => layer.overDefaults.applyEnvironment env := by
  have hbytes (text : String) : Text.ofBytes? (Text.bytes text) = some text :=
    Text.ofBytes?_eq_some_iff.mpr rfl
  cases finds with
  | noPath => rfl
  | notText h => simp [Bridge.requestedConfig, Text.ofBytes?_eq_none_iff.mpr h, Except.map]
  | unreadable named h =>
    rw [value_requestedConfig_of_named named, Config.loadFile, h]
    rfl
  | binary named read h =>
    rw [value_requestedConfig_of_named named, Config.loadFile, read]
    simp [Text.ofBytes?_eq_none_iff.mpr h, Except.map]
  | malformed named read h =>
    rw [value_requestedConfig_of_named named, Config.loadFile, read]
    simp [hbytes, Config.decode, h, Except.map]
  | illTyped named read parsed h =>
    rw [value_requestedConfig_of_named named, Config.loadFile, read]
    simp [hbytes, Config.decode, parsed, h.ofDocument, Except.map]
  | settings named read parsed h =>
    rw [value_requestedConfig_of_named named, Config.loadFile, read]
    simp [hbytes, Layer.decode_eq_ok_iff.mpr ⟨_, parsed, _, h, rfl⟩, Except.map]

/-! ### Precedence -/

/-- The spellings that switch tracing on: the digit one, and the word in any mixture of small and
capital letters. -/
def SwitchesOn (text : String) : Prop :=
  text = "1" ∨
    List.Forall₂ (fun c letter => c = letter ∨ c = letter.toUpper) text.toList "true".toList

/-- The small form of a character is some small letter if it is this letter or its capital. -/
theorem toLower_eq_iff {c letter : Char} (h : letter.isLower = true) :
    c.toLower = letter ↔ c = letter ∨ c = letter.toUpper := by
  simp only [Char.isLower, Bool.and_eq_true, decide_eq_true_eq, UInt32.le_iff_toNat_le,
    ge_iff_le] at h
  have hupper : letter.toUpper.val.toNat = letter.val.toNat - 32 := by
    rw [Char.toUpper, dif_pos (by simpa only [UInt32.le_iff_toNat_le] using h)]
    simp at h ⊢
    omega
  -- the three equations become ones of numbers, where a capital comes 32 before its small letter
  rw [Char.ext_iff, Char.ext_iff, Char.ext_iff, ← UInt32.toNat_inj, ← UInt32.toNat_inj,
    ← UInt32.toNat_inj, hupper]
  unfold Char.toLower
  split <;> rename_i hc <;> simp only [UInt32.le_iff_toNat_le, ge_iff_le] at hc
  · simp at h hc ⊢
    omega
  · simp at h hc ⊢
    omega

theorem map_toLower_eq_iff {letters : List Char} (h : ∀ letter ∈ letters, letter.isLower = true)
    (text : List Char) :
    text.map Char.toLower = letters ↔
      List.Forall₂ (fun c letter => c = letter ∨ c = letter.toUpper) text letters := by
  induction letters generalizing text with
  | nil => simp
  | cons letter rest ih =>
    cases text with
    | nil => simp
    | cons c cs =>
      rw [List.map_cons, List.cons.injEq, List.forall₂_cons, toLower_eq_iff (h letter (by simp)),
        ih fun other hother => h other (by simp [hother])]

theorem switchesOn_iff (text : String) : Config.switchesOn text = true ↔ SwitchesOn text := by
  have hsmall : ∀ letter ∈ "true".toList, letter.isLower = true := by
    simp [Char.isLower]
  rw [Config.switchesOn, Bool.or_eq_true, beq_iff_eq, beq_iff_eq, SwitchesOn,
    map_toLower_eq_iff hsmall]

/-- A configuration with the settings of the environment where there are any, else with those of the
file, and else with the defaults.  Only a text that is not empty is a filter, and whether a logger
is installed is no matter of the environment. -/
structure Config.Layered (config : Config) (env : Environment) (layer : Layer) : Prop where
  traceCalls_of_readable {text : String} (h : env.trace = some (Text.bytes text)) :
    config.traceCalls = true ↔ SwitchesOn text
  traceCalls_of_unreadable (h : ∀ text, env.trace ≠ some (Text.bytes text)) :
    config.traceCalls = layer.traceCalls.getD false
  installLogger : config.installLogger = layer.installLogger.getD true
  logFilter_of_readable {text : String} (h : env.log = some (Text.bytes text)) (ne : text ≠ "") :
    config.logFilter = text
  logFilter_of_unreadable (h : ∀ text, env.log = some (Text.bytes text) → text = "") :
    config.logFilter = layer.logFilter.getD "info"

theorem Environment.readable_eq_some_iff {setting : Option (List UInt8)} {text : String} :
    Environment.readable setting = some text ↔ setting = some (Text.bytes text) := by
  rw [Environment.readable, Option.bind_eq_some_iff]
  constructor
  · rintro ⟨bytes, rfl, htext⟩
    rw [Text.ofBytes?_eq_some_iff.mp htext]
  · rintro rfl
    exact ⟨_, rfl, Text.ofBytes?_eq_some_iff.mpr rfl⟩

theorem Environment.readable_eq_none_iff {setting : Option (List UInt8)} :
    Environment.readable setting = none ↔ ∀ text, setting ≠ some (Text.bytes text) := by
  rw [Option.eq_none_iff_forall_ne_some]
  simp only [ne_eq, Environment.readable_eq_some_iff]

/-- The environment goes over the file, and the file over the defaults. -/
theorem Layer.layered_applyEnvironment (layer : Layer) (env : Environment) :
    (layer.overDefaults.applyEnvironment env).Layered env layer where
  traceCalls_of_readable h := by
    simp [Config.applyEnvironment, Environment.readable_eq_some_iff.mpr h, switchesOn_iff]
  traceCalls_of_unreadable h := by
    simp [Config.applyEnvironment, Environment.readable_eq_none_iff.mpr h, overDefaults]
  installLogger := rfl
  logFilter_of_readable h ne := by
    simp [Config.applyEnvironment, Environment.readable_eq_some_iff.mpr h, Option.filter, ne]
  logFilter_of_unreadable h := by
    have hnone : (Environment.readable env.log).filter (! ·.isEmpty) = none := by
      rw [Option.filter_eq_none_iff]
      intro text htext
      simp [h text (Environment.readable_eq_some_iff.mp htext)]
    simp [Config.applyEnvironment, hnone, overDefaults]

/-- Starts, whatever the state of the bridge, the platform, the environment and the path.  What the
program does in place is the start of `Bridge`, and if its answer is not zero, then the bridge and
the switch for tracing are what they were.  Something is found at the path.  If it is a fault, then
its status is the answer, whether or not the bridge runs.  If it is a layer of settings, then a
bridge that runs refuses, and one that does not runs from now on with these settings, over the
defaults and below the environment, and with calls traced exactly if they say so. -/
theorem start_atomic_and_layered (bridge : Bridge) (platform : Platform) (env : Environment)
    (path : Option (List UInt8)) :
    let started := (BridgeCall.start platform env path).run bridge
    started = bridge.start platform env path ∧
    (started.value.1 ≠ 0 → started.value.2 = bridge) ∧
    (∃ found, Finds platform path found) ∧
    (∀ fault, Finds platform path (.error fault) → started.value = (fault.status, bridge)) ∧
    ∀ layer, Finds platform path (.ok layer) →
      (bridge.config.isSome = true →
        started.value = (BridgeFault.alreadyInitialized.status, bridge)) ∧
      (bridge.config.isSome = false → ∃ config : Config, config.Layered env layer ∧
        started.value = (0, ⟨some config, config.traceCalls⟩)) := by
  intro started
  have hstarted : started = bridge.start platform env path :=
    BridgeCall.run_start bridge platform env path
  rw [hstarted]
  refine ⟨rfl, Bridge.start_of_status_ne_zero, exists_finds platform path, fun fault finds => ?_,
    fun layer finds => ⟨fun live => ?_, fun stopped => ?_⟩⟩
  all_goals rw [Bridge.value_start, finds.value_requestedConfig env]
  · rfl
  · dsimp only [Except.map]
    rw [Bridge.value_init_of_live live]
  · dsimp only [Except.map]
    rw [Bridge.value_init_of_stopped stopped]
    exact ⟨_, layer.layered_applyEnvironment env, rfl⟩

/-- A platform with one configuration file, which is found by an absolute path. -/
def bridgePlatform : Platform where
  read path :=
    if path = Text.bytes "/etc/void/bridge.toml" then
      .ok (Text.bytes "trace_calls = false\nlog_filter = \"warn\"\n")
    else .error .notFound
  toml := Toml.library
  hasLogger := false

/-- The environment has the last word about tracing, but an empty filter is none.  A bridge that
runs is not started again, and it stays as it is when there is no file. -/
theorem start_atomic_and_layered_bridgePlatform :
    ((BridgeCall.start bridgePlatform ⟨some (Text.bytes "True"), some []⟩
      (some (Text.bytes "/etc/void/bridge.toml" ++ [0]))).run .stopped).value =
      (0, ⟨some ⟨true, true, "warn"⟩, true⟩) ∧
    ((BridgeCall.start bridgePlatform {} (some (Text.bytes "/etc/void/bridge.toml"))).run
      ⟨some {}, false⟩).value = (1, ⟨some {}, false⟩) ∧
    ((BridgeCall.start bridgePlatform {} (some (Text.bytes "bridge.toml"))).run
      ⟨some {}, false⟩).value = (3, ⟨some {}, false⟩) := by
  have hname : Text.bytes "/etc/void/bridge.toml" =
      Text.untilNul (Text.bytes "/etc/void/bridge.toml" ++ [0]) := by
    decide +kernel
  have hname' : Text.bytes "/etc/void/bridge.toml" =
      Text.untilNul (Text.bytes "/etc/void/bridge.toml") := by
    decide +kernel
  have hread : bridgePlatform.read (Text.bytes "/etc/void/bridge.toml") =
      .ok (Text.bytes "trace_calls = false\nlog_filter = \"warn\"\n") := by
    decide +kernel
  have htoml : Config.decode bridgePlatform.toml "trace_calls = false\nlog_filter = \"warn\"\n" =
      .ok ⟨false, true, "warn"⟩ := by
    decide +kernel
  obtain ⟨document, hparse, layer, given, hlayer⟩ := Layer.decode_eq_ok_iff.mp htoml
  refine ⟨?stopped, ?live, ?missing⟩
  case stopped =>
    obtain ⟨-, hstopped⟩ := (start_atomic_and_layered .stopped bridgePlatform
      ⟨some (Text.bytes "True"), some []⟩
      (some (Text.bytes "/etc/void/bridge.toml" ++ [0]))).2.2.2.2 layer
        (.settings hname (hname ▸ hread) hparse given)
    obtain ⟨⟨traceCalls, installLogger, logFilter⟩, layered, hvalue⟩ := hstopped rfl
    have htrace : traceCalls = true :=
      (layered.traceCalls_of_readable rfl).mpr (Or.inr (by simp))
    have hlogger : installLogger = true :=
      layered.installLogger.trans (congrArg Config.installLogger hlayer)
    have hempty (text : String) (h : some [] = some (Text.bytes text)) : text = "" :=
      Text.bytes_injective (Option.some.inj h).symm
    have hfilter : logFilter = "warn" :=
      (layered.logFilter_of_unreadable hempty).trans (congrArg Config.logFilter hlayer)
    rw [hvalue, htrace, hlogger, hfilter]
  case live =>
    exact ((start_atomic_and_layered ⟨some {}, false⟩ bridgePlatform {}
      (some (Text.bytes "/etc/void/bridge.toml"))).2.2.2.2 layer
        (.settings hname' (hname' ▸ hread) hparse given)).1 rfl
  case missing =>
    have hmissing : bridgePlatform.read (Text.untilNul (Text.bytes "bridge.toml")) =
        .error .notFound := by
      decide +kernel
    exact (start_atomic_and_layered ⟨some {}, false⟩ bridgePlatform {}
      (some (Text.bytes "bridge.toml"))).2.2.2.1 _
        (.unreadable (by decide +kernel : Text.bytes "bridge.toml" = _) hmissing)

end PropertyReflection
