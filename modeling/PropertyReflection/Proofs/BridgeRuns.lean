import Mathlib
import PropertyReflection.Bridge.Lifecycle
import PropertyReflection.Proofs.PropertyNames
import PropertyReflection.Proofs.SeparatePlaces

/-!
# The bridge over time

A host starts and stops the bridge, asks for exports, and calls them, in any order and as often as
it wants.  Whether the bridge runs, and with which configuration, is decided by the last start that
succeeded, unless a shutdown followed.  The switch for tracing is kept apart from the configuration
and is set on other paths, but the two always agree.

Exports work whether or not the bridge runs.  Its state decides what is reported about their calls,
and nothing else.

### Outline

* `ExportCall.perform`, for a call of one of the sixteen exports, with `ExportCall.log_perform` and
  `ExportCall.value_perform` on what the switch for tracing does;
* `Host.step` and `Host.run`, for everything that a host can do, with `Host.config_step_iff` as the
  step and `Host.config_run_iff` as the run;
* `Host.performAll_of_run`: what the host gets from exports is what it gets without a bridge;
* `bridge_state_machine`, which puts it together.
-/

namespace PropertyReflection

/-! ### Calls of exports -/

/-- A call of a property export. -/
inductive ExportCall where
  | resolvePropertyByName (type : Option TypeDescriptor) (name : Option (List UInt8))
  | getOffsetByName (type : Option TypeDescriptor) (name : Option (List UInt8))
  | getArrayDimByName (type : Option TypeDescriptor) (name : Option (List UInt8))
  | getOffset (property : Property)
  | getSize (property : Property)
  | getArrayDim (property : Property)
  | initializeValue (property : Property) (p : Place)
  | destroyValue (property : Property) (p : Place)
  | destroyValueInContainer (property : Property) (p : Place)
  | copySingleValue (property : Property) (p q : Place)
  | identical (property : Property) (p q : Place)
  | getValueTypeHash (property : Property) (p : Place)
  | hasAnyFlag (property : Property) (mask : PropertyFlags)
  | hasAllFlags (property : Property) (mask : PropertyFlags)
  | getBooleanFieldMask (type : Option TypeDescriptor) (name : Option (List UInt8))
  | getInnerFields (property : Property) (out : Option (List (Option Property))) (capacity : Int)

/-- What an export answers. -/
inductive Answer where
  | property (found : Option Property)
  | number (value : Int)
  | byte (value : UInt8)
  | word (value : UInt32)
  | truth (value : Bool)
  | fields (count : Int) (out : Option (List (Option Property)))
  /-- Memory was written, and there is nothing to say. -/
  | done
  /-- A copy has no storage. -/
  | failed (fault : StorageFault)

namespace ExportCall

variable {tracing : Bool} {memory : String → Block}

/-- The export that is called. -/
def entry : ExportCall → Export
  | resolvePropertyByName .. => .resolvePropertyByName
  | getOffsetByName .. => .getOffsetByName
  | getArrayDimByName .. => .getArrayDimByName
  | getOffset .. => .getOffset
  | getSize .. => .getSize
  | getArrayDim .. => .getArrayDim
  | initializeValue .. => .initializeValue
  | destroyValue .. => .destroyValue
  | destroyValueInContainer .. => .destroyValueInContainer
  | copySingleValue .. => .copySingleValue
  | identical .. => .identical
  | getValueTypeHash .. => .getValueTypeHash
  | hasAnyFlag .. => .hasAnyFlag
  | hasAllFlags .. => .hasAllFlags
  | getBooleanFieldMask .. => .getBooleanFieldMask
  | getInnerFields .. => .getInnerFields

/-- True for a lookup by name without a type or without a name. -/
def isNull : ExportCall → Bool
  | resolvePropertyByName type name | getOffsetByName type name | getArrayDimByName type name
  | getBooleanFieldMask type name => type.isNone || name.isNone
  | _ => false

/-- Carry a call out in a memory with a block for every instance. -/
def perform (tracing : Bool) (memory : String → Block) :
    ExportCall → Logged (Answer × (String → Block))
  | resolvePropertyByName type name =>
    return (.property (← Calls.resolvePropertyByName tracing type name), memory)
  | getOffsetByName type name =>
    return (.number (← Calls.getOffsetByName tracing type name), memory)
  | getArrayDimByName type name =>
    return (.number (← Calls.getArrayDimByName tracing type name), memory)
  | getOffset property => return (.number (← Calls.getOffset tracing property), memory)
  | getSize property => return (.number (← Calls.getSize tracing property), memory)
  | getArrayDim property => return (.number (← Calls.getArrayDim tracing property), memory)
  | initializeValue property p => do
    let m ← Calls.initializeValue tracing property (p.block memory) p
    return (.done, p.setBlock memory m)
  | destroyValue property p => do
    let m ← Calls.destroyValue tracing property (p.block memory) p
    return (.done, p.setBlock memory m)
  | destroyValueInContainer property p => do
    let m ← Calls.destroyValueInContainer tracing property (p.block memory) p
    return (.done, p.setBlock memory m)
  | copySingleValue property p q => do
    match ← Calls.copySingleValue tracing property (p.block memory) p (q.block memory) q with
    | .ok m => return (.done, p.setBlock memory m)
    | .error fault => return (.failed fault, memory)
  | identical property p q =>
    return (.truth (← Calls.identical tracing property (p.block memory) p (q.block memory) q),
      memory)
  | getValueTypeHash property p =>
    return (.word (← Calls.getValueTypeHash tracing property (p.block memory) p), memory)
  | hasAnyFlag property mask => return (.truth (← Calls.hasAnyFlag tracing property mask), memory)
  | hasAllFlags property mask =>
    return (.truth (← Calls.hasAllFlags tracing property mask), memory)
  | getBooleanFieldMask type name =>
    return (.byte (← Calls.getBooleanFieldMask tracing type name), memory)
  | getInnerFields property out capacity => do
    let (count, out) ← Calls.getInnerFields tracing property out capacity
    return (.fields count out, memory)

/-- Several calls, one after the other: the answers, and the memory in the end. -/
def performAll (tracing : Bool) (memory : String → Block) :
    List ExportCall → List Answer × (String → Block)
  | [] => ([], memory)
  | call :: rest =>
    let next := (call.perform tracing memory).value
    let others := performAll tracing next.2 rest
    (next.1 :: others.1, others.2)

/-- A lookup by name is reported if it has a type and a name. -/
theorem log_byName {α : Type} (entry : Export) (absent : α) (f : TypeDescriptor → List UInt8 → α)
    (tracing : Bool) (type : Option TypeDescriptor) (name : Option (List UInt8)) :
    ∃ details, (Calls.byName entry absent f tracing type name).log =
      if tracing && !(type.isNone || name.isNone) then [.called entry.name details] else [] := by
  rcases type with _ | type
  · exact ⟨"", by simp [Calls.byName]⟩
  rcases name with _ | name
  · exact ⟨"", by simp [Calls.byName]⟩
  · refine ⟨type.name ++ "." ++ Text.quoteBytes (Text.untilNul name), ?_⟩
    simp [Calls.byName, traceCall]

/-- While calls are traced, each is reported once, and by the name of its export. -/
theorem log_perform (call : ExportCall) (tracing : Bool) (memory : String → Block) :
    ∃ details, (call.perform tracing memory).log =
      if tracing && !call.isNull then [.called call.entry.name details] else [] := by
  cases call with
  | resolvePropertyByName type name | getOffsetByName type name | getArrayDimByName type name
  | getBooleanFieldMask type name =>
    simp only [perform, Logged.log_bind, Logged.log_pure, List.append_nil]
    exact log_byName ..
  | copySingleValue property p q =>
    refine ⟨property.name ++ " " ++ p.render ++ " <- " ++ q.render, ?_⟩
    simp only [perform, Logged.log_bind]
    split <;> cases tracing <;> rfl
  | _ =>
    cases tracing
    · exact ⟨"", rfl⟩
    · exact ⟨_, rfl⟩

/-- Tracing changes neither answers nor memory. -/
theorem value_perform (call : ExportCall) (tracing tracing' : Bool) (memory : String → Block) :
    (call.perform tracing memory).value = (call.perform tracing' memory).value := by
  cases call with
  | resolvePropertyByName type name | getOffsetByName type name | getArrayDimByName type name
  | getBooleanFieldMask type name => cases type <;> cases name <;> rfl
  | _ => rfl

end ExportCall

/-! ### Starts -/

namespace Bridge

variable {bridge : Bridge} {platform : Platform} {env : Environment} {path : Option (List UInt8)}

/-- A start with a configuration file is one with the configuration that is read. -/
theorem value_start (bridge : Bridge) (platform : Platform) (env : Environment)
    (path : Option (List UInt8)) :
    (bridge.start platform env path).value =
      match (requestedConfig platform env path).value with
      | .error fault => (fault.status, bridge)
      | .ok config =>
        match (bridge.init config platform.hasLogger).value with
        | .error fault => (fault.status, bridge)
        | .ok started => (0, started) := by
  have hattempt : (bridge.attempt platform env path).value =
      match (requestedConfig platform env path).value with
      | .error fault => .error fault
      | .ok config => (bridge.init config platform.hasLogger).value := by
    rw [attempt, Logged.value_bind]
    cases (requestedConfig platform env path).value <;> rfl
  rw [start, hattempt]
  cases (requestedConfig platform env path).value with
  | error fault => rfl
  | ok config =>
    dsimp only
    cases (bridge.init config platform.hasLogger).value <;> rfl

theorem value_init_of_live (h : bridge.isInitialized = true) (config : Config) (hasLogger : Bool) :
    (bridge.init config hasLogger).value = .error .alreadyInitialized := by
  simp only [init, h, if_true]

theorem value_init_of_stopped (h : bridge.isInitialized = false) (config : Config)
    (hasLogger : Bool) :
    (bridge.init config hasLogger).value = .ok ⟨some config, config.traceCalls⟩ := by
  simp [init, h]

end Bridge

/-! ### The host -/

/-- Something that a host does: start the bridge with a configuration or with one from a file, stop
it, ask for an export or for all, or call an export.  A start comes with what it rests on, which may
be different each time. -/
inductive HostCall where
  | init (config : Config) (hasLogger : Bool)
  | start (platform : Platform) (env : Environment) (path : Option (List UInt8))
  | shutdown
  | getExport (name : Option (List UInt8))
  | registerExports
  | property (call : ExportCall)

namespace HostCall

/-- The configuration that a start asks for, if there is one. -/
def config? : HostCall → Option Config
  | init config _ => some config
  | start platform env path => (Bridge.requestedConfig platform env path).value.toOption
  | _ => none

/-- True if the bridge is to be stopped. -/
def isShutdown : HostCall → Bool
  | shutdown => true
  | _ => false

/-- The export that is called, with its arguments. -/
def property? : HostCall → Option ExportCall
  | property call => some call
  | _ => none

end HostCall

/-- What a host is told. -/
inductive Reply where
  | initialized (result : Except BridgeFault Unit)
  | started (status : Int)
  | stopped (ran : Bool)
  | found (entry : Option Export)
  | registered (count : Int) (entries : List Export)
  | answered (answer : Answer)

namespace Reply

/-- True if a start succeeded. -/
def isStart : Reply → Bool
  | initialized (.ok _) => true
  | started status => status == 0
  | _ => false

/-- The answer of an export. -/
def answer? : Reply → Option Answer
  | answered answer => some answer
  | _ => none

end Reply

/-- A host with the bridge and a block of memory for every instance. -/
structure Host where
  bridge : Bridge
  memory : String → Block

namespace Host

variable {host : Host} {call : HostCall} {calls : List HostCall} {config : Config}

/-- What the host is told, and the host after it. -/
def step (host : Host) : HostCall → Logged (Reply × Host)
  | .init config hasLogger => do
    match ← host.bridge.init config hasLogger with
    | .ok bridge => return (.initialized (.ok ()), { host with bridge })
    | .error fault => return (.initialized (.error fault), host)
  | .start platform env path => do
    let (status, bridge) ← host.bridge.start platform env path
    return (.started status, { host with bridge })
  | .shutdown => do
    let (ran, bridge) ← host.bridge.shutdown
    return (.stopped ran, { host with bridge })
  | .getExport name => return (.found (host.bridge.getExportByName name), host)
  | .registerExports => do
    let (count, entries) ← host.bridge.registerExports
    return (.registered count entries, host)
  | .property call => do
    let (answer, memory) ← call.perform host.bridge.tracing host.memory
    return (.answered answer, { host with memory })

/-- The host after several calls. -/
def run (host : Host) (calls : List HostCall) : Host :=
  calls.foldl (fun host call => (host.step call).value.2) host

/-- What exports answered, in the order of their calls. -/
def answers : Host → List HostCall → List Answer
  | _, [] => []
  | host, call :: rest =>
    let next := (host.step call).value
    next.1.answer?.toList ++ next.2.answers rest

/-- A call starts the bridge with a configuration. -/
def Starts (host : Host) (call : HostCall) (config : Config) : Prop :=
  (host.step call).value.1.isStart = true ∧ call.config? = some config

/-- Some call started the bridge with a configuration, and no shutdown followed. -/
def LiveSince (host : Host) (calls : List HostCall) (config : Config) : Prop :=
  ∃ before call after, calls = before ++ call :: after ∧ (host.run before).Starts call config ∧
    ∀ other ∈ after, other.isShutdown = false

/-- A bridge that runs is started by nothing, and stopped by a shutdown. -/
theorem step_of_live (h : host.bridge.isInitialized = true) (call : HostCall) :
    (host.step call).value.1.isStart = false ∧
      (host.step call).value.2.bridge = if call.isShutdown then .stopped else host.bridge := by
  cases call with
  | init config hasLogger =>
    simp [step, Bridge.value_init_of_live h, Reply.isStart, HostCall.isShutdown]
  | start platform env path =>
    have hstatus (fault : BridgeFault) : fault.status ≠ 0 := fault.status_pos.ne'
    simp only [step, Logged.value_bind, Bridge.value_start, Bridge.value_init_of_live h]
    cases (Bridge.requestedConfig platform env path).value <;>
      simp [Reply.isStart, HostCall.isShutdown, hstatus]
  | shutdown => simp [step, Bridge.shutdown, h, Reply.isStart, HostCall.isShutdown]
  | getExport name => simp [step, Reply.isStart, HostCall.isShutdown]
  | registerExports => simp [step, Reply.isStart, HostCall.isShutdown]
  | property call => simp [step, Reply.isStart, HostCall.isShutdown]

/-- A bridge that does not run is started by every call that has a configuration for it. -/
theorem step_of_stopped (h : host.bridge.isInitialized = false) (call : HostCall) :
    (host.step call).value.1.isStart = call.config?.isSome ∧
      (host.step call).value.2.bridge =
        call.config?.elim host.bridge fun config => ⟨some config, config.traceCalls⟩ := by
  cases call with
  | init config hasLogger =>
    simp [step, Bridge.value_init_of_stopped h, Reply.isStart, HostCall.config?]
  | start platform env path =>
    have hstatus (fault : BridgeFault) : fault.status ≠ 0 := fault.status_pos.ne'
    simp only [step, Logged.value_bind, Bridge.value_start, Bridge.value_init_of_stopped h,
      HostCall.config?]
    cases (Bridge.requestedConfig platform env path).value <;>
      simp [Reply.isStart, Except.toOption, hstatus]
  | shutdown => simp [step, Bridge.shutdown, h, Reply.isStart, HostCall.config?]
  | getExport name => simp [step, Reply.isStart, HostCall.config?]
  | registerExports => simp [step, Reply.isStart, HostCall.config?]
  | property call => simp [step, Reply.isStart, HostCall.config?]

/-- What is no call of an export leaves memory alone. -/
theorem step_of_not_property (host : Host) (h : call.property? = none) :
    (host.step call).value.1.answer? = none ∧ (host.step call).value.2.memory = host.memory := by
  cases call with
  | init config hasLogger =>
    simp only [step, Logged.value_bind]
    cases (host.bridge.init config hasLogger).value <;> exact ⟨rfl, rfl⟩
  | property call => exact absurd h (by simp [HostCall.property?])
  | _ => exact ⟨rfl, rfl⟩

/-- A call of an export leaves the bridge alone, and what it does is up to the export. -/
theorem step_property (host : Host) (call : ExportCall) (tracing : Bool) :
    (host.step (.property call)).value =
      let next := (call.perform tracing host.memory).value
      (.answered next.1, { host with memory := next.2 }) := by
  rw [call.value_perform tracing host.bridge.tracing]
  rfl

/-- The configuration after a call is that of a start, or that of before if the call does not stop
the bridge. -/
theorem config_step_iff :
    (host.step call).value.2.bridge.config = some config ↔
      host.Starts call config ∨ host.bridge.config = some config ∧ call.isShutdown = false := by
  unfold Starts
  cases h : host.bridge.isInitialized with
  | true =>
    obtain ⟨hreply, hbridge⟩ := step_of_live h call
    rw [hreply, hbridge]
    cases call.isShutdown <;> simp [Bridge.stopped]
  | false =>
    obtain ⟨hreply, hbridge⟩ := step_of_stopped h call
    have hnone : host.bridge.config = none := by simpa [Bridge.isInitialized] using h
    rw [hreply, hbridge, hnone]
    cases call.config? <;> simp [hnone]

/-- The switch for tracing agrees with the configuration. -/
def Agrees (bridge : Bridge) : Prop := bridge.tracing = bridge.config.any (·.traceCalls)

/-- No call makes the switch and the configuration disagree. -/
theorem agrees_step (h : Agrees host.bridge) (call : HostCall) :
    Agrees (host.step call).value.2.bridge := by
  cases hlive : host.bridge.isInitialized with
  | true =>
    rw [(step_of_live hlive call).2]
    split
    · rfl
    · exact h
  | false =>
    rw [(step_of_stopped hlive call).2]
    cases call.config? with
    | none => exact h
    | some config => rfl

/-! ### Runs -/

theorem run_append (host : Host) (calls : List HostCall) (call : HostCall) :
    host.run (calls ++ [call]) = ((host.run calls).step call).value.2 := by
  rw [run, List.foldl_append]
  rfl

/-- The last call starts the bridge, or it lets a bridge run that was started before. -/
theorem liveSince_append_iff :
    host.LiveSince (calls ++ [call]) config ↔
      (host.run calls).Starts call config ∨
        host.LiveSince calls config ∧ call.isShutdown = false := by
  constructor
  · rintro ⟨before, start, after, hsplit, hstart, hafter⟩
    rcases List.eq_nil_or_concat after with rfl | ⟨after', last, rfl⟩
    · obtain ⟨rfl, heq⟩ := List.append_inj' hsplit rfl
      obtain rfl := List.singleton_inj.mp heq
      exact Or.inl hstart
    · rw [List.concat_eq_append, ← List.cons_append, ← List.append_assoc] at hsplit
      obtain ⟨rfl, heq⟩ := List.append_inj' hsplit rfl
      obtain rfl := List.singleton_inj.mp heq
      exact Or.inr ⟨⟨before, start, after', rfl, hstart, fun other hother =>
        hafter other (by simp [hother])⟩, hafter call (by simp)⟩
  · rintro (hstart | ⟨⟨before, start, after, rfl, hstart, hafter⟩, hcall⟩)
    · exact ⟨calls, call, [], rfl, hstart, by simp⟩
    · refine ⟨before, start, after ++ [call], by simp, hstart, fun other hother => ?_⟩
      rcases List.mem_append.mp hother with hother | hother
      · exact hafter other hother
      · exact List.mem_singleton.mp hother ▸ hcall

/-- The bridge runs with the configuration of the last start that succeeded, unless a shutdown
followed, by induction on the calls from their end. -/
theorem config_run_iff (memory : String → Block) (calls : List HostCall) (config : Config) :
    (run ⟨.stopped, memory⟩ calls).bridge.config = some config ↔
      LiveSince ⟨.stopped, memory⟩ calls config := by
  induction calls using List.reverseRecOn with
  | nil =>
    constructor
    · intro h
      exact absurd h (by simp [run, Bridge.stopped])
    · rintro ⟨before, call, after, h, -⟩
      exact absurd h (by simp)
  | append_singleton calls call ih => rw [run_append, config_step_iff, liveSince_append_iff, ih]

/-- The switch for tracing and the configuration agree, however often the bridge was started and
stopped. -/
theorem agrees_run (h : Agrees host.bridge) (calls : List HostCall) :
    Agrees (host.run calls).bridge := by
  induction calls generalizing host with
  | nil => exact h
  | cons call rest ih => exact ih (agrees_step h call)

/-- What exports answer and what they do to memory is what they do without a bridge, by induction on
the calls: those of the bridge leave memory alone, and those of exports ignore the bridge. -/
theorem performAll_of_run (host : Host) (calls : List HostCall) (tracing : Bool) :
    ExportCall.performAll tracing host.memory (calls.filterMap (·.property?)) =
      (host.answers calls, (host.run calls).memory) := by
  induction calls generalizing host with
  | nil => rfl
  | cons call rest ih =>
    have hrest := ih (host.step call).value.2
    rw [answers, run, List.foldl_cons]
    change _ = (_, (run (host.step call).value.2 rest).memory)
    cases hcall : call.property? with
    | none =>
      obtain ⟨hreply, hmemory⟩ := host.step_of_not_property hcall
      rw [List.filterMap_cons_none hcall, hreply, ← hmemory, hrest]
      rfl
    | some exported =>
      obtain rfl : call = .property exported := by
        cases call <;> simp_all [HostCall.property?]
      rw [step_property host exported tracing] at hrest ⊢
      dsimp only at hrest
      rw [List.filterMap_cons_some hcall, ExportCall.performAll]
      dsimp only
      rw [hrest]
      rfl

end Host

/-! ### Exports by name -/

/-- The export of a name is the one that has it. -/
theorem Export.find?_eq_some_iff {name : String} {entry : Export} :
    find? name = some entry ↔ entry.name = name := by
  constructor
  · intro h
    simpa using List.find?_some h
  · rintro rfl
    cases hfind : find? entry.name with
    | none => exact absurd (List.find?_eq_none.mp hfind entry (mem_table entry)) (by simp)
    | some found =>
      have hname : found.name = entry.name := by simpa using List.find?_some hfind
      rw [name_injective hname]

/-- A C string finds the export whose name consists of its bytes, while the bridge runs. -/
theorem Bridge.getExportByName_eq_some_iff {bridge : Bridge} {name : Option (List UInt8)}
    {entry : Export} :
    bridge.getExportByName name = some entry ↔
      bridge.isInitialized = true ∧
        ∃ bytes, name = some bytes ∧ Text.bytes entry.name = Text.untilNul bytes := by
  unfold getExportByName getExport
  cases name with
  | none => simp
  | some bytes =>
    cases bridge.isInitialized with
    | false => simp
    | true =>
      simp only [Option.bind_eq_bind, Option.bind_some, Option.bind_eq_some_iff, if_true,
        Export.find?_eq_some_iff, Text.ofBytes?_eq_some_iff, Option.some.injEq, exists_eq_left',
        true_and]
      constructor
      · rintro ⟨text, htext, rfl⟩
        exact htext
      · intro htext
        exact ⟨entry.name, htext, rfl⟩

/-- The host gets all exports or none. -/
theorem Bridge.value_registerExports (bridge : Bridge) :
    bridge.registerExports.value =
      if bridge.config.isSome then (↑Export.table.length, Export.table)
      else (-BridgeFault.notInitialized.status, []) := by
  unfold registerExports isInitialized
  split <;> rfl

/-- The states of the bridge.  Whatever a host calls, the bridge runs exactly if a start succeeded
that no shutdown followed, and with the configuration of this start; calls of exports are traced
exactly if the bridge runs and this configuration asks for it.  While they are traced, each call of
an export is reported by one event, unless it is a lookup without a type or without a name, and
otherwise by none.  While the bridge runs, the host finds the exports by their names and gets all of
them in the order of the table, and otherwise it gets none.  What exports answer and what they do to
memory has nothing to do with the bridge: the host gets it from the calls of exports alone. -/
theorem bridge_state_machine (memory : String → Block) (calls : List HostCall) :
    let host := Host.run ⟨.stopped, memory⟩ calls
    (∀ config, host.bridge.config = some config ↔
      Host.LiveSince ⟨.stopped, memory⟩ calls config) ∧
    host.bridge.tracing = host.bridge.config.any (·.traceCalls) ∧
    (∀ call, ∃ record : LogEvent, record.level = .trace ∧
      (∃ details, record = .called call.entry.name details) ∧
      (host.step (.property call)).log =
        if host.bridge.tracing && !call.isNull then [record] else []) ∧
    (∀ name, ∃ found, (host.step (.getExport name)).value = (.found found, host) ∧
      ∀ entry, found = some entry ↔ host.bridge.config.isSome = true ∧
        ∃ bytes, name = some bytes ∧ Text.bytes entry.name = Text.untilNul bytes) ∧
    (host.step .registerExports).value =
      (if host.bridge.config.isSome then .registered Export.table.length Export.table
      else .registered (-BridgeFault.notInitialized.status) [], host) ∧
    ∀ tracing, ExportCall.performAll tracing memory (calls.filterMap (·.property?)) =
      (Host.answers ⟨.stopped, memory⟩ calls, host.memory) := by
  intro host
  have hagrees : Host.Agrees Bridge.stopped := rfl
  refine ⟨Host.config_run_iff memory calls, Host.agrees_run hagrees calls, fun call => ?_,
    fun name => ?_, ?_, Host.performAll_of_run ⟨.stopped, memory⟩ calls⟩
  · obtain ⟨details, hlog⟩ := call.log_perform host.bridge.tracing host.memory
    refine ⟨_, rfl, ⟨details, rfl⟩, ?_⟩
    rw [← hlog]
    exact List.append_nil _
  · exact ⟨_, rfl, fun entry => Bridge.getExportByName_eq_some_iff⟩
  · have hregister := host.bridge.value_registerExports
    by_cases hlive : host.bridge.config.isSome = true
    · rw [if_pos hlive] at hregister ⊢
      simp only [Host.step, Logged.value_bind, Logged.value_pure, hregister]
    · rw [if_neg hlive] at hregister ⊢
      simp only [Host.step, Logged.value_bind, Logged.value_pure, hregister]

end PropertyReflection
