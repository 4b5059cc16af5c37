import PropertyReflection.Bridge.Calls
import PropertyReflection.Bridge.Lifecycle
import PropertyReflection.Buffer
import PropertyReflection.Registry
import PropertyReflection.Value.Draft
import PropertyReflection.Value.Reading
import PropertyReflection.Workspace.Directory

/-!
# Workspaces

The operations on values trust their callers: memory has to hold a live value of the right kind, or
none, as the operation requires.  A workspace holds everything that is needed to check this, and
refuses what would break the contract: types and instances under names, the registry, the bridge
with its environment and files, and for every instance which of its properties hold values.

Only properties that own something have to be watched.  Any bytes are a number or a boolean, so the
others count as live from the start.
-/

namespace PropertyReflection

/-- Why a workspace does not do what it is asked to. -/
inductive Refusal where
  /-- A part of the request makes no sense. -/
  | badValue
  /-- The request names no kind. -/
  | badKind
  | noType
  | noField
  | noInstance
  /-- The name of a new instance is taken. -/
  | instanceExists
  /-- A new instance would be larger than a workspace holds. -/
  | instanceTooLarge
  /-- The value at the end of the path, or on the way there, is not live. -/
  | notLive
  /-- The value to construct is live already. -/
  | alreadyLive
  /-- Only whole instances and their own properties are constructed and destroyed by hand. -/
  | notRoot
  | outOfRange
  /-- The path goes on from a property with several elements without choosing one. -/
  | needElem
  | notStruct
  | notArray
  | notMap
  | keyNotFound
  /-- The values do not have one representation. -/
  | kindMismatch
  /-- The values do not have as many elements as the property. -/
  | dimMismatch
  /-- A type cannot be laid out. -/
  | layout (type : String) (fault : LayoutFault)
  /-- A layout overflows a machine word. -/
  | overflow
  /-- A buffer cannot be allocated. -/
  | buffer
  | registry (fault : RegistryFault)
  | bridge (fault : BridgeFault)
  | storage (fault : StorageFault)

/-- The refusal of a draft. -/
def Refusal.ofDraft : DraftFault → Refusal
  | .illTyped => .badValue
  | .noField _ => .noField
  | .storage fault => .storage fault

/-- Memory for one instance of a type. -/
structure Instance where
  type : TypeDescriptor
  cells : Block
  /-- The names of the properties that own something and hold a value. -/
  live : List String

namespace Instance

/-- The properties that have to be constructed before they are used. -/
def owning (inst : Instance) : List Property :=
  inst.type.allProperties.filter (·.kind.needsDestroy)

/-- Those of them that an access concerns: the one of a name, or all. -/
def concerned (inst : Instance) (name : Option String) : List Property :=
  match name with
  | none => inst.owning
  | some name => inst.owning.filter (·.name == name)

/-- True if everything an access concerns holds a value. -/
def isLive (inst : Instance) (name : Option String) : Bool :=
  (inst.concerned name).all (inst.live.contains ·.name)

/-- True if something an access concerns holds a value. -/
def isAnyLive (inst : Instance) (name : Option String) : Bool :=
  (inst.concerned name).any (inst.live.contains ·.name)

/-- Record that what an access concerns holds values. -/
def revive (inst : Instance) (name : Option String) : Instance :=
  { inst with live := inst.live ++ (inst.concerned name).map (·.name) }

/-- Record that what an access concerns holds no values. -/
def retire (inst : Instance) (name : Option String) : Instance :=
  { inst with live := inst.live.filter fun n => !(inst.concerned name).any (·.name == n) }

/-- The names of the properties that hold values, in the order of names. -/
def liveNames (inst : Instance) : List String :=
  inst.live.mergeSort (fun a b => decide (a ≤ b))

end Instance

/-- Types, instances and the bridge. -/
structure Workspace where
  /-- Descriptors under the names by which requests refer to them. -/
  types : List (String × TypeDescriptor) := []
  /-- The identity of the next descriptor. -/
  nextSerial : Nat := 0
  registry : Registry := .empty
  instances : List (String × Instance) := []
  bridge : Bridge := .stopped
  env : Environment := {}
  files : WorkingDirectory := ⟨[]⟩

/-- A request to a workspace: it reads and changes the workspace, reports events, and may be
refused.  What was changed and reported before a refusal stays. -/
abbrev Request := ExceptT Refusal (StateT Workspace Logged)

namespace Request

/-- Run a request. -/
def perform {α : Type} (request : Request α) (workspace : Workspace) :
    Logged (Except Refusal α × Workspace) :=
  (request.run).run workspace

/-- Take the events of an operation over into a request. -/
def report {α : Type} (x : Logged α) : Request α :=
  ExceptT.lift (StateT.lift x)

/-- Refuse a request if something is missing. -/
def require {α : Type} (refusal : Refusal) : Option α → Request α
  | some a => pure a
  | none => throw refusal

/-- Refuse a request if a condition fails. -/
def check (refusal : Refusal) (condition : Bool) : Request Unit :=
  if condition then pure () else throw refusal

/-- Refuse a request for the reason that an operation failed. -/
def accept {ε α : Type} (refusal : ε → Refusal) : Except ε α → Request α
  | .ok a => pure a
  | .error e => throw (refusal e)

/-- True if calls of exports are traced. -/
def tracing : Request Bool := return (← get).bridge.tracing

end Request

namespace Workspace

open Request

/-- What a list of pairs has for a name. -/
def lookUp {α : Type} (pairs : List (String × α)) (name : String) : Option α :=
  (pairs.find? (·.1 == name)).map (·.2)

/-- The pairs with a new one for a name. -/
def file {α : Type} (pairs : List (String × α)) (name : String) (a : α) : List (String × α) :=
  (name, a) :: pairs.filter (·.1 != name)

/-- The type that a request refers to. -/
def typeOf (id : String) : Request TypeDescriptor := do
  require .noType (lookUp (← get).types id)

/-- The instance that a request refers to. -/
def instanceOf (id : String) : Request Instance := do
  require .noInstance (lookUp (← get).instances id)

/-- Replace an instance. -/
def setInstance (id : String) (inst : Instance) : Request Unit :=
  modify fun ws => { ws with instances := file ws.instances id inst }

end Workspace

end PropertyReflection
