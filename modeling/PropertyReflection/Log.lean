/-!
# Log events

What the library reports is a list of events, in the order in which they happen.  Each has a level
and is worded here.  An operation that reports something returns its events beside its result, so
that what it does and what it says can be looked at separately.
-/

namespace PropertyReflection

/-- How important an event is. -/
inductive LogLevel where
  | trace | debug | info | warn | error
deriving DecidableEq, Repr

/-- The name of a level. -/
def LogLevel.name : LogLevel → String
  | trace => "TRACE"
  | debug => "DEBUG"
  | info => "INFO"
  | warn => "WARN"
  | error => "ERROR"

/-- Something worth reporting. -/
inductive LogEvent where
  /-- A type was laid out. -/
  | laidOut (type : String) (size align properties : Nat)
  /-- A type was put into the registry. -/
  | registered (type : String) (size properties : Nat)
  /-- A type was refused by the registry, because its name is taken. -/
  | alreadyRegistered (type : String)
  /-- A type was taken out of the registry. -/
  | unregistered (type : String)
  /-- A property export was called. -/
  | called (name details : String)
  /-- An export is being handed over to the host. -/
  | registeringExport (name : String)
  /-- The configuration was read from a file. -/
  | configLoaded (path : String)
  /-- A logger was to be installed, but there is one. -/
  | loggerKept
  /-- The bridge was started. -/
  | initialized (exports : Nat) (tracing : Bool)
  /-- The bridge was to be started, but it is running. -/
  | initCalledTwice
  /-- The bridge could not be started from outside. -/
  | initFailed (reason : String)
  /-- The bridge was stopped. -/
  | shutDown
deriving DecidableEq, Repr

namespace LogEvent

/-- The level of an event. -/
def level : LogEvent → LogLevel
  | laidOut .. | called .. => .trace
  | registered .. | unregistered .. | registeringExport .. | loggerKept => .debug
  | configLoaded .. | initialized .. | shutDown => .info
  | alreadyRegistered .. | initCalledTwice => .warn
  | initFailed .. => .error

/-- The words in which an event is reported. -/
def message : LogEvent → String
  | laidOut type size align properties =>
    s!"Laid out '{type}': {size} bytes, align {align}, {properties} properties"
  | registered type size properties =>
    s!"Registered type '{type}' ({size} bytes, {properties} properties)"
  | alreadyRegistered type => s!"Type '{type}' is already registered"
  | unregistered type => s!"Unregistered type '{type}'"
  | called name details => name ++ ": " ++ details
  | registeringExport name => s!"Registering export '{name}'"
  | configLoaded path => "Loaded bridge config from " ++ path
  | loggerKept => "Logger already installed, keeping it"
  | initialized exports true => s!"Property bridge initialized ({exports} exports, tracing on)"
  | initialized exports false => s!"Property bridge initialized ({exports} exports, tracing off)"
  | initCalledTwice => "Property bridge init called twice"
  | initFailed reason => "Property bridge init failed: " ++ reason
  | shutDown => "Property bridge shut down"

end LogEvent

/-- A result and the events that led to it. -/
structure Logged (α : Type) where
  value : α
  log : List LogEvent

namespace Logged

/-- Report one event. -/
def tell (event : LogEvent) : Logged Unit := ⟨(), [event]⟩

instance : Monad Logged where
  pure value := ⟨value, []⟩
  bind x f := ⟨(f x.value).value, x.log ++ (f x.value).log⟩

@[simp] theorem value_pure {α : Type} (a : α) : (pure a : Logged α).value = a := rfl

@[simp] theorem log_pure {α : Type} (a : α) : (pure a : Logged α).log = [] := rfl

@[simp] theorem value_bind {α β : Type} (x : Logged α) (f : α → Logged β) :
    (x >>= f).value = (f x.value).value := rfl

@[simp] theorem log_bind {α β : Type} (x : Logged α) (f : α → Logged β) :
    (x >>= f).log = x.log ++ (f x.value).log := rfl

@[simp] theorem value_tell (event : LogEvent) : (tell event).value = () := rfl

@[simp] theorem log_tell (event : LogEvent) : (tell event).log = [event] := rfl

end Logged

end PropertyReflection
