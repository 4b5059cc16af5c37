import PropertyReflection.Layout.Build
import PropertyReflection.Log
import PropertyReflection.Text.Quoted

/-!
# The registry of types

The registry files descriptors under the names of their types, at most one under each.  A descriptor
that is taken out, or whose name is given to another type later, goes on to describe whatever it
described before.
-/

namespace PropertyReflection

/-- Lay out a type and report it. -/
def TypeDescriptor.buildLogged (serial : Nat) (name : String) (parent : Option TypeDescriptor)
    (specs : List PropertySpec) : Logged (Except BuildFailure TypeDescriptor) :=
  match TypeDescriptor.build serial name parent specs with
  | .ok type => ⟨.ok type, [.laidOut name type.size type.align type.properties.length]⟩
  | .error failure => ⟨.error failure, []⟩

/-- The line that describes a type in diagnostics. -/
def TypeDescriptor.render (type : TypeDescriptor) : String :=
  let parent := match type.superType with
    | none => "None"
    | some parent => "Some(" ++ Text.quote parent.name ++ ")"
  "TypeDescriptor \x7b name: " ++ Text.quote type.name
    ++ s!", size: {type.size}, align: {type.align}, super_type: " ++ parent
    ++ s!", properties: {type.properties.length}" ++ " \x7d"

/-- Why the registry refuses something. -/
inductive RegistryFault where
  /-- The name is taken. -/
  | typeAlreadyRegistered (type : String)
  /-- No type has the name. -/
  | typeNotFound (type : String)
deriving DecidableEq, Repr

/-- The words in which a fault is reported. -/
def RegistryFault.message : RegistryFault → String
  | .typeAlreadyRegistered type => s!"Type '{type}' is already registered"
  | .typeNotFound type => s!"Type '{type}' is not registered"

/-- Descriptors by the names of their types. -/
structure Registry where
  types : List TypeDescriptor

namespace Registry

/-- A registry without types. -/
def empty : Registry := ⟨[]⟩

/-- The type of a name. -/
def get? (registry : Registry) (name : String) : Option TypeDescriptor :=
  registry.types.find? (·.name == name)

/-- True if a type has the name. -/
def contains (registry : Registry) (name : String) : Bool := (registry.get? name).isSome

/-- The number of types. -/
def size (registry : Registry) : Nat := registry.types.length

/-- True if there are no types. -/
def isEmpty (registry : Registry) : Bool := registry.types.isEmpty

/-- The names of the types, in the order in which they were registered. -/
def typeNames (registry : Registry) : List String := registry.types.map (·.name)

/-- File a descriptor under the name of its type. -/
def register (registry : Registry) (type : TypeDescriptor) :
    Logged (Except RegistryFault Registry) :=
  if registry.contains type.name then
    ⟨.error (.typeAlreadyRegistered type.name), [.alreadyRegistered type.name]⟩
  else
    ⟨.ok ⟨registry.types ++ [type]⟩,
      [.registered type.name type.size type.properties.length]⟩

/-- Take the descriptor of a name out. -/
def unregister (registry : Registry) (name : String) :
    Logged (Except RegistryFault (TypeDescriptor × Registry)) :=
  match registry.get? name with
  | none => ⟨.error (.typeNotFound name), []⟩
  | some type =>
    ⟨.ok (type, ⟨registry.types.filter (·.name != name)⟩), [.unregistered name]⟩

/-- The line that describes the registry in diagnostics. -/
def render (registry : Registry) : String :=
  "TypeRegistry \x7b types: " ++ toString registry.size ++ " \x7d"

@[simp] theorem get?_empty (name : String) : empty.get? name = none := rfl

/-- A registry finds a type only under its own name. -/
theorem name_of_get? {registry : Registry} {name : String} {type : TypeDescriptor}
    (h : registry.get? name = some type) : type.name = name := by
  simpa using List.find?_some h

end Registry

end PropertyReflection
