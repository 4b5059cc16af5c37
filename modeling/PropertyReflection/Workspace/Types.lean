import PropertyReflection.Workspace.Basic

/-!
# Requests about types and properties
-/

namespace PropertyReflection

namespace Workspace

open Request

/-- Build a type and keep it under a name for later requests.  If it cannot be registered as asked,
it is not kept either. -/
def build (id name : String) (parent : Option TypeDescriptor) (specs : List PropertySpec)
    (register : Bool) : Request TypeDescriptor := do
  let ws ← get
  let type ← match ← report (TypeDescriptor.buildLogged ws.nextSerial name parent specs) with
    | .ok type => pure type
    | .error .overflow => throw .overflow
    | .error (.rejected fault) => throw (.layout name fault)
  if register then
    let registry ← accept .registry (← report (ws.registry.register type))
    modify fun ws => { ws with registry := registry }
  modify fun ws => { ws with types := file ws.types id type, nextSerial := ws.nextSerial + 1 }
  return type

/-- The names under which this very descriptor is kept, in the order of names. -/
def idsOf (type : TypeDescriptor) : Request (List String) := do
  let ids := (← get).types.filterMap fun (id, t) => if t.serial = type.serial then some id else none
  return ids.mergeSort (fun a b => decide (a ≤ b))

/-- The names under which the registered type of a name is kept, if there is one. -/
def registered (name : String) : Request (Option (List String)) := do
  match (← get).registry.get? name with
  | none => return none
  | some type => return some (← idsOf type)

/-- Take the type of a name out of the registry. -/
def unregister (name : String) : Request (List String) := do
  let (type, registry) ← accept .registry (← report ((← get).registry.unregister name))
  modify fun ws => { ws with registry := registry }
  idsOf type

/-- The answers of the four lookups by name. -/
structure LookupAnswer where
  resolved : Option String
  offset : Int
  dim : Int
  mask : UInt8

/-- Ask the exports for the property of a name. -/
def lookup (type : Option String) (name : Except Refusal (Option (List UInt8))) :
    Request LookupAnswer := do
  let type ← type.mapM typeOf
  let name ← accept id name
  let traced ← tracing
  let resolved ← report (Calls.resolvePropertyByName traced type name)
  let offset ← report (Calls.getOffsetByName traced type name)
  let dim ← report (Calls.getArrayDimByName traced type name)
  let mask ← report (Calls.getBooleanFieldMask traced type name)
  return ⟨resolved.map (·.name), offset, dim, mask⟩

/-- Ask a descriptor directly for the property of a name. -/
def resolve (type : String) (name : Except Refusal (List UInt8)) : Request LookupAnswer := do
  let type ← typeOf type
  let name ← accept id name
  if name.contains 0 then throw .badValue
  return ⟨(type.resolve? name).map (·.name), type.offsetByName name, type.arrayDimByName name,
    type.boolFieldMaskByName name⟩

/-- The property of a type that has a name. -/
def propertyOf (type : TypeDescriptor) (name : String) : Request Property :=
  require .noField (type.find? name)

/-- The nested property of a property that has a name. -/
def nestedProperty (property : Property) (name : String) : Request Property :=
  require .noField (property.innerFields.find? (·.name == name))

/-- The answers of the exports about a property. -/
def describe (property : Property) : Request (Int × Int × Int) := do
  let traced ← tracing
  let offset ← report (Calls.getOffset traced property)
  let size ← report (Calls.getSize traced property)
  let dim ← report (Calls.getArrayDim traced property)
  return (offset, size, dim)

/-- Ask whether a property has some, and whether it has all attributes of a set. -/
def flags (property : Property) (mask : PropertyFlags) : Request (Bool × Bool) := do
  let traced ← tracing
  let any ← report (Calls.hasAnyFlag traced property mask)
  let all ← report (Calls.hasAllFlags traced property mask)
  return (any, all)

/-- Ask for nested properties with a buffer of `room` empty slots, or without one. -/
def innerFields (property : Property) (room : Nat) (capacity : Int) (withoutBuffer : Bool) :
    Request (Int × List (Option Property)) := do
  if !withoutBuffer && decide ((room : Int) < capacity) then throw .badValue
  let slots : List (Option Property) := List.replicate room none
  let out := if withoutBuffer then none else some slots
  let (count, filled) ← report (Calls.getInnerFields (← tracing) property out capacity)
  return (count, filled.getD slots)

end Workspace

end PropertyReflection
