import PropertyReflection.Workspace.Cursor

/-!
# Requests about instances and values

Each request first finds out what it is about, in the order in which its parts are given, and then
requires it to be live.
-/

namespace PropertyReflection

/-- True if values of the two kinds are represented alike: structs by one descriptor, booleans by
the same bits. -/
def Kind.sameRepresentation : Kind → Kind → Bool
  | .bool mask, .bool other => mask == other
  | .scalar s, .scalar t => s == t
  | .string, .string => true
  | .struct type, .struct other => type.serial == other.serial
  | .array element, .array other => element.sameRepresentation other
  | .map key value, .map otherKey otherValue =>
    key.sameRepresentation otherKey && value.sameRepresentation otherValue
  | _, _ => false

namespace Workspace

open Request

/-! ## Instances -/

/-- The largest instance that a workspace holds. -/
def maxInstance : Nat := 1 <<< 20

/-- Allocate memory for an instance of a type and fill it with a byte. -/
def newInstance (id type : String) (fill : Except Refusal UInt8) : Request BufferLayout := do
  let type ← typeOf type
  let fill ← accept (fun refusal => refusal) fill
  check .instanceTooLarge (decide (type.size ≤ maxInstance))
  check .instanceExists (lookUp (← get).instances id).isNone
  let layout ← require .buffer (BufferLayout.of? type.size type.align)
  setInstance id ⟨type, .filled layout.size fill, []⟩
  return layout

/-- Construct a whole instance or one of its properties, by the export or in the container. -/
def construct (target : Request Cursor) (byExport : Bool) : Request Value := do
  let c ← target
  check .notRoot (decide (c.depth ≤ 1))
  let inst ← c.instanceAt
  check .alreadyLive (!inst.isAnyLive c.concerns)
  let cells ←
    if byExport then
      report (Calls.initializeValue (← tracing) c.property inst.cells c.place)
    else pure (c.property.construct inst.cells c.address)
  setInstance c.place.owner ({ inst with cells := cells }.revive c.concerns)
  c.value

/-- Destroy a whole instance or one of its properties, by its address or by that of its container,
and give the names of the properties that are still live. -/
def destroy (target : Request Cursor) (inContainer : Bool) : Request (List String) := do
  let c ← target
  check .notRoot (decide (c.depth ≤ 1))
  c.requireLive
  let inst ← c.instanceAt
  let cells ←
    if inContainer then
      report (Calls.destroyValueInContainer (← tracing) c.property inst.cells
        { c.place with address := 0 })
    else report (Calls.destroyValue (← tracing) c.property inst.cells c.place)
  let inst := { inst with cells := cells }.retire c.concerns
  setInstance c.place.owner inst
  return inst.liveNames

/-! ## Single values -/

/-- Find a live value. -/
def liveAt (target : Request Cursor) : Request Cursor := do
  let c ← target
  c.requireLive
  return c

/-- Read a value. -/
def readValue (target : Request Cursor) : Request Value := do
  (← liveAt target).value

/-- Write a value.  The draft may depend on the kind and on the number of elements.  What was
written before a part that cannot be written stays. -/
def writeValue (target : Request Cursor) (draft : Kind → Nat → Draft) : Request Value := do
  let c ← liveAt target
  let written := (draft c.property.kind c.count).store c.count c.property.kind (← c.block) c.address
  c.setBlock written.result
  if let some fault := written.fault then throw (.ofDraft fault)
  c.value

/-- Read memory as it is. -/
def readBytes (target : Request Cursor) : Request (List (Option UInt8)) := do
  let c ← target
  return c.property.bytes c.count (← c.block) c.address

/-- Read a boolean; other values have no truth. -/
def readBool (target : Request Cursor) : Request (Option Bool) := do
  let c ← liveAt target
  return c.property.getBool? (← c.block) c.address

/-- Write a boolean and tell whether the value is one. -/
def writeBool (target : Request Cursor) (value : Except Refusal Bool) : Request (Bool × Value) := do
  let c ← liveAt target
  let value ← accept id value
  match c.property.setBool? (← c.block) c.address value with
  | none => return (false, ← c.value)
  | some m =>
    c.setBlock m
    return (true, ← c.value)

/-- The hash of the first element. -/
def hashFirst (target : Request Cursor) : Request UInt32 := do
  let c ← liveAt target
  report (Calls.getValueTypeHash (← tracing) c.property (← c.block) c.place)

/-- The hash of all elements. -/
def hashAll (target : Request Cursor) : Request UInt32 := do
  let c ← liveAt target
  check .dimMismatch (c.count == c.property.dim)
  return c.property.hashAll (← c.block) c.address

/-! ## Two values -/

/-- Two live values and the property that is applied to them. -/
structure Pairing where
  left : Cursor
  right : Cursor
  property : Property

/-- Find two live values and a property that suits both.  Any boolean property suits two booleans
outside containers, whatever their masks are, because a byte has all masks. -/
def pair (left right : Request Cursor) (via : Option (Request Property)) : Request Pairing := do
  let left ← liveAt left
  let right ← liveAt right
  let property ← via.getD (pure left.property)
  let areFree := !left.inContainer && !right.inContainer && property.fieldMask?.isSome
    && left.property.fieldMask?.isSome && right.property.fieldMask?.isSome
  check .kindMismatch
    (areFree || (property.kind.sameRepresentation left.property.kind
      && property.kind.sameRepresentation right.property.kind))
  return ⟨left, right, property⟩

/-- Refuse values that do not have as many elements as the property. -/
def Pairing.requireDim (p : Pairing) : Request Unit :=
  check .dimMismatch (p.left.count == p.property.dim && p.right.count == p.property.dim)

/-- Copy the first element of one value over another. -/
def copyFirst (dest source : Request Cursor) (via : Option (Request Property)) :
    Request Value := do
  let p ← pair dest source via
  let m ← p.left.block
  let copied ← report (Calls.copySingleValue (← tracing) p.property m p.left.place
    (← p.right.block) p.right.place)
  p.left.setBlock (← accept .storage copied)
  p.left.value

/-- Copy all elements of one value over another. -/
def copyAll (dest source : Request Cursor) (via : Option (Request Property)) :
    Request Value := do
  let p ← pair dest source via
  p.requireDim
  let copied := p.property.copyAllAt (← p.left.block) p.left.place (← p.right.block) p.right.place
  p.left.setBlock (← accept .storage copied)
  p.left.value

/-- Compare the first elements of two values. -/
def identicalFirst (left right : Request Cursor) (via : Option (Request Property)) :
    Request Bool := do
  let p ← pair left right via
  report (Calls.identical (← tracing) p.property (← p.left.block) p.left.place
    (← p.right.block) p.right.place)

/-- Compare all elements of two values. -/
def identicalAll (left right : Request Cursor) (via : Option (Request Property)) :
    Request Bool := do
  let p ← pair left right via
  p.requireDim
  return p.property.identicalAllAt (← p.left.block) p.left.place (← p.right.block) p.right.place

end Workspace

end PropertyReflection
