import PropertyReflection.Workspace.Types

/-!
# Cursors

A cursor stands at a value inside an instance.  It starts at the whole instance, seen as one struct,
and follows steps into properties, elements of properties, elements of arrays, and keys and values
of maps.  A property with several elements is one value until a step chooses an element.

From the second step on, whatever the access concerns has to be live, because a container is looked
into.
-/

namespace PropertyReflection

/-- A value inside an instance. -/
structure Cursor where
  place : Place
  property : Property
  /-- True for all elements of the property, false for one of them. -/
  complete : Bool
  /-- The property of the instance that the access concerns, or none for all of them. -/
  concerns : Option String
  /-- The number of steps. -/
  depth : Nat
  /-- True in the storage of a container, at any depth. -/
  inContainer : Bool

/-- A step from a value to one inside it.  An index may be none at all, which counts once the value
is known to have what the index is of. -/
inductive Step where
  /-- To a property of a struct. -/
  | field (name : String)
  /-- To one element of a property. -/
  | elem (index : Except Refusal Nat)
  /-- To an element of an array. -/
  | item (index : Except Refusal Nat)
  /-- To the value of a map under a key, which is written once the kind of the keys is known. -/
  | key (draft : Kind → Draft)
  /-- To the key of a pair of a map. -/
  | keyAt (index : Except Refusal Nat)
  /-- To the value of a pair of a map. -/
  | valueAt (index : Except Refusal Nat)
  /-- Nowhere: the step makes no sense. -/
  | malformed

namespace Cursor

open Request Workspace

/-- The number of elements at a cursor. -/
def count (c : Cursor) : Nat := if c.complete then c.property.dim else 1

/-- The address of the value in its block. -/
def address (c : Cursor) : Nat := c.place.address

/-- The whole instance of a name. -/
def root (id : String) : Request Cursor := do
  let inst ← instanceOf id
  return {
    place := ⟨id, [], 0⟩
    property := .ofKind "Value" (.struct inst.type) 0 1 .none
    complete := true
    concerns := none
    depth := 0
    inContainer := false }

/-- The instance that a cursor stands in. -/
def instanceAt (c : Cursor) : Request Instance := instanceOf c.place.owner

/-- The block that a cursor stands in. -/
def block (c : Cursor) : Request Block := return (← c.instanceAt).cells.descend c.place.hops

/-- Replace the block that a cursor stands in. -/
def setBlock (c : Cursor) (m : Block) : Request Unit := do
  let inst ← c.instanceAt
  setInstance c.place.owner { inst with cells := inst.cells.updateAt c.place.hops fun _ => m }

/-- Refuse a request about a value that is not live. -/
def requireLive (c : Cursor) : Request Unit := do
  check .notLive ((← c.instanceAt).isLive c.concerns)

/-- Write a draft in scratch memory and give the memory. -/
def scratch (kind : Kind) (draft : Kind → Draft) : Request Block :=
  accept Refusal.ofDraft ((draft kind).store 1 kind kind.scratch 0).complete

/-- The cursor at a property of the struct at a cursor. -/
def toField (c : Cursor) (type : TypeDescriptor) (name : String) : Request Cursor := do
  let property ← require .noField (type.find? name)
  return {
    place := c.place.shift property.offset
    property := property
    complete := true
    concerns := if c.depth = 0 then some name else c.concerns
    depth := c.depth + 1
    inContainer := c.inContainer }

/-- The cursor at a value in the storage of the container at a cursor. -/
def intoContainer (c : Cursor) (property : Property) (address : Nat) : Cursor where
  place := c.place.enter address
  property := property
  complete := true
  concerns := c.concerns
  depth := c.depth + 1
  inContainer := true

/-- Follow a step. -/
def follow (c : Cursor) (step : Step) : Request Cursor := do
  if c.depth ≠ 0 then c.requireLive
  match step with
  | .elem index =>
    let index ← accept id index
    check .outOfRange (c.complete && decide (index < c.property.dim))
    return { c with
      place := c.place.shift (index * c.property.size)
      complete := false
      depth := c.depth + 1 }
  | step =>
    check .needElem (!c.complete || c.property.dim == 1)
    let storage := (← c.block).slots c.address
    match step, c.property.kind with
    | .elem _, _ => throw .outOfRange
    | .malformed, _ => throw .badValue
    | .field name, .struct type => c.toField type name
    | .field _, _ => throw .notStruct
    | .item index, .array element =>
      let index ← accept id index
      let address ← require .outOfRange (ArrayValue.elementAddress? element storage index)
      return c.intoContainer (.ofElement element) address
    | .item _, _ => throw .notArray
    | .key draft, .map key value =>
      let m ← scratch key draft
      let address ← require .keyNotFound (MapValue.findValue? key value storage m 0)
      return c.intoContainer (.ofValue key value) address
    | .keyAt index, .map key value =>
      let index ← accept id index
      let address ← require .outOfRange (MapValue.keyAddress? key value storage index)
      return c.intoContainer (.ofKey key) address
    | .valueAt index, .map key value =>
      let index ← accept id index
      let address ← require .outOfRange (MapValue.valueAddress? key value storage index)
      return c.intoContainer (.ofValue key value) address
    | .key _, _ | .keyAt _, _ | .valueAt _, _ => throw .notMap

/-- The value at a cursor. -/
def value (c : Cursor) : Request Value := do
  let m ← c.block
  return if c.complete then c.property.readAll m c.address else c.property.readFirst m c.address

/-- The value of the first element at a cursor. -/
def firstValue (c : Cursor) : Request Value := do
  return c.property.readFirst (← c.block) c.address

end Cursor

end PropertyReflection
