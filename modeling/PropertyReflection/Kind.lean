import PropertyReflection.Flags
import PropertyReflection.Machine
import PropertyReflection.Scalar

/-!
# Kinds, properties and type descriptors

A kind is the representation of a value: a boolean in some bits of a byte, a scalar, a text, a
struct laid out in place, an array or a map.  A property places values of a kind inside an
instance, and a type descriptor lists the properties of a struct.  The three are declared
together, because a kind may be a struct and a struct consists of properties.

Texts, arrays and maps live outside the instance; what lies in it is a representation of fixed
size through which they are reached.

Descriptors with equal contents are still different descriptors if they were built separately.
The `serial` of a descriptor is its identity: whoever builds descriptors gives each its own.
-/

namespace PropertyReflection

mutual

/-- The representation of a value. -/
inductive Kind where
  /-- A truth value in the bits of one byte that `mask` selects. -/
  | bool (mask : UInt8)
  /-- A number or an object reference. -/
  | scalar (scalar : Scalar)
  /-- An owned text. -/
  | string
  /-- A struct, laid out in place. -/
  | struct (type : TypeDescriptor)
  /-- A growable sequence of values of one kind. -/
  | array (element : Kind)
  /-- A growable sequence of pairs, no two of which have identical keys. -/
  | map (key value : Kind)

/-- A place for values inside an instance. -/
structure Property where
  /-- The name, unique among the properties of a type and the types it extends. -/
  name : String
  /-- The distance in bytes from the start of the instance to the first element. -/
  offset : Nat
  /-- The number of elements, which lie in place one after the other. -/
  dim : Nat
  /-- The declared attributes together with those that follow from the kind. -/
  flags : PropertyFlags
  /-- The representation of one element. -/
  kind : Kind

/-- The layout of a struct. -/
structure TypeDescriptor where
  /-- The identity of this descriptor. -/
  serial : Nat
  /-- The name of the type. -/
  name : String
  /-- The size of an instance in bytes, inherited properties and padding included. -/
  size : Nat
  /-- The alignment of an instance. -/
  align : Nat
  /-- The type whose layout this one begins with. -/
  superType : Option TypeDescriptor
  /-- The properties that this type declares itself, in order of declaration. -/
  properties : List Property

end

/-- The mask of a boolean that has its byte to itself. -/
def fullMask : UInt8 := 0xff

/-- The size of the in-place representation of a text, an array or a map. -/
def handleSize : Nat := 24

/-- The alignment of such a representation. -/
def handleAlign : Nat := 8

namespace Kind

/-- A boolean that has its byte to itself. -/
def nativeBool : Kind := .bool fullMask

/-- The size of one element in bytes. -/
def size : Kind → Nat
  | .bool _ => 1
  | .scalar s => s.size
  | .struct type => type.size
  | .string | .array _ | .map .. => handleSize

/-- The alignment of an element. -/
def align : Kind → Nat
  | .bool _ => 1
  | .scalar s => s.size
  | .struct type => type.align
  | .string | .array _ | .map .. => handleAlign

/-- The name in diagnostics. -/
def name : Kind → String
  | .bool mask => if mask = fullMask then "bool" else "bitfield"
  | .scalar s => s.name
  | .string => "string"
  | .struct _ => "struct"
  | .array _ => "array"
  | .map .. => "map"

/-- Inside a container a value has its bytes to itself, so a boolean without bits becomes one with
all of them. -/
def unpacked : Kind → Kind
  | .bool mask => if mask = 0 then nativeBool else .bool mask
  | kind => kind

/-- The kind of arrays of `element`. -/
def arrayOf (element : Kind) : Kind := .array element.unpacked

/-- The kind of maps from `key` to `value`. -/
def mapOf (key value : Kind) : Kind := .map key.unpacked value.unpacked

/-- Where the value of a pair lies; the key lies at the start. -/
def pairValueOffset (key value : Kind) : Nat := alignUp key.size value.align

/-- The alignment of a pair. -/
def pairAlign (key value : Kind) : Nat := max key.align value.align

/-- The distance between one pair and the next. -/
def pairSize (key value : Kind) : Nat :=
  alignUp (pairValueOffset key value + value.size) (pairAlign key value)

@[simp] theorem size_unpacked (kind : Kind) : kind.unpacked.size = kind.size := by
  unfold unpacked
  split
  · split <;> rfl
  · rfl

@[simp] theorem align_unpacked (kind : Kind) : kind.unpacked.align = kind.align := by
  unfold unpacked
  split
  · split <;> rfl
  · rfl

end Kind

namespace Property

/-- The size of one element in bytes. -/
def size (property : Property) : Nat := property.kind.size

/-- The alignment of the first element, and so of every element. -/
def align (property : Property) : Nat := property.kind.align

/-- The size of all elements in bytes. -/
def totalSize (property : Property) : Nat := property.size * property.dim

/-- The bits of the storage byte that belong to the property, if it is a boolean. -/
def fieldMask? (property : Property) : Option UInt8 :=
  match property.kind with
  | .bool mask => some mask
  | _ => none

/-- The type of the elements, if they are structs. -/
def structType? (property : Property) : Option TypeDescriptor :=
  match property.kind with
  | .struct type => some type
  | _ => none

end Property

namespace TypeDescriptor

/-- Every property of an instance, the inherited ones first. -/
def allProperties : TypeDescriptor → List Property
  | { superType := none, properties := own, .. } => own
  | { superType := some parent, properties := own, .. } => parent.allProperties ++ own

/-- The types whose layouts this one begins with, its own first. -/
def lineage : TypeDescriptor → List TypeDescriptor
  | type@{ superType := none, .. } => [type]
  | type@{ superType := some parent, .. } => type :: parent.lineage

/-- The property called `name`, looked for among the own properties first and then up the line of
parents. -/
def find? : TypeDescriptor → String → Option Property
  | { superType := none, properties := own, .. }, name => own.find? (·.name == name)
  | { superType := some parent, properties := own, .. }, name =>
    (own.find? (·.name == name)).or (parent.find? name)

/-- True if `type` is `other` or extends it.  Descriptors are told apart by their identity. -/
def isChildOf : TypeDescriptor → TypeDescriptor → Bool
  | { serial := serial, superType := none, .. }, other => serial == other.serial
  | { serial := serial, superType := some parent, .. }, other =>
    serial == other.serial || parent.isChildOf other

theorem allProperties_eq (type : TypeDescriptor) :
    type.allProperties =
      (type.superType.elim [] TypeDescriptor.allProperties) ++ type.properties := by
  obtain ⟨_, _, _, _, _ | _, _⟩ := type <;> simp [allProperties]

theorem find?_eq (type : TypeDescriptor) (name : String) :
    type.find? name =
      (type.properties.find? (·.name == name)).or (type.superType.bind (·.find? name)) := by
  obtain ⟨_, _, _, _, _ | _, _⟩ := type <;> simp [find?]

/-- A type is a child of exactly the types on its line, compared by identity. -/
theorem isChildOf_iff (type other : TypeDescriptor) :
    type.isChildOf other = true ↔ ∃ t ∈ type.lineage, t.serial = other.serial := by
  match type with
  | { superType := none, .. } => simp [isChildOf, lineage]
  | { superType := some parent, .. } =>
    have ih := isChildOf_iff parent other
    simp [isChildOf, lineage, ih]

end TypeDescriptor

end PropertyReflection
