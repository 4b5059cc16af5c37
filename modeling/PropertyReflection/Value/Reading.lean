import PropertyReflection.Value.Elements

/-!
# Values as data

`Value` is what a value means, apart from where and how it is stored: `read` looks it up in memory,
struct by struct and element by element.  It is the view through which values in different places
are compared.

A boolean reads as those bits of its byte that belong to it.  Different bits can stand for the same
truth, so a comparison of meanings looks at `Value.meaning`, where every true boolean has the
same bits.

`bytes` is the other view, of memory as it is: every byte, except that a representation has none
that could be shown.
-/

namespace PropertyReflection

/-- What a value means. -/
inductive Value where
  /-- The bits of a boolean; it is true if there are any. -/
  | bool (bits : UInt8)
  /-- The bits of a scalar. -/
  | scalar (scalar : Scalar) (bits : UInt64)
  /-- A text. -/
  | text (contents : String)
  /-- The properties of a struct by name, the inherited ones first. -/
  | struct (fields : List (String × Value))
  /-- The elements of an array, or of a property with several. -/
  | list (elements : List Value)
  /-- The pairs of a map in the order in which they are stored. -/
  | map (pairs : List (Value × Value))

mutual

/-- The value with one set of bits for every true boolean in it. -/
def Value.meaning : Value → Value
  | .bool bits => .bool (if bits = 0 then 0 else 1)
  | .scalar s bits => .scalar s bits
  | .text contents => .text contents
  | .struct fields => .struct (meaningOfFields fields)
  | .list elements => .list (meaningOfList elements)
  | .map pairs => .map (meaningOfPairs pairs)

/-- The meanings of the properties of a struct. -/
def meaningOfFields : List (String × Value) → List (String × Value)
  | [] => []
  | (name, value) :: rest => (name, value.meaning) :: meaningOfFields rest

/-- The meanings of elements. -/
def meaningOfList : List Value → List Value
  | [] => []
  | value :: rest => value.meaning :: meaningOfList rest

/-- The meanings of pairs. -/
def meaningOfPairs : List (Value × Value) → List (Value × Value)
  | [] => []
  | (key, value) :: rest => (key.meaning, value.meaning) :: meaningOfPairs rest

end

/-- The value of a property from its elements: one element stands for itself, several are a list. -/
def Value.ofElements (dim : Nat) (element : Nat → Value) : Value :=
  if dim = 1 then element 0 else .list ((List.range dim).map element)

mutual

/-- The value at an address. -/
def Kind.read : Kind → Block → Nat → Value
  | .bool mask, m, a => .bool (m.boolBits a mask)
  | .scalar s, m, a => .scalar s (m.word a s.size)
  | .string, m, a => .text (m.text a)
  | .struct type, m, a => .struct (type.readFields m a)
  | .array element, m, a =>
    let storage := m.slots a
    .list ((List.range storage.count).map fun i =>
      element.read storage.cells (Elements.address 0 element.size i))
  | .map key value, m, a =>
    let storage := m.slots a
    .map ((List.range storage.count).map fun i =>
      let x := Elements.address 0 (key.pairSize value) i
      (key.read storage.cells x, value.read storage.cells (x + key.pairValueOffset value)))

/-- The properties of the instance at an address, the inherited ones first. -/
def TypeDescriptor.readFields : TypeDescriptor → Block → Nat → List (String × Value)
  | { superType := none, properties := own, .. }, m, a => readProperties own m a
  | { superType := some parent, properties := own, .. }, m, a =>
    parent.readFields m a ++ readProperties own m a

/-- The listed properties of the instance at an address. -/
def readProperties : List Property → Block → Nat → List (String × Value)
  | [], _, _ => []
  | { name, offset, dim, kind, .. } :: rest, m, a =>
    (name, Value.ofElements dim fun i =>
      kind.read m (Elements.address (a + offset) kind.size i)) :: readProperties rest m a

end

mutual

/-- The distances from the start of an element to the representations in it. -/
def Kind.handles : Kind → List Nat
  | .bool _ | .scalar _ => []
  | .string | .array _ | .map .. => [0]
  | .struct type => type.handles

/-- The distances from the start of an instance to the representations in it. -/
def TypeDescriptor.handles : TypeDescriptor → List Nat
  | { superType := none, properties := own, .. } => handlesOfProperties own
  | { superType := some parent, properties := own, .. } =>
    parent.handles ++ handlesOfProperties own

/-- The distances from the start of an instance to the representations in the listed properties. -/
def handlesOfProperties : List Property → List Nat
  | [] => []
  | { offset, dim, kind, .. } :: rest =>
    let inside := kind.handles
    ((List.range dim).flatMap fun i => inside.map (Elements.address offset kind.size i + ·))
      ++ handlesOfProperties rest

end

namespace Property

/-- The value of the first element. -/
def readFirst (property : Property) (m : Block) (address : Nat) : Value :=
  property.kind.read m address

/-- The value of all elements. -/
def readAll (property : Property) (m : Block) (address : Nat) : Value :=
  Value.ofElements property.dim fun i =>
    property.kind.read m (Elements.address address property.size i)

/-- The truth of a boolean; other properties have none. -/
def getBool? (property : Property) (m : Block) (address : Nat) : Option Bool :=
  property.fieldMask?.map (m.bool address)

/-- Write a boolean; other properties are not written. -/
def setBool? (property : Property) (m : Block) (address : Nat) (value : Bool) : Option Block :=
  property.fieldMask?.map (m.setBool address · value)

/-- The memory of `count` elements, byte by byte.  Bytes of representations have no value, and of
the byte of a boolean only its own bits are shown. -/
def bytes (property : Property) (count : Nat) (m : Block) (address : Nat) :
    List (Option UInt8) :=
  let mask := property.fieldMask?.getD 0xff
  let plain : Array (Option UInt8) :=
    ((List.range (count * property.size)).map fun i => some (m.byte (address + i) &&& mask)).toArray
  let starts := (List.range count).flatMap fun i =>
    property.kind.handles.map (Elements.address 0 property.size i + ·)
  (starts.foldl
    (fun shown start =>
      (List.range handleSize).foldl (fun shown i => shown.setIfInBounds (start + i) none) shown)
    plain).toList

end Property

/-- A struct reads as its properties, the inherited ones first. -/
theorem readProperties_eq_map (properties : List Property) (m : Block) (a : Nat) :
    readProperties properties m a =
      properties.map fun property => (property.name, property.readAll m (a + property.offset)) := by
  induction properties with
  | nil => rfl
  | cons property _ ih =>
    cases property
    simp [readProperties, ih, Property.readAll, Property.size]

theorem TypeDescriptor.readFields_eq_map (type : TypeDescriptor) (m : Block) (a : Nat) :
    type.readFields m a =
      type.allProperties.map
        fun property => (property.name, property.readAll m (a + property.offset)) := by
  match type with
  | { superType := none, .. } =>
    simp [readFields, allProperties, readProperties_eq_map]
  | { superType := some parent, .. } =>
    have ih := parent.readFields_eq_map m a
    simp [readFields, allProperties, readProperties_eq_map, ih]

/-- The representations in the listed properties are those in their elements. -/
theorem mem_handlesOfProperties_iff {properties : List Property} {h : Nat} :
    h ∈ handlesOfProperties properties ↔ ∃ property ∈ properties, ∃ i < property.dim,
      ∃ inside ∈ property.kind.handles,
        Elements.address property.offset property.size i + inside = h := by
  induction properties with
  | nil => simp [handlesOfProperties]
  | cons property _ ih =>
    cases property
    simp [handlesOfProperties, ih, Property.size]

/-- The representations in an instance are those in the elements of its properties. -/
theorem TypeDescriptor.mem_handles_iff {type : TypeDescriptor} {h : Nat} :
    h ∈ type.handles ↔ ∃ property ∈ type.allProperties, ∃ i < property.dim,
      ∃ inside ∈ property.kind.handles,
        Elements.address property.offset property.size i + inside = h := by
  match type with
  | { superType := none, .. } =>
    simp [handles, allProperties, mem_handlesOfProperties_iff]
  | { superType := some parent, .. } =>
    have ih := parent.mem_handles_iff (h := h)
    simp [handles, allProperties, mem_handlesOfProperties_iff, ih, or_and_right, exists_or]

end PropertyReflection
