import PropertyReflection.Value.Elements

/-!
# Construction and destruction of values

`construct` makes a default value in memory that holds none: false, zero, the empty text, the empty
array or map.  A struct is zeroed as a whole, its padding included, before its properties are
constructed one by one; every other kind writes only what belongs to it, so that a packed boolean
leaves the other bits of its byte alone.

`destroy` gives back what a value owns and leaves its place in the block as it is.  The storage of
a container is the only way to its elements, so what they own goes with it.
-/

namespace PropertyReflection

mutual

/-- Make a default value at an address. -/
def Kind.construct : Kind → Block → Nat → Block
  | .bool mask, m, a => m.setBool a mask false
  | .scalar s, m, a => m.setWord a 0 s.size
  | .string, m, a => m.placeHandle a (.text "")
  | .struct type, m, a => type.constructFields (m.clear a type.size) a
  | .array _, m, a | .map .., m, a => m.placeHandle a (.slots .empty)

/-- Construct the properties of an instance, the inherited ones first. -/
def TypeDescriptor.constructFields : TypeDescriptor → Block → Nat → Block
  | { superType := none, properties := own, .. }, m, a => constructProperties own m a
  | { superType := some parent, properties := own, .. }, m, a =>
    constructProperties own (parent.constructFields m a) a

/-- Construct every listed property of the instance at an address. -/
def constructProperties : List Property → Block → Nat → Block
  | [], m, _ => m
  | { offset, dim, kind, .. } :: rest, m, a =>
    constructProperties rest
      (Elements.update dim kind.size (fun m x => kind.construct m x) m (a + offset)) a

end

mutual

/-- Give back what the value at an address owns. -/
def Kind.destroy : Kind → Block → Nat → Block
  | .bool _, m, _ | .scalar _, m, _ => m
  | .string, m, a => m.setCell a .sealed
  | .struct type, m, a => type.destroyFields m a
  | .array _, m, a | .map .., m, a => m.modifySlots a Slots.release

/-- Destroy the properties of an instance, the inherited ones first. -/
def TypeDescriptor.destroyFields : TypeDescriptor → Block → Nat → Block
  | { superType := none, properties := own, .. }, m, a => destroyProperties own m a
  | { superType := some parent, properties := own, .. }, m, a =>
    destroyProperties own (parent.destroyFields m a) a

/-- Destroy every listed property of the instance at an address. -/
def destroyProperties : List Property → Block → Nat → Block
  | [], m, _ => m
  | { offset, dim, kind, .. } :: rest, m, a =>
    destroyProperties rest
      (Elements.update dim kind.size (fun m x => kind.destroy m x) m (a + offset)) a

end

namespace Property

/-- Make default values of all elements, the first of which is at an address. -/
def construct (property : Property) (m : Block) (address : Nat) : Block :=
  Elements.update property.dim property.size property.kind.construct m address

/-- Destroy all elements, the first of which is at an address. -/
def destroy (property : Property) (m : Block) (address : Nat) : Block :=
  Elements.update property.dim property.size property.kind.destroy m address

/-- Construct the property inside the instance at an address. -/
def constructIn (property : Property) (m : Block) (container : Nat) : Block :=
  property.construct m (container + property.offset)

/-- Destroy the property inside the instance at an address. -/
def destroyIn (property : Property) (m : Block) (container : Nat) : Block :=
  property.destroy m (container + property.offset)

end Property

theorem constructProperties_eq_foldl (properties : List Property) (m : Block) (a : Nat) :
    constructProperties properties m a =
      properties.foldl (fun m property => property.constructIn m a) m := by
  induction properties generalizing m with
  | nil => rfl
  | cons property _ ih =>
    cases property
    simp [constructProperties, ih, Property.constructIn, Property.construct, Property.size]

theorem destroyProperties_eq_foldl (properties : List Property) (m : Block) (a : Nat) :
    destroyProperties properties m a =
      properties.foldl (fun m property => property.destroyIn m a) m := by
  induction properties generalizing m with
  | nil => rfl
  | cons property _ ih =>
    cases property
    simp [destroyProperties, ih, Property.destroyIn, Property.destroy, Property.size]

theorem TypeDescriptor.constructFields_eq_foldl (type : TypeDescriptor) (m : Block) (a : Nat) :
    type.constructFields m a =
      type.allProperties.foldl (fun m property => property.constructIn m a) m := by
  match type with
  | { superType := none, .. } =>
    simp [constructFields, allProperties, constructProperties_eq_foldl]
  | { superType := some parent, .. } =>
    have ih := parent.constructFields_eq_foldl m a
    simp [constructFields, allProperties, constructProperties_eq_foldl, ih]

theorem TypeDescriptor.destroyFields_eq_foldl (type : TypeDescriptor) (m : Block) (a : Nat) :
    type.destroyFields m a =
      type.allProperties.foldl (fun m property => property.destroyIn m a) m := by
  match type with
  | { superType := none, .. } =>
    simp [destroyFields, allProperties, destroyProperties_eq_foldl]
  | { superType := some parent, .. } =>
    have ih := parent.destroyFields_eq_foldl m a
    simp [destroyFields, allProperties, destroyProperties_eq_foldl, ih]

end PropertyReflection
