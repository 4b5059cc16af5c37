import PropertyReflection.Value.Elements

/-!
# Identity of values

Two values of one kind are identical if they mean the same: equal numbers, truth values and texts,
identical properties of structs, identical elements of arrays in the same order.  Since a NaN equals
no number, a value that contains one is not identical to a copy of itself.

Two maps are identical if they have equally many pairs and every pair of the first has an identical
key in the second with an identical value.  The order of the pairs does not matter, and because the
keys of a map are pairwise different, neither does it matter which map is searched.

A value at the same address as another is that other value and identical to it without a look at
its contents; as with copies, this is for the caller to find out.
-/

namespace PropertyReflection

mutual

/-- Value equality. -/
def Kind.identical : Kind → Block → Nat → Block → Nat → Bool
  | .bool mask, m, a, n, b => m.bool a mask == n.bool b mask
  | .scalar s, m, a, n, b => s.same (m.word a s.size) (n.word b s.size)
  | .string, m, a, n, b => m.text a == n.text b
  | .struct type, m, a, n, b => type.identicalFields m a n b
  | .array element, m, a, n, b =>
    let left := m.slots a
    let right := n.slots b
    left.count == right.count
      && Elements.all left.count element.size
        (fun x y => element.identical left.cells x right.cells y) 0 0
  | .map key value, m, a, n, b =>
    let left := m.slots a
    let right := n.slots b
    let stride := key.pairSize value
    let valueOffset := key.pairValueOffset value
    left.count == right.count
      && (List.range left.count).all fun i =>
        let x := Elements.address 0 stride i
        match (List.range right.count).find? (fun j =>
            key.identical right.cells (Elements.address 0 stride j) left.cells x) with
        | some j =>
          value.identical left.cells (x + valueOffset)
            right.cells (Elements.address 0 stride j + valueOffset)
        | none => false

/-- True if all properties of two instances are identical. -/
def TypeDescriptor.identicalFields : TypeDescriptor → Block → Nat → Block → Nat → Bool
  | { superType := none, properties := own, .. }, m, a, n, b => identicalProperties own m a n b
  | { superType := some parent, properties := own, .. }, m, a, n, b =>
    parent.identicalFields m a n b && identicalProperties own m a n b

/-- True if every listed property is identical in two instances. -/
def identicalProperties : List Property → Block → Nat → Block → Nat → Bool
  | [], _, _, _, _ => true
  | { offset, dim, kind, .. } :: rest, m, a, n, b =>
    Elements.all dim kind.size (fun x y => kind.identical m x n y) (a + offset) (b + offset)
      && identicalProperties rest m a n b

end

namespace Property

/-- Value equality of the first elements. -/
def identicalFirst (property : Property) (m : Block) (a : Nat) (n : Block) (b : Nat) : Bool :=
  property.kind.identical m a n b

/-- Value equality of all elements. -/
def identicalAll (property : Property) (m : Block) (a : Nat) (n : Block) (b : Nat) : Bool :=
  Elements.all property.dim property.size (fun x y => property.kind.identical m x n y) a b

end Property

/-- The index of the first pair whose key is identical to the one at an address. -/
def findPair? (key value : Kind) (pairs : Slots Cell) (m : Block) (a : Nat) : Option Nat :=
  (List.range pairs.count).find? fun j =>
    key.identical pairs.cells (Elements.address 0 (key.pairSize value) j) m a

theorem identicalProperties_eq_all (properties : List Property) (m : Block) (a : Nat) (n : Block)
    (b : Nat) :
    identicalProperties properties m a n b =
      properties.all fun property =>
        property.identicalAll m (a + property.offset) n (b + property.offset) := by
  induction properties with
  | nil => rfl
  | cons property _ ih =>
    cases property
    simp [identicalProperties, ih, Property.identicalAll, Property.size]

theorem TypeDescriptor.identicalFields_eq_all (type : TypeDescriptor) (m : Block) (a : Nat)
    (n : Block) (b : Nat) :
    type.identicalFields m a n b =
      type.allProperties.all fun property =>
        property.identicalAll m (a + property.offset) n (b + property.offset) := by
  match type with
  | { superType := none, .. } =>
    simp [identicalFields, allProperties, identicalProperties_eq_all]
  | { superType := some parent, .. } =>
    have ih := parent.identicalFields_eq_all m a n b
    simp [identicalFields, allProperties, identicalProperties_eq_all, ih]

end PropertyReflection
