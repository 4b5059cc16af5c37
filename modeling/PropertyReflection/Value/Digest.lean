import PropertyReflection.Value.Elements

/-!
# Hashes of values

The hash of a value depends on what the value means and on nothing else, so that identical values
have equal hashes.  Properties and array elements are mixed in order.  The pairs of a map are
hashed one by one and added up, because their order means nothing.
-/

namespace PropertyReflection

/-- The hash of a text is that of its bytes. -/
def hashText (text : String) : UInt32 := hashBytes text.toUTF8.toList

mutual

/-- The hash of the value at an address. -/
def Kind.hash : Kind → Block → Nat → UInt32
  | .bool mask, m, a => if m.bool a mask then 1 else 0
  | .scalar s, m, a => s.hash (m.word a s.size)
  | .string, m, a => hashText (m.text a)
  | .struct type, m, a => type.hashFields m a
  | .array element, m, a =>
    let storage := m.slots a
    Elements.hash storage.count element.size (fun x => element.hash storage.cells x)
      (UInt32.ofNat storage.count) 0
  | .map key value, m, a =>
    let storage := m.slots a
    let valueOffset := key.pairValueOffset value
    let sum := (List.range storage.count).foldl
      (fun sum i =>
        let x := Elements.address 0 (key.pairSize value) i
        sum + hashCombine (key.hash storage.cells x)
          (value.hash storage.cells (x + valueOffset)))
      0
    hashCombine (UInt32.ofNat storage.count) sum

/-- The hash of the properties of an instance, the inherited ones first. -/
def TypeDescriptor.hashFields : TypeDescriptor → Block → Nat → UInt32
  | { superType := none, properties := own, .. }, m, a => hashProperties own 0 m a
  | { superType := some parent, properties := own, .. }, m, a =>
    hashProperties own (parent.hashFields m a) m a

/-- Mix the hash of every listed property of an instance into `seed`. -/
def hashProperties : List Property → UInt32 → Block → Nat → UInt32
  | [], seed, _, _ => seed
  | { offset, dim, kind, .. } :: rest, seed, m, a =>
    hashProperties rest
      (hashCombine seed (Elements.hashAll dim kind.size (fun x => kind.hash m x) (a + offset)))
      m a

end

namespace Property

/-- The hash of the first element. -/
def hashFirst (property : Property) (m : Block) (address : Nat) : UInt32 :=
  property.kind.hash m address

/-- The hash of all elements. -/
def hashAll (property : Property) (m : Block) (address : Nat) : UInt32 :=
  Elements.hashAll property.dim property.size (property.kind.hash m) address

end Property

theorem hashProperties_eq_foldl (properties : List Property) (seed : UInt32) (m : Block) (a : Nat) :
    hashProperties properties seed m a =
      properties.foldl
        (fun seed property => hashCombine seed (property.hashAll m (a + property.offset)))
        seed := by
  induction properties generalizing seed with
  | nil => rfl
  | cons property _ ih =>
    cases property
    simp [hashProperties, ih, Property.hashAll, Property.size]

theorem TypeDescriptor.hashFields_eq_foldl (type : TypeDescriptor) (m : Block) (a : Nat) :
    type.hashFields m a =
      type.allProperties.foldl
        (fun seed property => hashCombine seed (property.hashAll m (a + property.offset))) 0 := by
  match type with
  | { superType := none, .. } =>
    simp [hashFields, allProperties, hashProperties_eq_foldl]
  | { superType := some parent, .. } =>
    have ih := parent.hashFields_eq_foldl m a
    simp [hashFields, allProperties, hashProperties_eq_foldl, ih]

end PropertyReflection
