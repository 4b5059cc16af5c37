import PropertyReflection.Value.Lifetime

/-!
# Copies of values

A copy is deep: the destination gets storage of its own for every text, array and map, and whatever
it held there before is given back.  Both values have to be live, and they lie at different
addresses; a value copied onto itself is left as it is, which is for the caller to find out,
because blocks alone do not tell addresses apart.

An array or map is cleared and built again with one slot for each element of the source.  The
allocation of these slots is the one step that can fail.
-/

namespace PropertyReflection

mutual

/-- Copy one value over another of the same kind. -/
def Kind.copy : Kind → Block → Nat → Block → Nat → Except StorageFault Block
  | .bool mask, m, a, source, b => .ok (m.setBool a mask (source.bool b mask))
  | .scalar s, m, a, source, b => .ok (m.setWord a (source.word b s.size) s.size)
  | .string, m, a, source, b => .ok (m.setCell a (.text (source.text b)))
  | .struct type, m, a, source, b => type.copyFields m a source b
  | .array element, m, a, source, b => do
    let origin := source.slots b
    let target ← (m.slots a).release.extend default origin.count element.size element.align
    let cells ← Elements.updateFrom origin.count element.size
      (fun cells x y => element.copy (element.construct cells x) x origin.cells y)
      target.cells 0 0
    return m.setCell a (.slots { target with cells := cells })
  | .map key value, m, a, source, b => do
    let origin := source.slots b
    let stride := key.pairSize value
    let valueOffset := key.pairValueOffset value
    let target ← (m.slots a).release.extend default origin.count stride (key.pairAlign value)
    let cells ← Elements.updateFrom origin.count stride
      (fun cells x y => do
        let cells ← key.copy (key.construct cells x) x origin.cells y
        value.copy (value.construct cells (x + valueOffset)) (x + valueOffset)
          origin.cells (y + valueOffset))
      target.cells 0 0
    return m.setCell a (.slots { target with cells := cells })

/-- Copy the properties of one instance over those of another, the inherited ones first. -/
def TypeDescriptor.copyFields :
    TypeDescriptor → Block → Nat → Block → Nat → Except StorageFault Block
  | { superType := none, properties := own, .. }, m, a, source, b =>
    copyProperties own m a source b
  | { superType := some parent, properties := own, .. }, m, a, source, b => do
    copyProperties own (← parent.copyFields m a source b) a source b

/-- Copy every listed property from the instance at `b` to the instance at `a`. -/
def copyProperties : List Property → Block → Nat → Block → Nat → Except StorageFault Block
  | [], m, _, _, _ => .ok m
  | { offset, dim, kind, .. } :: rest, m, a, source, b => do
    let m ← Elements.updateFrom dim kind.size (fun m x y => kind.copy m x source y) m
      (a + offset) (b + offset)
    copyProperties rest m a source b

end

namespace Property

/-- Copy the first element. -/
def copyFirst (property : Property) (m : Block) (a : Nat) (source : Block) (b : Nat) :
    Except StorageFault Block :=
  property.kind.copy m a source b

/-- Copy all elements, first to last. -/
def copyAll (property : Property) (m : Block) (a : Nat) (source : Block) (b : Nat) :
    Except StorageFault Block :=
  Elements.updateFrom property.dim property.size
    (fun m x y => property.kind.copy m x source y) m a b

end Property

theorem copyProperties_eq_foldlM (properties : List Property) (m : Block) (a : Nat)
    (source : Block) (b : Nat) :
    copyProperties properties m a source b =
      properties.foldlM
        (fun m property => property.copyAll m (a + property.offset) source (b + property.offset))
        m := by
  induction properties generalizing m with
  | nil => rfl
  | cons property _ ih =>
    cases property
    simp [copyProperties, ih, Property.copyAll, Property.size]

theorem TypeDescriptor.copyFields_eq_foldlM (type : TypeDescriptor) (m : Block) (a : Nat)
    (source : Block) (b : Nat) :
    type.copyFields m a source b =
      type.allProperties.foldlM
        (fun m property => property.copyAll m (a + property.offset) source (b + property.offset))
        m := by
  match type with
  | { superType := none, .. } =>
    simp [copyFields, allProperties, copyProperties_eq_foldlM]
  | { superType := some parent, .. } =>
    have ih := parent.copyFields_eq_foldlM m a source b
    simp [copyFields, allProperties, copyProperties_eq_foldlM, ih]

end PropertyReflection
