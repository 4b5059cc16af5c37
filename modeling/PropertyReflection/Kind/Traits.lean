import PropertyReflection.Kind

/-!
# What a kind says about its values

A kind is plain old data if its values can be made by zeroing memory and copied byte by byte, and
it owns something if a value has to be destroyed.  Both are found by looking through structs,
inherited properties included.  Three property flags state the outcome.

A packed boolean is not plain old data, although it owns nothing: copying its byte would overwrite
the other booleans in it.
-/

namespace PropertyReflection

mutual

/-- True if zeroed memory is a value and a copy of the bytes is a copy of the value. -/
def Kind.isPlainOldData : Kind → Bool
  | .bool mask => mask == fullMask
  | .scalar _ => true
  | .struct type => type.isPlainOldData
  | .string | .array _ | .map .. => false

/-- True if every property of the type is plain old data. -/
def TypeDescriptor.isPlainOldData : TypeDescriptor → Bool
  | { superType := none, properties := own, .. } => allPlainOldData own
  | { superType := some parent, properties := own, .. } =>
    parent.isPlainOldData && allPlainOldData own

/-- True if every property in the list is plain old data. -/
def allPlainOldData : List Property → Bool
  | [] => true
  | { kind, .. } :: rest => kind.isPlainOldData && allPlainOldData rest

end

mutual

/-- True if a value owns something that its destruction gives back. -/
def Kind.needsDestroy : Kind → Bool
  | .bool _ | .scalar _ => false
  | .struct type => type.needsDestroy
  | .string | .array _ | .map .. => true

/-- True if some property of the type owns something. -/
def TypeDescriptor.needsDestroy : TypeDescriptor → Bool
  | { superType := none, properties := own, .. } => anyNeedsDestroy own
  | { superType := some parent, properties := own, .. } =>
    parent.needsDestroy || anyNeedsDestroy own

/-- True if some property in the list owns something. -/
def anyNeedsDestroy : List Property → Bool
  | [] => false
  | { kind, .. } :: rest => kind.needsDestroy || anyNeedsDestroy rest

end

theorem allPlainOldData_eq_all (properties : List Property) :
    allPlainOldData properties = properties.all (·.kind.isPlainOldData) := by
  induction properties with
  | nil => rfl
  | cons property _ ih =>
    cases property
    simp [allPlainOldData, ih]

theorem anyNeedsDestroy_eq_any (properties : List Property) :
    anyNeedsDestroy properties = properties.any (·.kind.needsDestroy) := by
  induction properties with
  | nil => rfl
  | cons property _ ih =>
    cases property
    simp [anyNeedsDestroy, ih]

theorem TypeDescriptor.isPlainOldData_eq_all (type : TypeDescriptor) :
    type.isPlainOldData = type.allProperties.all (·.kind.isPlainOldData) := by
  match type with
  | { superType := none, .. } =>
    simp [isPlainOldData, allProperties, allPlainOldData_eq_all]
  | { superType := some parent, .. } =>
    have ih := parent.isPlainOldData_eq_all
    simp [isPlainOldData, allProperties, allPlainOldData_eq_all, ih]

theorem TypeDescriptor.needsDestroy_eq_any (type : TypeDescriptor) :
    type.needsDestroy = type.allProperties.any (·.kind.needsDestroy) := by
  match type with
  | { superType := none, .. } =>
    simp [needsDestroy, allProperties, anyNeedsDestroy_eq_any]
  | { superType := some parent, .. } =>
    have ih := parent.needsDestroy_eq_any
    simp [needsDestroy, allProperties, anyNeedsDestroy_eq_any, ih]

namespace Kind

/-- The attributes that follow from the representation. -/
def impliedFlags (kind : Kind) : PropertyFlags :=
  let construction :=
    if kind.isPlainOldData then
      PropertyFlags.isPlainOldData.union PropertyFlags.zeroConstructor
    else .none
  if kind.needsDestroy then construction else construction.union .noDestructor

end Kind

namespace Property

/-- A property whose attributes are the declared ones and those that its kind implies. -/
def ofKind (name : String) (kind : Kind) (offset dim : Nat) (declared : PropertyFlags) :
    Property where
  name := name
  offset := offset
  dim := dim
  flags := declared.union kind.impliedFlags
  kind := kind

/-- The property of a value inside a container, at a distance from the start of its slot. -/
def inner (name : String) (kind : Kind) (offset : Nat) : Property :=
  ofKind name kind offset 1 .none

/-- The elements of an array. -/
def ofElement (element : Kind) : Property := inner "Inner" element 0

/-- The keys of a map. -/
def ofKey (key : Kind) : Property := inner "Key" key 0

/-- The values of a map whose pairs begin with `key`. -/
def ofValue (key value : Kind) : Property := inner "Value" value (key.pairValueOffset value)

/-- The properties nested directly inside this one: the elements of an array, the keys and the
values of a map, the properties of a struct. -/
def innerFields (property : Property) : List Property :=
  match property.kind with
  | .array element => [ofElement element]
  | .map key value => [ofKey key, ofValue key value]
  | .struct type => type.allProperties
  | _ => []

/-- The distance between pairs and the alignment of a pair, for maps. -/
def pairLayout? (property : Property) : Option (Nat × Nat) :=
  match property.kind with
  | .map key value => some (key.pairSize value, key.pairAlign value)
  | _ => none

end Property

end PropertyReflection
