import PropertyReflection.Layout.Build

/-!
# Descriptions that can be made

Kinds and descriptors are plain data, and most of that data describes nothing: a descriptor can
claim any size, and its properties any offsets.  `Kind.Made` and `TypeDescriptor.Built` single out
what the constructors of kinds and `TypeDescriptor.build` give, parents and nested structs
included.  `Property.Described` are the properties in such descriptions, at any depth.
`Kind.inductionOn` is the induction on all kinds, made or not: a struct is reached through all its
properties, the inherited ones among them.  `TypeDescriptor.Built.lineInduction` goes up the line of
parents only.
-/

namespace PropertyReflection

mutual

/-- The kinds that the constructors make.  The element of an array, the key and the value of a map
get a byte of their own if they are booleans. -/
inductive Kind.Made : Kind → Prop where
  | bool (mask : UInt8) : Kind.Made (.bool mask)
  | scalar (s : Scalar) : Kind.Made (.scalar s)
  | string : Kind.Made .string
  | struct {type : TypeDescriptor} (built : type.Built) : Kind.Made (.struct type)
  | array {element : Kind} (made : element.Made) : Kind.Made (.arrayOf element)
  | map {key value : Kind} (keyMade : key.Made) (valueMade : value.Made) :
    Kind.Made (.mapOf key value)

/-- The types that can be built.  The parent was built itself, and the declared kinds were made. -/
inductive TypeDescriptor.Built : TypeDescriptor → Prop where
  | build {serial : Nat} {name : String} {parent : Option TypeDescriptor}
    {specs : List PropertySpec} {type : TypeDescriptor}
    (parentBuilt : ∀ t, parent = some t → t.Built)
    (specsMade : ∀ spec ∈ specs, ∀ kind, spec.body = .field kind → kind.Made)
    (ok : TypeDescriptor.build serial name parent specs = .ok type) : TypeDescriptor.Built type

end

/-- The properties that descriptions consist of: those of the types that can be built, and what is
nested in such a property, step by step. -/
inductive Property.Described : Property → Prop where
  | declared {type : TypeDescriptor} (built : type.Built) {property : Property}
    (mem : property ∈ type.allProperties) : Property.Described property
  | nested {outer : Property} (described : outer.Described) {property : Property}
    (mem : property ∈ outer.innerFields) : Property.Described property

/-- Induction on the line of a built type: what a type has if its parent has it, all types have. -/
@[elab_as_elim]
theorem TypeDescriptor.Built.lineInduction {motive : (type : TypeDescriptor) → type.Built → Prop}
    (build : ∀ {serial : Nat} {name : String} {parent : Option TypeDescriptor}
      {specs : List PropertySpec} {type : TypeDescriptor}
      (parentBuilt : ∀ t, parent = some t → t.Built)
      (specsMade : ∀ spec ∈ specs, ∀ kind, spec.body = .field kind → kind.Made)
      (ok : TypeDescriptor.build serial name parent specs = .ok type),
      (∀ t ht, motive t (parentBuilt t ht)) → motive type (.build parentBuilt specsMade ok)) :
    ∀ {type : TypeDescriptor} (built : type.Built), motive type built
  | _, .build parentBuilt specsMade ok =>
    build parentBuilt specsMade ok fun t ht => lineInduction build (parentBuilt t ht)

/-- Induction on kinds.  A struct consists of the kinds of all its properties. -/
@[elab_as_elim]
theorem Kind.inductionOn {motive : Kind → Prop} (kind : Kind)
    (bool : ∀ mask, motive (.bool mask))
    (scalar : ∀ s, motive (.scalar s))
    (string : motive .string)
    (struct : ∀ type : TypeDescriptor,
      (∀ property ∈ type.allProperties, motive property.kind) → motive (.struct type))
    (array : ∀ element, motive element → motive (.array element))
    (map : ∀ key value, motive key → motive value → motive (.map key value)) :
    motive kind := by
  refine @Kind.rec motive (fun property => motive property.kind)
    (fun type => ∀ property ∈ type.allProperties, motive property.kind)
    (fun parent => ∀ type, parent = some type → ∀ property ∈ type.allProperties,
      motive property.kind)
    (fun properties => ∀ property ∈ properties, motive property.kind)
    bool scalar string struct array map ?property ?type ?none ?some ?nil ?cons kind
  case property =>
    intro _ _ _ _ _ h
    exact h
  case type =>
    intro serial name size align parent own hparent hown property hmem
    rw [TypeDescriptor.allProperties_eq] at hmem
    rcases List.mem_append.mp hmem with h | h
    · cases parent with
      | none => simp at h
      | some type => exact hparent type rfl property h
    · exact hown property h
  case none => simp
  case some =>
    rintro type h _ ⟨rfl⟩
    exact h
  case nil => simp
  case cons =>
    intro property rest h hrest other hmem
    rcases List.mem_cons.mp hmem with rfl | hmem
    · exact h
    · exact hrest other hmem

end PropertyReflection
