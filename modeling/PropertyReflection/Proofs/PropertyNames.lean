import Mathlib
import PropertyReflection.Bridge.Calls
import PropertyReflection.Proofs.LayoutRuns
import PropertyReflection.Proofs.ReportedExtents

/-!
# Properties and their names

A property is found by its name and by nothing else, and no two properties of a built type have the
same name, however long the line of parents is.  So the lookups by name agree with the list of
properties, although they go through the types in opposite directions: the list begins with the
root of the line, and a lookup looks at the own properties first.

Hosts give names as bytes up to a zero.  Bytes that are no text are the name of no property.

### Outline

* `TypeDescriptor.Built.names_nodup`, by induction on the line of a type, with
  `TypeDescriptor.placeAll_invariant` for its own properties;
* `TypeDescriptor.Built.find?_eq_some_iff` and `TypeDescriptor.Built.resolve?_eq_some_iff`, lookups
  as membership in the list of properties;
* `lookups_exact`, for the four lookups that a host can call.
-/

namespace PropertyReflection

namespace Text

/-- The bytes of a text. -/
def bytes (text : String) : List UInt8 := text.toUTF8.data.toList

/-- Bytes are a text exactly if they are the bytes of this text. -/
theorem ofBytes?_eq_some_iff {name : List UInt8} {text : String} :
    ofBytes? name = some text ↔ bytes text = name := by
  unfold ofBytes? bytes
  constructor
  · intro h
    unfold String.fromUTF8? at h
    split at h
    · cases h
      rfl
    · exact absurd h (by simp)
  · rintro rfl
    have hvalid : (ByteArray.mk text.toUTF8.data.toList.toArray).IsValidUTF8 := text.isValidUTF8
    rw [String.fromUTF8?, dif_pos hvalid]
    rfl

/-- Texts are told apart by their bytes. -/
theorem bytes_injective {s t : String} (h : bytes s = bytes t) : s = t :=
  Option.some.inj ((ofBytes?_eq_some_iff.mpr h).symm.trans (ofBytes?_eq_some_iff.mpr rfl))

end Text

/-- A placed property has the name of its declaration. -/
theorem Placement.name_of_place {p q : Placement} {spec : PropertySpec} {x : Property}
    (ok : p.place spec = .ok (q, x)) : x.name = spec.name := by
  rcases place_ok ok with ⟨-, hbit⟩ | ⟨kind, -, hfield⟩
  · obtain ⟨_, _, -, -, -, -, rfl⟩ := placeBitfield_ok hbit
    rfl
  · obtain ⟨_, _, -, -, -, -, -, rfl⟩ := placeField_ok hfield
    rfl

namespace TypeDescriptor

variable {type parent : TypeDescriptor} {name : String} {p : Property}

/-! ### Lookups and lists -/

/-- Nothing is found under a name that no property has. -/
theorem find?_eq_none_iff (type : TypeDescriptor) (name : String) :
    type.find? name = none ↔ ∀ p ∈ type.allProperties, p.name ≠ name := by
  match type with
  | { superType := none, .. } => simp [find?, allProperties]
  | { superType := some parent, .. } =>
    rw [find?, allProperties, Option.or_eq_none_iff, parent.find?_eq_none_iff name]
    simp only [List.find?_eq_none, beq_iff_eq, List.mem_append]
    constructor
    · rintro ⟨hown, hparent⟩ p (hp | hp)
      · exact hparent p hp
      · exact hown p hp
    · intro h
      exact ⟨fun p hp => h p (Or.inr hp), fun p hp => h p (Or.inl hp)⟩

/-- What is found under a name has the name. -/
theorem name_of_find? (type : TypeDescriptor) {name : String} {p : Property}
    (h : type.find? name = some p) : p.name = name := by
  match type with
  | { superType := none, .. } =>
    rw [find?] at h
    simpa using List.find?_some h
  | { superType := some parent, .. } =>
    rw [find?, Option.or_eq_some_iff] at h
    rcases h with hown | ⟨-, hparent⟩
    · simpa using List.find?_some hown
    · exact parent.name_of_find? hparent

/-- A name is inherited exactly if a property of the parent has it. -/
theorem inherits_eq_false_iff {parent : Option TypeDescriptor} :
    inherits parent name = false ↔
      ∀ t, parent = some t → ∀ p ∈ t.allProperties, p.name ≠ name := by
  cases parent with
  | none => simp [inherits]
  | some t =>
    rw [inherits, Option.bind_some, Option.isSome_eq_false_iff, Option.isNone_iff_eq_none,
      t.find?_eq_none_iff]
    simp

/-! ### Names are unique -/

/-- A type has no name twice if its parent does not: declarations are refused for names that are
inherited or taken. -/
theorem names_nodup_of_build {serial : Nat} {parent : Option TypeDescriptor}
    {specs : List PropertySpec}
    (hparent : ∀ t, parent = some t → (t.allProperties.map (·.name)).Nodup)
    (ok : build serial name parent specs = .ok type) :
    (type.allProperties.map (·.name)).Nodup := by
  obtain ⟨q, hplace, -, -, hsuper⟩ := build_ok ok
  have hown : (type.properties.map (·.name)).Nodup ∧
      ∀ x ∈ type.properties, inherits parent x.name = false := by
    refine placeAll_invariant (fun _ placed => (placed.map (·.name)).Nodup ∧
      ∀ x ∈ placed, inherits parent x.name = false) ?_ ⟨by simp, by simp⟩ hplace
    intro spec _ p placed ⟨hnodup, hnew⟩ hadmits q x hx
    have hname := Placement.name_of_place hx
    constructor
    · rw [List.map_append, List.nodup_append]
      refine ⟨hnodup, List.nodup_singleton _, ?_⟩
      rintro _ hmem other hother rfl
      obtain ⟨y, hy, heq⟩ := List.mem_map.mp hmem
      rw [List.map_singleton, List.mem_singleton] at hother
      exact hadmits.notPlaced y hy (by rw [heq, hother, hname])
    · intro y hy
      rcases List.mem_append.mp hy with hy | hy
      · exact hnew y hy
      · rw [List.mem_singleton.mp hy, hname]
        exact hadmits.notInherited
  rw [allProperties_eq, hsuper, List.map_append, List.nodup_append]
  cases parent with
  | none => exact ⟨List.nodup_nil, hown.1, by simp⟩
  | some t =>
    refine ⟨hparent t rfl, hown.1, ?_⟩
    rintro _ hinherited _ hmem rfl
    obtain ⟨x, hx, hxname⟩ := List.mem_map.mp hmem
    obtain ⟨y, hy, hyname⟩ := List.mem_map.mp hinherited
    exact inherits_eq_false_iff.mp (hown.2 x hx) t rfl y hy (hyname.trans hxname.symm)

/-- No two properties of a built type have the same name. -/
theorem Built.names_nodup (built : type.Built) : (type.allProperties.map (·.name)).Nodup := by
  induction built using lineInduction with
  | build _ _ ok ih => exact names_nodup_of_build ih ok

/-- A name finds the property that has it. -/
theorem Built.find?_eq_some_iff (built : type.Built) :
    type.find? name = some p ↔ p ∈ type.allProperties ∧ p.name = name := by
  constructor
  · intro h
    exact ⟨type.mem_of_find? h, type.name_of_find? h⟩
  · rintro ⟨hmem, hname⟩
    cases hfind : type.find? name with
    | none => exact absurd hname ((type.find?_eq_none_iff name).mp hfind p hmem)
    | some q =>
      have hsame : q.name = p.name := (type.name_of_find? hfind).trans hname.symm
      rw [List.inj_on_of_nodup_map built.names_nodup (type.mem_of_find? hfind) hmem hsame]

/-- Bytes find the property whose name consists of them. -/
theorem Built.resolve?_eq_some_iff (built : type.Built) {name : List UInt8} :
    type.resolve? name = some p ↔ p ∈ type.allProperties ∧ Text.bytes p.name = name := by
  rw [resolve?, Option.bind_eq_some_iff]
  constructor
  · rintro ⟨text, htext, hfind⟩
    obtain ⟨hmem, hname⟩ := built.find?_eq_some_iff.mp hfind
    exact ⟨hmem, hname ▸ Text.ofBytes?_eq_some_iff.mp htext⟩
  · rintro ⟨hmem, hname⟩
    exact ⟨p.name, Text.ofBytes?_eq_some_iff.mpr hname, built.find?_eq_some_iff.mpr ⟨hmem, rfl⟩⟩

/-- Bytes that are not the name of a property find nothing. -/
theorem Built.resolve?_eq_none_iff (built : type.Built) {name : List UInt8} :
    type.resolve? name = none ↔ ∀ p ∈ type.allProperties, Text.bytes p.name ≠ name := by
  rw [Option.eq_none_iff_forall_ne_some]
  constructor
  · intro h p hmem hname
    exact h p (built.resolve?_eq_some_iff.mpr ⟨hmem, hname⟩)
  · intro h p hfind
    obtain ⟨hmem, hname⟩ := built.resolve?_eq_some_iff.mp hfind
    exact h p hmem hname

end TypeDescriptor

/-! ### The lookups of a host -/

namespace Calls

/-- The answers of the four lookups by name. -/
structure Answers where
  property : Option Property
  offset : Int
  dim : Int
  mask : UInt8

/-- The answers when nothing is found. -/
def Answers.nothing : Answers := ⟨none, -1, -1, 0⟩

/-- The answers when a property is found.  Only a boolean has a mask. -/
def Answers.ofProperty (p : Property) : Answers := ⟨some p, p.offset, p.dim, p.fieldMask?.getD 0⟩

/-- Ask all four lookups for a name. -/
def lookups (tracing : Bool) (type : Option TypeDescriptor) (name : Option (List UInt8)) :
    Answers where
  property := (resolvePropertyByName tracing type name).value
  offset := (getOffsetByName tracing type name).value
  dim := (getArrayDimByName tracing type name).value
  mask := (getBooleanFieldMask tracing type name).value

variable {type : TypeDescriptor} {name : List UInt8} {tracing : Bool} {p : Property}

/-- Without a type or without a name nothing is found. -/
theorem lookups_absent (type : Option TypeDescriptor) (name : Option (List UInt8)) :
    lookups tracing none name = .nothing ∧ lookups tracing type none = .nothing := by
  cases type <;> exact ⟨rfl, rfl⟩

/-- Each lookup resolves the name first. -/
theorem lookups_of_resolve?_eq_none (h : type.resolve? (Text.untilNul name) = none) :
    lookups tracing (some type) (some name) = .nothing := by
  simp only [lookups, resolvePropertyByName, getOffsetByName, getArrayDimByName,
    getBooleanFieldMask, byName, TypeDescriptor.offsetByName, TypeDescriptor.arrayDimByName,
    TypeDescriptor.boolFieldMaskByName, h]
  rfl

/-- A property of a built type is reported as it is, because its extents fit. -/
theorem lookups_of_resolve?_eq_some (built : type.Built)
    (h : type.resolve? (Text.untilNul name) = some p) :
    lookups tracing (some type) (some name) = .ofProperty p := by
  have hmem := (built.resolve?_eq_some_iff.mp h).1
  obtain ⟨hoffset, hdim⟩ := (built_soundLayout built).offset_le_and_dim_le hmem
    (Property.Described.declared built hmem).sound
  simp only [lookups, resolvePropertyByName, getOffsetByName, getArrayDimByName,
    getBooleanFieldMask, byName, TypeDescriptor.offsetByName, TypeDescriptor.arrayDimByName,
    TypeDescriptor.boolFieldMaskByName, h, Option.elim_some, reportExtent_eq hoffset,
    reportExtent_eq hdim]
  rfl

/-- The reserved answers are given for nothing else: neither a number nor a mask of a property looks
like them. -/
theorem lookups_reserved (built : type.Built) (tracing : Bool) (name : List UInt8) :
    let found := lookups tracing (some type) (some name)
    (found.offset = -1 ↔ found.property = none) ∧ (found.dim = -1 ↔ found.property = none) ∧
      (found.mask = 0 ↔ ∀ p, found.property = some p → p.fieldMask? = none) := by
  intro found
  cases hresolve : type.resolve? (Text.untilNul name) with
  | none =>
    have hfound : found = .nothing := lookups_of_resolve?_eq_none hresolve
    rw [hfound]
    simp [Answers.nothing]
  | some p =>
    have hfound : found = .ofProperty p := lookups_of_resolve?_eq_some built hresolve
    have hmasked := (built_soundLayout built).masked p (built.resolve?_eq_some_iff.mp hresolve).1
    rw [hfound]
    refine ⟨?_, ?_, ?_⟩
    · simp [Answers.ofProperty]
    · simp [Answers.ofProperty]
    · simp only [Answers.ofProperty, Option.some.injEq, forall_eq']
      cases hmask : p.fieldMask? with
      | none => simp
      | some mask => simpa [hmask] using hmasked

end Calls

/-- At most one property of a built type has the name that a C string gives, and all lookups answer
for this property.  If no property has the name, or the bytes are no text, or there is no type or no
name, then they answer that there is nothing, and these answers mean nothing else. -/
theorem lookups_exact {type : TypeDescriptor} (built : type.Built) (tracing : Bool)
    (name : List UInt8) :
    let bytes := Text.untilNul name
    let found := Calls.lookups tracing (some type) (some name)
    (type.allProperties.filter (Text.bytes ·.name == bytes)).length ≤ 1 ∧
      (∀ p ∈ type.allProperties, Text.bytes p.name = bytes →
        found = .ofProperty p ∧ p.fieldMask? ≠ some 0) ∧
      ((∀ p ∈ type.allProperties, Text.bytes p.name ≠ bytes) → found = .nothing) ∧
      (Text.ofBytes? bytes = none → found = .nothing) ∧
      (∀ other, Calls.lookups tracing none other = .nothing) ∧
      Calls.lookups tracing (some type) none = .nothing ∧
      (found.offset = -1 ↔ found.property = none) ∧ (found.dim = -1 ↔ found.property = none) ∧
      (found.mask = 0 ↔ ∀ p, found.property = some p → p.fieldMask? = none) := by
  intro bytes found
  have hone : (type.allProperties.filter (Text.bytes ·.name == bytes)).length ≤ 1 := by
    have hnodup : ((type.allProperties.map (·.name)).map Text.bytes).Nodup :=
      built.names_nodup.map fun _ _ => Text.bytes_injective
    rw [← List.countP_eq_length_filter]
    calc type.allProperties.countP (Text.bytes ·.name == bytes)
        = ((type.allProperties.map (·.name)).map Text.bytes).count bytes := by
          simp [List.count, List.countP_map, Function.comp_def]
      _ ≤ 1 := List.nodup_iff_count_le_one.mp hnodup bytes
  refine ⟨hone, ?_, ?_, ?_, fun other => (Calls.lookups_absent none other).1,
    (Calls.lookups_absent (some type) none).2, Calls.lookups_reserved built tracing name⟩
  · intro p hmem hname
    have hresolve := built.resolve?_eq_some_iff.mpr ⟨hmem, hname⟩
    exact ⟨Calls.lookups_of_resolve?_eq_some built hresolve,
      (built_soundLayout built).masked p hmem⟩
  · intro hnone
    exact Calls.lookups_of_resolve?_eq_none (built.resolve?_eq_none_iff.mpr hnone)
  · intro hnotText
    refine Calls.lookups_of_resolve?_eq_none ?_
    rw [TypeDescriptor.resolve?, hnotText, Option.bind_none]

/-- A thing with a height. -/
def thing : TypeDescriptor where
  serial := 0
  name := "Thing"
  size := 4
  align := 4
  superType := none
  properties := [.ofKind "H" (.scalar .int32) 0 1 .none]

/-- A thing that can also be open. -/
def door : TypeDescriptor where
  serial := 1
  name := "Door"
  size := 8
  align := 4
  superType := some thing
  properties := [.ofKind "O" (.bool 1) 4 1 .none]

theorem built_door : door.Built := by
  have hthing : TypeDescriptor.build 0 "Thing" none
      [{ name := "H", body := .field (.scalar .int32) }] = .ok thing := by
    rfl
  have hdoor : TypeDescriptor.build 1 "Door" (some thing)
      [{ name := "O", body := .bitfield }] = .ok door := by
    rfl
  have hthingBuilt : thing.Built := by
    refine .build (by simp) ?_ hthing
    simp only [List.mem_singleton, forall_eq, SpecBody.field.injEq]
    exact fun _ h => h ▸ .scalar _
  refine .build ?_ (by simp) hdoor
  rintro _ ⟨rfl⟩
  exact hthingBuilt

/-- The height is found through the child under `H`, whatever follows the zero behind it. -/
theorem lookups_exact_door :
    Calls.lookups true (some door) (some [72, 0, 33]) =
      .ofProperty (.ofKind "H" (.scalar .int32) 0 1 .none) := by
  obtain ⟨-, hfound, -⟩ := lookups_exact built_door true [72, 0, 33]
  exact (hfound _ (List.mem_append_left _ List.mem_cons_self) rfl).1

end PropertyReflection
