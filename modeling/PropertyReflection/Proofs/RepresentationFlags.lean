import Mathlib
import PropertyReflection.Proofs.PropertyNames
import PropertyReflection.Proofs.RawBytes

/-!
# What the representation flags promise

Three flags of a property say how its values are represented, so that a host can make, copy and
destroy them without the operations of the property.  The flags follow from two functions on kinds.
`Kind.RepresentationHolds` says what these promise: zeros are default values, a copy of the bytes is
as good as a copy of the value, and what owns nothing need not be destroyed.

A declaration can have the flags as well, and is believed.  For the properties of a type that can be
built `TypeDescriptor.Declares` relates a property to its declaration; if none of the flags was
declared, the property has those of its kind.

### Outline

* sets with a single attribute: `PropertyFlags.contains_bit_iff`;
* declarations: `TypeDescriptor.Declares` and `TypeDescriptor.Declares.contains_iff`;
* raw memory: `Property.cell_construct_eq_zero` and `Property.copyAll_sameLeaves_overwrite`;
* `Kind.Made.representationHolds`.
-/

namespace PropertyReflection

/-! ### Flags -/

namespace PropertyFlags

variable {flags other : PropertyFlags} {index : UInt64}

/-- A single attribute is in a set if its bit is set. -/
theorem contains_bit_iff (h : index < 64) :
    flags.contains (bit index) = true ↔ flags.bits.toBitVec.getLsbD index.toNat = true := by
  have hindex : index.toNat < 64 := h
  have hbit : (bit index).bits.toBitVec = BitVec.twoPow 64 index.toNat := by
    apply BitVec.eq_of_toNat_eq
    have hmod : index.toNat % 64 = index.toNat := Nat.mod_eq_of_lt hindex
    simp [bit, BitVec.toNat_twoPow, Nat.shiftLeft_eq, hmod]
  rw [contains, beq_iff_eq, ← UInt64.toBitVec_inj, UInt64.toBitVec_and, hbit, BitVec.and_twoPow]
  split
  · next hset => exact iff_of_true rfl hset
  · next hset =>
    refine iff_of_false (fun hzero => ?_) hset
    have hlost := congrArg (fun v : BitVec 64 => v.getLsbD index.toNat) hzero
    simp [hindex] at hlost

/-- A single attribute is in the union of two sets if it is in one of them. -/
theorem contains_union_bit (h : index < 64) :
    (flags.union other).contains (bit index) = true ↔
      flags.contains (bit index) = true ∨ other.contains (bit index) = true := by
  rw [contains_bit_iff h, contains_bit_iff h, contains_bit_iff h, bits_union, UInt64.toBitVec_or,
    BitVec.getLsbD_or, Bool.or_eq_true]

/-- The attributes that say how values are represented. -/
def representation : List PropertyFlags := [isPlainOldData, zeroConstructor, noDestructor]

/-- An attribute of the representation is a single bit, and no field gets it for its dimension. -/
theorem exists_bit_of_mem_representation {flag : PropertyFlags} (h : flag ∈ representation) :
    ∃ index < 64, flag = bit index ∧ editFixedSize.contains flag = false := by
  simp only [representation, List.mem_cons, List.not_mem_nil, or_false] at h
  rcases h with rfl | rfl | rfl
  · exact ⟨30, by decide, rfl, by decide⟩
  · exact ⟨9, by decide, rfl, by decide⟩
  · exact ⟨39, by decide, rfl, by decide⟩

end PropertyFlags

/-- The attributes of its representation that a kind implies. -/
theorem Kind.contains_impliedFlags (kind : Kind) :
    kind.impliedFlags.contains .isPlainOldData = kind.isPlainOldData ∧
      kind.impliedFlags.contains .zeroConstructor = kind.isPlainOldData ∧
      kind.impliedFlags.contains .noDestructor = !kind.needsDestroy := by
  rw [impliedFlags]
  cases kind.isPlainOldData <;> cases kind.needsDestroy <;> decide

/-! ### Declarations -/

namespace TypeDescriptor

/-- The declaration that a property of a type comes from, in the type itself or in one that it
extends. -/
inductive Declares : TypeDescriptor → PropertySpec → Property → Prop where
  | own {serial : Nat} {name : String} {parent : Option TypeDescriptor}
    {specs : List PropertySpec} {type : TypeDescriptor}
    (ok : build serial name parent specs = .ok type) {i : Nat} {spec : PropertySpec}
    {p : Property} (declaration : specs[i]? = some spec) (property : type.properties[i]? = some p) :
    Declares type spec p
  | inherited {type parent : TypeDescriptor} (superType : type.superType = some parent)
    {spec : PropertySpec} {p : Property} (declares : Declares parent spec p) : Declares type spec p

/-- A property has the attributes of its declaration and those of its kind, and at most one more. -/
def Keeps (spec : PropertySpec) (p : Property) : Prop :=
  p.flags = spec.flags.union p.kind.impliedFlags ∨
    p.flags = (spec.flags.union .editFixedSize).union p.kind.impliedFlags

theorem keeps_of_place {p q : Placement} {spec : PropertySpec} {x : Property}
    (ok : p.place spec = .ok (q, x)) : Keeps spec x := by
  rcases Placement.place_ok ok with ⟨-, hbit⟩ | ⟨kind, -, hfield⟩
  · obtain ⟨_, _, -, -, -, -, rfl⟩ := Placement.placeBitfield_ok hbit
    exact Or.inl rfl
  · obtain ⟨_, _, -, -, -, -, -, rfl⟩ := Placement.placeField_ok hfield
    simp only [Keeps, Property.ofKind, Placement.fieldFlags]
    split
    · exact Or.inr rfl
    · exact Or.inl rfl

/-- Each declaration becomes one property, in order. -/
theorem forall₂_keeps_of_placeAll {parent : Option TypeDescriptor} {specs : List PropertySpec}
    {p q : Placement} {placed properties : List Property}
    (ok : placeAll parent specs p placed = .ok (q, properties)) :
    ∃ own, properties = placed ++ own ∧ List.Forall₂ Keeps specs own := by
  induction specs generalizing p placed with
  | nil =>
    cases ok
    exact ⟨[], (List.append_nil _).symm, .nil⟩
  | cons spec rest ih =>
    obtain ⟨r, x, hplace, hrest⟩ := placeAll_cons_ok ok
    obtain ⟨own, rfl, hown⟩ := ih hrest
    exact ⟨x :: own, by simp, .cons (keeps_of_place hplace) hown⟩

theorem forall₂_keeps_of_build {serial : Nat} {name : String} {parent : Option TypeDescriptor}
    {specs : List PropertySpec} {type : TypeDescriptor}
    (ok : build serial name parent specs = .ok type) :
    List.Forall₂ Keeps specs type.properties := by
  obtain ⟨p, hplace, -⟩ := build_ok ok
  obtain ⟨own, hown, hkeeps⟩ := forall₂_keeps_of_placeAll hplace
  rw [List.nil_append] at hown
  exact hown ▸ hkeeps

variable {type : TypeDescriptor} {p : Property} {spec : PropertySpec}

/-- Every property of a built type was declared. -/
theorem Built.exists_declares (built : type.Built) (hp : p ∈ type.allProperties) :
    ∃ spec, type.Declares spec p := by
  induction built using Built.lineInduction with
  | @build serial name parent specs type parentBuilt specsMade ok ih =>
    obtain ⟨-, -, -, -, hsuper⟩ := build_ok ok
    rw [allProperties_eq, hsuper, List.mem_append] at hp
    rcases hp with hp | hp
    · cases parent with
      | none => exact absurd hp List.not_mem_nil
      | some t =>
        obtain ⟨spec, hdeclares⟩ := ih t rfl hp
        exact ⟨spec, .inherited hsuper hdeclares⟩
    · obtain ⟨i, hi, rfl⟩ := List.getElem_of_mem hp
      have hlength := (forall₂_keeps_of_build ok).length_eq
      have hspec : i < specs.length := hlength ▸ hi
      exact ⟨specs[i], .own ok (List.getElem?_eq_getElem hspec) (List.getElem?_eq_getElem hi)⟩

theorem Declares.keeps (declares : type.Declares spec p) : Keeps spec p := by
  induction declares with
  | own ok declaration property =>
    obtain ⟨hspec, rfl⟩ := List.getElem?_eq_some_iff.mp declaration
    obtain ⟨hproperty, rfl⟩ := List.getElem?_eq_some_iff.mp property
    exact (List.forall₂_iff_get.mp (forall₂_keeps_of_build ok)).2 _ hspec hproperty
  | inherited _ _ ih => exact ih

/-- An attribute of the representation that was not declared follows from the kind. -/
theorem Declares.contains_iff (declares : type.Declares spec p) {flag : PropertyFlags}
    (hflag : flag ∈ PropertyFlags.representation) (undeclared : spec.flags.contains flag = false) :
    p.flags.contains flag = p.kind.impliedFlags.contains flag := by
  obtain ⟨index, hindex, rfl, hdim⟩ := PropertyFlags.exists_bit_of_mem_representation hflag
  rw [Bool.eq_iff_iff]
  rcases declares.keeps with hflags | hflags
  · rw [hflags, PropertyFlags.contains_union_bit hindex, undeclared]
    simp
  · rw [hflags, PropertyFlags.contains_union_bit hindex, PropertyFlags.contains_union_bit hindex,
      undeclared, hdim]
    simp

end TypeDescriptor

/-! ### Raw memory -/

namespace Property

variable {property : Property} {m source : Block} {a b : Nat}

/-- Default values of plain old data are rows of zeros. -/
theorem cell_construct_eq_zero (sound : property.kind.Sound)
    (pod : property.kind.isPlainOldData = true) (fits : a + property.totalSize ≤ m.size)
    {x : Nat} (hx : x < property.totalSize) : (property.construct m a).cell (a + x) = .byte 0 := by
  have hzero : ∀ i < property.dim, ∀ distance < property.size,
      (property.construct m a).cell (Elements.address a property.size i + distance) = .byte 0 := by
    refine Elements.update_done property.kind.construct
      (fun i n => ∀ distance < property.size,
        n.cell (Elements.address a property.size i + distance) = .byte 0)
      (fun i hi n hn => ⟨sound.changedOnly_construct n _, fun distance hdistance => ?_⟩)
      (fun i _ n n' hsame hzero distance hdistance =>
        (hsame distance hdistance).trans (hzero distance hdistance)) rfl
    have hinside := Elements.address_add_le hi a property.size
    exact sound.cell_construct_of_isPlainOldData pod (hn ▸ hinside.trans fits) hdistance
  have hpos : 0 < property.size := sound.size_pos
  have hrow := hzero (x / property.size) (Nat.div_lt_of_lt_mul hx) (x % property.size)
    (Nat.mod_lt x hpos)
  rwa [Elements.address, Nat.add_assoc, Nat.div_add_mod'] at hrow

/-- Plain old data that was copied agrees with what was overwritten with the bytes of the source. -/
theorem copyAll_sameLeaves_overwrite (sound : property.kind.Sound)
    (pod : property.kind.isPlainOldData = true) (fits : a + property.totalSize ≤ m.size) :
    ∃ copied, property.copyAll m a source b = .ok copied ∧
      Scope.all.SameLeaves property (m.overwrite a source b property.totalSize) a copied a := by
  obtain ⟨copied, hok, -, hcopied⟩ := copyAll_ok sound sound.copiesFaithfully fits
    fun i _ => Kind.live_of_isPlainOldData pod source _
  refine ⟨copied, hok, fun i hi => ?_⟩
  have hraw : property.kind.SameLeaves (m.overwrite a source b property.totalSize)
      (Elements.address a property.size i) source (Elements.address b property.size i) :=
    sound.sameLeaves_of_sameBytes pod ((Block.sameBytes_overwrite fits).element hi)
  rw [Kind.sameLeaves_iff] at hraw ⊢
  exact hraw.trans (hcopied i hi).meaning_eq.symm

end Property

/-! ### The promises -/

/-- What the representation of a kind promises about the properties of this kind, however many
elements they have. -/
structure Kind.RepresentationHolds (kind : Kind) : Prop where
  /-- Plain old data is initialized with zeros. -/
  zeroed : kind.isPlainOldData = true → ∀ property : Property, property.kind = kind →
    ∀ (m : Block) (a : Nat), a + property.totalSize ≤ m.size → ∀ x < property.totalSize,
      (property.construct m a).cell (a + x) = .byte 0
  /-- Overwriting plain old data with the bytes of a source comes to the same as a copy. -/
  overwritten : kind.isPlainOldData = true → ∀ property : Property, property.kind = kind →
    ∀ (memory : String → Block) (p q : Place),
      p.address + property.totalSize ≤ (p.block memory).size →
      let raw := (p.block memory).overwrite p.address (q.block memory) q.address property.totalSize
      ∃ copied, property.copyAllAt (p.block memory) p (q.block memory) q = .ok copied ∧
        Scope.all.SameLeaves property raw p.address copied p.address ∧
        property.hashAll raw p.address = property.hashAll copied p.address
  /-- Nothing happens when what owns nothing is destroyed. -/
  untouched : kind.needsDestroy = false → ∀ property : Property, property.kind = kind →
    ∀ (m : Block) (a : Nat), property.destroy m a = m
  owns_nothing : kind.isPlainOldData = true → kind.needsDestroy = false
  /-- The flags of a property that were not declared are those of its kind. -/
  flagged : ∀ type : TypeDescriptor, type.Built → ∀ property ∈ type.allProperties,
    property.kind = kind → (∃ spec, type.Declares spec property) ∧
      ∀ spec, type.Declares spec property →
        (∀ flag ∈ PropertyFlags.representation, spec.flags.contains flag = false) →
        property.flags.contains .isPlainOldData = kind.isPlainOldData ∧
          property.flags.contains .zeroConstructor = kind.isPlainOldData ∧
          property.flags.contains .noDestructor = !kind.needsDestroy

/-- Kinds without bits, which are no kinds of values yet, are not plain old data. -/
theorem Kind.Made.sound_of_isPlainOldData {kind : Kind} (made : kind.Made)
    (pod : kind.isPlainOldData = true) : kind.Sound := by
  have hsound := made.sound
  cases kind with
  | bool mask =>
    obtain rfl : mask = fullMask := by simpa [isPlainOldData] using pod
    exact hsound
  | _ => exact hsound

/-- The representation of every kind that can be made holds what it promises. -/
theorem Kind.Made.representationHolds {kind : Kind} (made : kind.Made) :
    kind.RepresentationHolds where
  zeroed pod property hkind m a fits x hx := by
    subst hkind
    exact Property.cell_construct_eq_zero (made.sound_of_isPlainOldData pod) pod fits hx
  overwritten pod property hkind memory p q fits := by
    subst hkind
    have hsound := made.sound_of_isPlainOldData pod
    intro raw
    obtain ⟨copied, hok, hleaves⟩ : ∃ copied,
        property.copyAllAt (p.block memory) p (q.block memory) q = .ok copied ∧
          Scope.all.SameLeaves property raw p.address copied p.address := by
      by_cases hself : p = q
      · -- a value that is overwritten with its own bytes keeps them
        refine ⟨p.block memory, by rw [Property.copyAllAt, if_pos hself], fun i hi => ?_⟩
        subst hself
        exact hsound.sameLeaves_of_sameBytes pod ((Block.sameBytes_overwrite fits).element hi)
      · rw [Property.copyAllAt, if_neg hself]
        exact Property.copyAll_sameLeaves_overwrite hsound pod fits
    refine ⟨copied, hok, hleaves, ?_⟩
    rw [Property.hashAll_eq, Property.hashAll_eq]
    exact Value.hash_eq_of_meaning_eq (Scope.sameLeaves_iff.mp hleaves)
  untouched owns property hkind m a := by
    subst hkind
    exact List.foldlRecOn (motive := fun n : Block => n = m) _ _ rfl
      fun n hn i _ => hn ▸ Kind.destroy_eq_self owns n _
  owns_nothing := needsDestroy_eq_false_of_isPlainOldData
  flagged type built property hp hkind := by
    subst hkind
    refine ⟨built.exists_declares hp, fun spec hdeclares hundeclared => ?_⟩
    obtain ⟨hpod, hzero, hdestroy⟩ := property.kind.contains_impliedFlags
    have hflag := fun flag (h : flag ∈ PropertyFlags.representation) =>
      hdeclares.contains_iff h (hundeclared flag h)
    rw [hflag _ (by decide), hflag _ (by decide), hflag _ (by decide)]
    exact ⟨hpod, hzero, hdestroy⟩

/-- A type of plain old data that has padding, a boolean in a byte of its own, and a number that is
not compared by its bits. -/
def sample : TypeDescriptor where
  serial := 0
  name := "Sample"
  size := 8
  align := 4
  superType := none
  properties :=
    [.ofKind "bValid" .nativeBool 0 1 .none, .ofKind "Level" (.scalar .float32) 4 1 .none]

/-- Two samples in a row. -/
def samples : Property :=
  .ofKind "Samples" (.struct sample) 0 2 (Placement.fieldFlags .none 2)

/-- A type that has two samples and nothing else. -/
def station : TypeDescriptor where
  serial := 1
  name := "Station"
  size := 16
  align := 4
  superType := none
  properties := [samples]

theorem built_sample : sample.Built := by
  have hsample : TypeDescriptor.build 0 "Sample" none
      [{ name := "bValid", body := .field .nativeBool },
        { name := "Level", body := .field (.scalar .float32) }] = .ok sample := by
    rfl
  refine .build (by simp) ?_ hsample
  simp only [List.forall_mem_cons, SpecBody.field.injEq, forall_eq', List.not_mem_nil]
  exact ⟨.bool _, .scalar _, fun _ h => h.elim⟩

theorem built_station : station.Built := by
  have hstation : TypeDescriptor.build 1 "Station" none
      [{ name := "Samples", body := .field (.struct sample), dim := 2 }] = .ok station := by
    rfl
  refine .build (by simp) ?_ hstation
  simp only [List.mem_singleton, forall_eq, SpecBody.field.injEq]
  exact fun _ h => h ▸ .struct built_sample

/-- Samples are plain old data, and the flags of their property say so. -/
theorem representationHolds_sample :
    (Kind.struct sample).Made ∧ (Kind.struct sample).isPlainOldData = true ∧
      (Kind.struct sample).RepresentationHolds ∧ station.Built ∧
      samples ∈ station.allProperties ∧
      ∀ flag ∈ PropertyFlags.representation, samples.flags.contains flag = true := by
  have made : (Kind.struct sample).Made := .struct built_sample
  exact ⟨made, by decide, made.representationHolds, built_station, List.mem_singleton.mpr rfl,
    by decide⟩

end PropertyReflection
