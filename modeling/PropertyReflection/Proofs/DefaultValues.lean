import Mathlib
import PropertyReflection.Proofs.FaithfulCopy
import PropertyReflection.Proofs.LeafAgreement
import PropertyReflection.Proofs.LiveValues

/-!
# Default values

Construction makes a default value, whatever was in the memory before.  `Kind.Default` says which
values these are: every boolean in them is false, every number zero, every text empty, and every
array and map without storage.

For structs there are two passes.  The first one zeroes the instance, and the second one constructs
the properties one by one; no property undoes what an earlier one has done, because the two have no
bit in common.  Nor does the second pass bring anything into the padding: outside of representations
a byte that is zero stays zero, at any depth of the struct.

### Outline

* `Kind.Default`, and the bytes and words that stay zero when zeros are written;
* `Kind.Sound.default_construct`, by induction on kinds;
* `Kind.Default.sameLeaves` and `Kind.Default.identical`: default values do not differ;
* `Kind.Plain`, the bytes outside of representations, and `Kind.cell_construct_eq_zero`;
* `Property.Initialized`, all that construction does, and `construct_initialized`.
-/

namespace PropertyReflection

/-- The value at an address is the default one.  A text, an array or a map has to be represented
there; memory that only reads as an empty one is not enough. -/
inductive Kind.Default : Kind → Block → Nat → Prop where
  | bool {mask : UInt8} {m : Block} {a : Nat} (unset : m.bool a mask = false) :
    Kind.Default (.bool mask) m a
  | scalar {s : Scalar} {m : Block} {a : Nat} (zero : m.word a s.size = 0) :
    Kind.Default (.scalar s) m a
  | string {m : Block} {a : Nat} (empty : m.cell a = .text "") : Kind.Default .string m a
  | struct {type : TypeDescriptor} {m : Block} {a : Nat}
    (fields : ∀ p ∈ type.allProperties, ∀ i < p.dim,
      p.kind.Default m (Elements.address (a + p.offset) p.size i)) : Kind.Default (.struct type) m a
  | array {element : Kind} {m : Block} {a : Nat} (empty : m.cell a = .slots .empty) :
    Kind.Default (.array element) m a
  | map {key value : Kind} {m : Block} {a : Nat} (empty : m.cell a = .slots .empty) :
    Kind.Default (.map key value) m a

/-! ### Writing zeros -/

namespace Block

variable {m : Block} {a x : Nat}

/-- A container without storage is empty. -/
theorem slots_eq_empty_of_cell (h : m.cell a = .slots .empty) : m.slots a = .empty := by
  rw [slots, h]

/-- A word of zeros reads as zero. -/
theorem word_setWord_zero {count : Nat} (hcount : count ≤ 8) (fits : a + count ≤ m.size) :
    (m.setWord a 0 count).word a count = 0 := by
  apply UInt64.toNat_inj.mp
  rw [toNat_word_setWord hcount fits]
  exact Nat.zero_mod _

/-- A cell stays if it already was what is written. -/
theorem cell_setCell_of_eq {c : Cell} (h : m.cell x = c) (a : Nat) :
    (m.setCell a c).cell x = c := by
  by_cases hself : x = a
  · by_cases hin : a < m.size
    · rw [hself, cell_setCell_self hin]
    · rw [setCell, Array.setIfInBounds_eq_of_size_le (by omega), h]
  · rw [cell_setCell_of_ne hself, h]

/-- A cell of a range stays if it already was what is written. -/
theorem cell_setRange_of_eq {c : Cell} (h : m.cell x = c) (a count : Nat) :
    (m.setRange a c count).cell x = c := by
  induction count generalizing m a with
  | zero => exact h
  | succ count ih => exact ih (cell_setCell_of_eq h a) (a + 1)

/-- A zero byte stays zero when zeros are written. -/
theorem cell_setWord_zero (h : m.cell x = .byte 0) (a count : Nat) :
    (m.setWord a 0 count).cell x = .byte 0 := by
  induction count generalizing m a with
  | zero => exact h
  | succ count ih =>
    have hfirst : (m.setByte a (0 : UInt64).toUInt8).cell x = .byte 0 := cell_setCell_of_eq h a
    exact ih hfirst (a + 1)

/-- A zero byte stays zero when a boolean in it is made false. -/
theorem cell_setBool_false (h : m.cell x = .byte 0) (a : Nat) (mask : UInt8) :
    (m.setBool a mask false).cell x = .byte 0 := by
  by_cases hself : x = a
  · have hbyte : m.byte a = 0 := by rw [byte, ← hself, h]
    have hwritten : (m.byte a &&& ~~~mask) ||| truthBits mask false = 0 := by
      rw [hbyte, UInt8.zero_and, UInt8.zero_or]
      rfl
    rw [setBool, hwritten]
    exact cell_setCell_of_eq h a
  · rw [cell_setBool_of_ne hself, h]

end Block

namespace Kind

variable {kind : Kind} {m n : Block} {a b : Nat}

/-! ### Default values do not differ -/

/-- Whether a value is the default one depends on its own cells only. -/
theorem Sound.default_congr_cells (sound : kind.Sound) (h : m.SameCells a n b kind.size)
    (isDefault : kind.Default n b) : kind.Default m a := by
  induction sound generalizing m a n b with
  | bool _ =>
    cases isDefault with
    | bool unset =>
      refine .bool ?_
      rwa [Block.bool, Block.boolBits, Block.byte_congr (h.first Nat.one_pos)]
  | scalar s =>
    cases isDefault with
    | scalar zero => exact .scalar (h.word_eq.trans zero)
  | string =>
    cases isDefault with
    | string empty => exact .string ((h.first handleSize_pos).trans empty)
  | struct layout _ ih =>
    cases isDefault with
    | struct fields =>
      exact .struct fun p hp i hi =>
        ih p hp (layout.sameCells_element h hp hi) (fields p hp i hi)
  | array _ _ =>
    cases isDefault with
    | array empty => exact .array ((h.first handleSize_pos).trans empty)
  | map _ _ _ _ =>
    cases isDefault with
    | map empty => exact .map ((h.first handleSize_pos).trans empty)

/-- Whether a value is the default one depends on nothing but what belongs to it. -/
theorem Sound.default_congr (sound : kind.Sound) (h : kind.SameIn m a n b)
    (isDefault : kind.Default n b) : kind.Default m a := by
  cases kind with
  | bool mask =>
    cases isDefault with
    | bool unset =>
      refine .bool ?_
      rwa [Block.bool, show m.boolBits a mask = n.boolBits b mask from h]
  | _ => exact sound.default_congr_cells h isDefault

/-- Default values agree in all leaves. -/
theorem Default.sameLeaves (hm : kind.Default m a) (hn : kind.Default n b) :
    kind.SameLeaves m a n b := by
  induction hm generalizing n b with
  | bool unset =>
    cases hn with
    | bool unset' => exact .bool (unset.trans unset'.symm)
  | scalar zero =>
    cases hn with
    | scalar zero' => exact .scalar (zero.trans zero'.symm)
  | string empty =>
    cases hn with
    | string empty' => exact .string (Block.text_congr (empty.trans empty'.symm))
  | struct _ ih =>
    cases hn with
    | struct fields => exact .struct fun p hp i hi => ih p hp i hi (fields p hp i hi)
  | array empty =>
    cases hn with
    | array empty' =>
      rw [sameLeaves_iff, read, read, Block.slots_congr (empty.trans empty'.symm)]
  | map empty =>
    cases hn with
    | map empty' =>
      rw [sameLeaves_iff, read, read, Block.slots_congr (empty.trans empty'.symm)]

/-- Default values are identical: there is no NaN among them. -/
theorem Default.identical (hm : kind.Default m a) (hn : kind.Default n b) :
    kind.identical m a n b = true := by
  induction hm generalizing n b with
  | bool unset =>
    cases hn with
    | bool unset' => rw [Kind.identical, unset, unset', beq_self_eq_true]
  | @scalar s _ _ zero =>
    cases hn with
    | scalar zero' =>
      rw [Kind.identical, zero, zero', Scalar.same_self]
      cases s <;> rfl
  | string empty =>
    cases hn with
    | string empty' =>
      rw [Kind.identical, Block.text_congr (empty.trans empty'.symm), beq_self_eq_true]
  | struct _ ih =>
    cases hn with
    | struct fields =>
      rw [Kind.identical, TypeDescriptor.identicalFields_eq_all, List.all_eq_true]
      intro p hp
      rw [Property.identicalAll, Elements.all_eq_true]
      exact fun i hi => ih p hp i hi (fields p hp i hi)
  | array empty =>
    cases hn with
    | array empty' =>
      rw [Kind.identical, Block.slots_eq_empty_of_cell empty,
        Block.slots_eq_empty_of_cell empty']
      rfl
  | map empty =>
    cases hn with
    | map empty' =>
      rw [Kind.identical, Block.slots_eq_empty_of_cell empty,
        Block.slots_eq_empty_of_cell empty']
      rfl

/-! ### Construction -/

/-- What is constructed is a default value. -/
theorem Sound.default_construct (sound : kind.Sound) (fits : a + kind.size ≤ m.size) :
    kind.Default (kind.construct m a) a := by
  induction sound generalizing m a with
  | bool masked => exact .bool (Block.bool_setBool masked fits false)
  | scalar s => exact .scalar (Block.word_setWord_zero s.size_le fits)
  | string => exact .string (Block.cell_placeHandle_self (lt_of_handle_fits fits) _)
  | @struct type layout fieldsSound ih =>
    exact .struct (layout.construct_done fieldsSound Kind.Default
      (fun p hp _ _ hfits => ih p hp hfits)
      (fun p hp _ _ _ hsame => (fieldsSound p hp).default_congr hsame) fits)
  | array _ _ => exact .array (Block.cell_placeHandle_self (lt_of_handle_fits fits) _)
  | map _ _ _ _ => exact .map (Block.cell_placeHandle_self (lt_of_handle_fits fits) _)

/-! ### Bytes outside of representations -/

/-- An address is in no representation of the value at another address. -/
def Plain (kind : Kind) (a x : Nat) : Prop :=
  ∀ h ∈ kind.handles, x < a + h ∨ a + h + handleSize ≤ x

/-- What is in no representation of a struct is in none of an element of a property. -/
theorem Plain.element {type : TypeDescriptor} {x : Nat} (plain : (Kind.struct type).Plain a x)
    {p : Property} (hp : p ∈ type.allProperties) {i : Nat} (hi : i < p.dim) :
    p.kind.Plain (Elements.address (a + p.offset) p.size i) x := by
  intro h hh
  have houtside := plain _ (TypeDescriptor.mem_handles_iff.mpr ⟨p, hp, i, hi, h, hh, rfl⟩)
  rw [Elements.address] at houtside ⊢
  omega

end Kind

/-- Construction brings nothing into a zero byte outside of representations, if the properties do
not. -/
theorem TypeDescriptor.cell_constructFields_eq_zero {type : TypeDescriptor} {m : Block} {a x : Nat}
    (fields : ∀ p ∈ type.allProperties, ∀ (m : Block) (b : Nat), p.kind.Plain b x →
      m.cell x = .byte 0 → (p.kind.construct m b).cell x = .byte 0)
    (plain : (Kind.struct type).Plain a x) (zero : m.cell x = .byte 0) :
    (type.constructFields m a).cell x = .byte 0 := by
  have hproperty : ∀ p ∈ type.allProperties, ∀ m : Block, m.cell x = .byte 0 →
      (p.constructIn m a).cell x = .byte 0 := by
    intro p hp m hm
    refine List.foldlRecOn (motive := fun n : Block => n.cell x = .byte 0) _ _ hm
      fun n hn i hi => ?_
    exact fields p hp n _ (plain.element hp (List.mem_range.mp hi)) hn
  rw [constructFields_eq_foldl]
  exact List.foldlRecOn (motive := fun n : Block => n.cell x = .byte 0) _ _ zero
    fun n hn p hp => hproperty p hp n hn

/-- Construction brings nothing into a zero byte outside of representations. -/
theorem Kind.cell_construct_eq_zero {kind : Kind} {m : Block} {a x : Nat} (plain : kind.Plain a x)
    (zero : m.cell x = .byte 0) : (kind.construct m a).cell x = .byte 0 := by
  induction kind using Kind.inductionOn generalizing m a with
  | bool mask => exact Block.cell_setBool_false zero a mask
  | scalar s => exact Block.cell_setWord_zero zero a s.size
  | struct type ih =>
    exact TypeDescriptor.cell_constructFields_eq_zero (fun p hp n b => ih p hp) plain
      (Block.cell_setRange_of_eq zero a type.size)
  | string | array _ _ | map _ _ _ _ =>
    have houtside := plain 0 (List.mem_singleton.mpr rfl)
    rw [Nat.add_zero] at houtside
    exact (Block.cell_placeHandle_of_outside houtside _).trans zero

/-- A struct that was constructed is zero outside of representations, whatever was there before. -/
theorem Kind.cell_construct_struct {type : TypeDescriptor} {m : Block} {a distance : Nat}
    (fits : a + type.size ≤ m.size) (hdistance : distance < type.size)
    (plain : (Kind.struct type).Plain a (a + distance)) :
    ((Kind.struct type).construct m a).cell (a + distance) = .byte 0 := by
  have hcleared : (m.clear a type.size).cell (a + distance) = .byte 0 :=
    Block.cell_setRange_of_inside (by omega) (by omega) (by omega) _
  rw [construct]
  exact TypeDescriptor.cell_constructFields_eq_zero (fun _ _ _ _ => cell_construct_eq_zero) plain
    hcleared

/-! ### Properties -/

namespace Property

/-- All elements of a property are default values. -/
def DefaultAt (property : Property) (m : Block) (a : Nat) : Prop :=
  ∀ i < property.dim, property.kind.Default m (Elements.address a property.size i)

/-- What the construction of a property has done to a block, whatever was in it. -/
structure Initialized (property : Property) (m m' : Block) (a : Nat) : Prop where
  defaultAt : property.DefaultAt m' a
  /-- Of a struct all bytes outside of representations are zero, the padding and the bits that no
  property has claimed among them. -/
  zeroed : ∀ type, property.kind = .struct type → ∀ i < property.dim, ∀ distance < type.size,
    property.kind.Plain (Elements.address a property.size i)
      (Elements.address a property.size i + distance) →
    m'.cell (Elements.address a property.size i + distance) = .byte 0
  /-- Of the byte of a boolean only the bits of its mask have changed. -/
  kept : ∀ mask, property.kind = .bool mask → m.KeptOutside m' (property.OwnsAt a)
  changedOnly : m.ChangedOnly m' a property.totalSize

variable {property : Property} {m n : Block} {a b : Nat}

theorem DefaultAt.congr_cells (sound : property.kind.Sound)
    (h : m.SameCells a n b property.totalSize) (defaultAt : property.DefaultAt n b) :
    property.DefaultAt m a :=
  fun i hi => sound.default_congr_cells (h.element hi) (defaultAt i hi)

/-- Default values are identical and have one hash. -/
theorem DefaultAt.identicalAll_and_hashAll_eq (hm : property.DefaultAt m a)
    (hn : property.DefaultAt n b) :
    property.identicalAll m a n b = true ∧ property.hashAll m a = property.hashAll n b := by
  constructor
  · rw [identicalAll, Elements.all_eq_true]
    exact fun i hi => (hm i hi).identical (hn i hi)
  · have hleaves : Scope.all.SameLeaves property m a n b :=
      fun i hi => (hm i hi).sameLeaves (hn i hi)
    rw [hashAll_eq, hashAll_eq]
    exact Value.hash_eq_of_meaning_eq (Scope.sameLeaves_iff.mp hleaves)

/-- Construction of a boolean changes the bits of its mask. -/
theorem keptOutside_construct {mask : UInt8} (hkind : property.kind = .bool mask)
    (masked : mask ≠ 0) (m : Block) (a : Nat) :
    m.KeptOutside (property.construct m a) (property.OwnsAt a) := by
  refine List.foldlRecOn (motive := fun n : Block => m.KeptOutside n (property.OwnsAt a)) _ _
    (.refl m _) fun n hn i hi => hn.trans ?_
  rw [hkind]
  refine (n.keptOutside_setBool _ masked false).mono fun x bit howned => ?_
  exact ⟨i, List.mem_range.mp hi, hkind ▸ howned⟩

/-- Construction makes default values and leaves nothing of what was there before in a struct. -/
theorem initialized_construct (sound : property.kind.Sound)
    (fits : a + property.totalSize ≤ m.size) :
    property.Initialized m (property.construct m a) a where
  defaultAt := construct_done sound property.kind.Default
    (fun _ _ hfits => sound.default_construct hfits)
    (fun _ _ _ hsame => sound.default_congr hsame) fits
  zeroed type hkind := by
    refine construct_done sound
      (fun n x => ∀ distance < type.size, property.kind.Plain x (x + distance) →
        n.cell (x + distance) = .byte 0) ?made ?congr fits
    case made =>
      intro n x hfits distance hdistance plain
      rw [size, hkind] at hfits
      rw [hkind] at plain ⊢
      exact Kind.cell_construct_struct hfits hdistance plain
    case congr =>
      intro n n' x hsame hzero distance hdistance plain
      rw [hkind] at hsame
      exact (hsame distance hdistance).trans (hzero distance hdistance plain)
  kept mask hkind := by
    rw [hkind] at sound
    cases sound with
    | bool masked => exact keptOutside_construct hkind masked m a
  changedOnly := (confined_construct sound m a).changedOnly

/-- The memory after the elements at a place were constructed. -/
def constructAt (property : Property) (memory : String → Block) (p : Place) : String → Block :=
  p.setBlock memory (property.construct (p.block memory) p.address)

variable {memory : String → Block} {p : Place}

theorem block_constructAt (sound : property.kind.Sound) :
    p.block (property.constructAt memory p) = property.construct (p.block memory) p.address :=
  Place.block_setBlock (confined_construct sound _ _).changedOnly.size_eq

end Property

/-- Construction gives default values whatever was in the memory before.  Values of one property
that were constructed at two places are identical, on either side, and have one hash. -/
theorem construct_initialized {property : Property} (described : property.Described)
    {memory : String → Block} {p : Place}
    (fits : p.address + property.totalSize ≤ (p.block memory).size) :
    property.Initialized (p.block memory) (p.block (property.constructAt memory p)) p.address ∧
      ∀ q : Place, p.Apart q property.totalSize →
        q.address + property.totalSize ≤ (q.block (property.constructAt memory p)).size →
        let after := property.constructAt (property.constructAt memory p) q
        property.identicalAllAt (p.block after) p (q.block after) q = true ∧
          property.identicalAllAt (q.block after) q (p.block after) p = true ∧
          property.hashAll (p.block after) p.address =
            property.hashAll (q.block after) q.address := by
  have hsound := described.sound
  have hfirst : property.Initialized (p.block memory) (p.block (property.constructAt memory p))
      p.address := by
    rw [Property.block_constructAt hsound]
    exact Property.initialized_construct hsound fits
  refine ⟨hfirst, fun q apart fits' => ?_⟩
  intro after
  have hsecond : property.DefaultAt (q.block after) q.address := by
    rw [Property.block_constructAt hsound]
    exact (Property.initialized_construct hsound fits').defaultAt
  -- the second construction keeps off the first value
  have hkept : property.DefaultAt (p.block after) p.address :=
    .congr_cells hsound
      (apart.symm.sameCells (Property.confined_construct hsound _ q.address).changedOnly)
      hfirst.defaultAt
  have hsame := hkept.identicalAll_and_hashAll_eq hsecond
  have hback := hsecond.identicalAll_and_hashAll_eq hkept
  refine ⟨?_, ?_, hsame.2⟩
  · rw [Property.identicalAllAt, hsame.1, Bool.or_true]
  · rw [Property.identicalAllAt, hback.1, Bool.or_true]

/-- Two instances full of garbage, which is not the same in both. -/
def usedMemory (owner : String) : Block :=
  Block.filled 40 (if owner = "first" then 0xcd else 0x5a)

/-- Ballots that are constructed in different garbage are identical and have one hash. -/
theorem construct_initialized_ballots :
    let first : Place := ⟨"first", [], 0⟩
    let second : Place := ⟨"second", [], 8⟩
    let after := ballot.constructAt (ballot.constructAt usedMemory first) second
    ballot.Initialized (usedMemory "first") (ballot.constructAt usedMemory first "first") 0 ∧
      ballot.identicalAllAt (first.block after) first (second.block after) second = true ∧
      ballot.hashAll (first.block after) 0 = ballot.hashAll (second.block after) 8 := by
  intro first second after
  have fits : first.address + ballot.totalSize ≤ (first.block usedMemory).size := by decide
  have apart : first.Apart second ballot.totalSize := ⟨by decide, Or.inl (by decide)⟩
  have fits' : second.address + ballot.totalSize ≤
      (second.block (ballot.constructAt usedMemory first)).size := by decide
  obtain ⟨hinitialized, hpair⟩ := construct_initialized described_ballot fits
  obtain ⟨hidentical, -, hhash⟩ := hpair second apart fits'
  exact ⟨hinitialized, hidentical, hhash⟩

end PropertyReflection
