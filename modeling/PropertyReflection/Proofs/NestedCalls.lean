import Mathlib
import PropertyReflection.Proofs.ContainerContract
import PropertyReflection.Proofs.FaithfulCopy

/-!
# Every nested call keeps the memory contract

`contract_in_nested_calls` is about any property and any address that keeps the contract: aligned,
and with room for all elements.  Then all nested addresses keep it as well, at any depth, and the
elements of a row, the elements of an array, and the keys and values of a map take separate bytes.

`Property.KeepsContract` collects this for one property at one address.  That no operation passes on
an address that breaks the contract is said by the guarded operations, which are never stopped.

### Outline

* `Property.keepsContract`, for one property at one address;
* `Site.Nested`, what lies in a value, and `Site.Kept.nested`, by induction on the depth;
* `contract_in_nested_calls`.
-/

namespace PropertyReflection

/-! ### Properties -/

namespace Property

/-- All elements of a property are live. -/
def LiveAt (property : Property) (m : Block) (x : Nat) : Prop :=
  ∀ i < property.dim, property.kind.Live m (Elements.address x property.size i)

/-- What the contract means for a property: where its elements and all that is in them are, and that
the operations keep the contract. -/
structure KeepsContract (buffers : Buffers) (property : Property) (region : Region) (m : Block)
    (x : Nat) : Prop where
  /-- Every element is aligned, and lies in the bytes that the property takes. -/
  element_admits : ∀ i < property.dim, (Region.row region.base property.kind property.dim x).Admits
    property.kind 1 (Elements.address x property.size i)
  elements_apart : ∀ i j, i ≠ j →
    Elements.address x property.size i + property.size ≤ Elements.address x property.size j ∨
      Elements.address x property.size j + property.size ≤ Elements.address x property.size i
  /-- If the elements are structs, their properties keep the contract, own and inherited ones. -/
  field_admits : ∀ type, property.kind = .struct type → ∀ i < property.dim,
    ∀ p ∈ type.allProperties,
      (Region.row region.base (.struct type) 1 (Elements.address x property.size i)).Admits
        p.kind p.dim (Elements.address x property.size i + p.offset)
  construct : property.guardedConstruct region m x = .ok (property.construct m x)
  construct_live : property.LiveAt (property.construct m x) x
  destroy : property.LiveAt m x →
    property.guardedDestroy buffers region m x = .ok (property.destroy m x)
  copy : ∀ (other : Region) (source : Block) (y : Nat),
    other.Admits property.kind property.dim y → property.LiveAt m x → property.LiveAt source y →
    property.guardedCopy buffers region m x other source y =
      (property.copyAll m x source y).mapError .storage
  copy_live : ∀ (source m' : Block) (y : Nat), property.LiveAt source y →
    property.copyAll m x source y = .ok m' → property.LiveAt m' x
  identical : ∀ (other : Region) (n : Block) (y : Nat), other.Admits property.kind property.dim y →
    property.LiveAt m x → property.LiveAt n y →
    property.guardedIdentical buffers region m x other n y = .ok (property.identicalAll m x n y)
  hash : property.LiveAt m x →
    property.guardedHash buffers region m x = .ok (property.hashAll m x)
  array : property.LiveAt m x → ∀ element, property.kind = .array element → ∀ i < property.dim,
    ArrayValue.KeepsContract buffers (region.base + Elements.address x property.size i) element
      (m.slots (Elements.address x property.size i))
  map : property.LiveAt m x → ∀ key value, property.kind = .map key value → ∀ i < property.dim,
    MapValue.KeepsContract buffers (region.base + Elements.address x property.size i) key value
      (m.slots (Elements.address x property.size i))

variable {property : Property} {m : Block} {x : Nat}

/-- Default values are live. -/
theorem liveAt_construct (sound : property.kind.Sound) (fits : x + property.totalSize ≤ m.size) :
    property.LiveAt (property.construct m x) x :=
  construct_done sound property.kind.Live (fun _ _ hfits => sound.live_construct hfits)
    (fun _ _ _ hsame => sound.live_congr hsame) fits

/-- A property keeps the contract wherever it is aligned and has its bytes. -/
theorem keepsContract {buffers : Buffers} (aligned : buffers.Aligned)
    (sound : property.kind.Sound) {region : Region}
    (admits : region.Admits property.kind property.dim x)
    (fits : x + property.totalSize ≤ m.size) : property.KeepsContract buffers region m x where
  element_admits _ hi := Property.element_admits sound admits hi
  elements_apart _ _ hij := Elements.address_apart hij x property.size
  field_admits type hkind i hi p hp := by
    have helement := Property.element_admits sound admits hi
    rw [hkind] at sound helement
    cases sound with
    | struct layout fieldsSound => exact layout.row_admits helement.1 hp
  construct := guardedConstruct_eq sound sound.constructs admits m
  construct_live := liveAt_construct sound fits
  destroy live := guardedDestroy_eq sound (sound.destroys aligned) admits live
  copy other source y admitsOther live liveOther := by
    obtain ⟨m', hplain, hguarded, -⟩ :=
      guardedCopy_ok sound (sound.copies aligned) admits admitsOther fits live liveOther
    rw [hguarded, hplain]
    rfl
  copy_live source m' y liveOther ok := by
    obtain ⟨m'', hok, -, hcopied⟩ := copyAll_ok sound sound.copiesFaithfully fits liveOther
    obtain rfl : m'' = m' := Except.ok.inj (hok.symm.trans ok)
    exact fun i hi => (hcopied i hi).live
  identical other n y admitsOther live liveOther := by
    rw [guardedIdentical, guardElementPairs_identical sound (sound.compares aligned) admits
      admitsOther live liveOther, Bool.true_and]
  hash live := guardedHash_eq sound (sound.hashes aligned) admits live
  array live element hkind i hi := by
    have helement := live i hi
    rw [hkind] at sound helement
    cases sound with
    | array elementSound =>
      exact (ArrayValue.live_array_iff.mp helement).keepsContract aligned elementSound _
  map live key value hkind i hi := by
    have hpairs := live i hi
    rw [hkind] at sound hpairs
    cases sound with
    | map keySound valueSound =>
      exact (MapValue.live_map_iff.mp hpairs).keepsContract aligned keySound valueSound _

end Property

/-! ### Nested values -/

/-- Where the elements of a property are: the property, the region that they have to lie in, and
block and address of the first one. -/
structure Site where
  property : Property
  region : Region
  block : Block
  address : Nat

namespace Site

variable {buffers : Buffers} {site inner : Site}

/-- The address of an element. -/
def element (site : Site) (i : Nat) : Nat :=
  Elements.address site.address site.property.size i

/-- What lies directly in the elements of a property: the properties of a struct, own and inherited
ones, the elements of an array, the keys and the values of a map. -/
inductive Directly (buffers : Buffers) (site : Site) : Site → Prop where
  | field {type : TypeDescriptor} (kind_eq : site.property.kind = .struct type) {i : Nat}
    (hi : i < site.property.dim) {p : Property} (mem : p ∈ type.allProperties) :
    Directly buffers site ⟨p, .row site.region.base (.struct type) 1 (site.element i), site.block,
      site.element i + p.offset⟩
  | ofElement {element : Kind} (kind_eq : site.property.kind = .array element) {i : Nat}
    (hi : i < site.property.dim) {j : Nat} (hj : j < (site.block.slots (site.element i)).count) :
    Directly buffers site ⟨.ofElement element,
      .ofArray buffers (site.region.base + site.element i) element
        (site.block.slots (site.element i)),
      (site.block.slots (site.element i)).cells, Elements.address 0 element.size j⟩
  | ofKey {key value : Kind} (kind_eq : site.property.kind = .map key value) {i : Nat}
    (hi : i < site.property.dim) {j : Nat} (hj : j < (site.block.slots (site.element i)).count) :
    Directly buffers site ⟨.ofKey key,
      .ofMap buffers (site.region.base + site.element i) key value
        (site.block.slots (site.element i)),
      (site.block.slots (site.element i)).cells, MapValue.keyAddress key value j⟩
  | ofValue {key value : Kind} (kind_eq : site.property.kind = .map key value) {i : Nat}
    (hi : i < site.property.dim) {j : Nat} (hj : j < (site.block.slots (site.element i)).count) :
    Directly buffers site ⟨.ofValue key value,
      .ofMap buffers (site.region.base + site.element i) key value
        (site.block.slots (site.element i)),
      (site.block.slots (site.element i)).cells, MapValue.valueAddress key value j⟩

/-- What lies in the elements of a property at any depth, and the elements themselves. -/
def Nested (buffers : Buffers) : Site → Site → Prop :=
  Relation.ReflTransGen (Directly buffers)

/-- Live elements where the contract wants them. -/
structure Kept (site : Site) : Prop where
  sound : site.property.kind.Sound
  admits : site.region.Admits site.property.kind site.property.dim site.address
  fits : site.address + site.property.totalSize ≤ site.block.size
  live : site.property.LiveAt site.block site.address

/-- A single live value where the contract wants it. -/
theorem kept_of_single {p : Property} (hdim : p.dim = 1) (sound : p.kind.Sound) {region : Region}
    {cells : Block} {x : Nat} (admits : region.Admits p.kind 1 x)
    (fits : x + p.kind.size ≤ cells.size) (live : p.kind.Live cells x) :
    Kept ⟨p, region, cells, x⟩ where
  sound := sound
  admits := hdim.symm ▸ admits
  fits := by
    rw [Property.totalSize, hdim, Nat.mul_one]
    exact fits
  live i hi := by
    obtain rfl : i = 0 := by
      change i < p.dim at hi
      omega
    rwa [Elements.address, Nat.zero_mul, Nat.add_zero]

/-- What lies directly in live elements is live, and where the contract wants it. -/
theorem Kept.directly (kept : site.Kept) (aligned : buffers.Aligned)
    (directly : Directly buffers site inner) : inner.Kept := by
  have hsound := kept.sound
  cases directly with
  | @field type kind_eq i hi p mem =>
    have hlive := kept.live i hi
    have hadmits := Property.element_admits hsound kept.admits hi
    have hinside := Elements.address_add_le hi site.address site.property.size
    have hsize : site.property.size = type.size := by rw [Property.size, kind_eq, Kind.size]
    have hblock := kept.fits
    rw [kind_eq] at hsound hlive hadmits
    cases hsound with
    | struct layout fieldsSound =>
      cases hlive with
      | struct fields =>
        have hwithin := layout.within p mem
        refine ⟨fieldsSound p mem, layout.row_admits hadmits.1 mem, ?_, fields p mem⟩
        change site.element i + p.offset + p.totalSize ≤ site.block.size
        rw [Property.totalSize] at hblock
        rw [element]
        omega
  | @ofElement element kind_eq i hi j hj =>
    have hlive := kept.live i hi
    rw [kind_eq] at hsound hlive
    cases hsound with
    | array elementSound =>
      have hlive := ArrayValue.live_array_iff.mp hlive
      exact kept_of_single rfl elementSound
        (Region.ofArray_admits aligned elementSound (hj.trans_le hlive.storage.count_le))
        (hlive.storage.slot_le hj) (hlive.elementLive j hj)
  | @ofKey key value kind_eq i hi j hj =>
    have hlive := kept.live i hi
    rw [kind_eq] at hsound hlive
    cases hsound with
    | map keySound valueSound =>
      have hlive := MapValue.live_map_iff.mp hlive
      have hcapacity := hj.trans_le hlive.storage.count_le
      exact kept_of_single rfl keySound
        (Region.ofMap_admits_key aligned keySound valueSound hcapacity)
        (hlive.key_le valueSound hj) (hlive.pairLive j hj).1
  | @ofValue key value kind_eq i hi j hj =>
    have hlive := kept.live i hi
    rw [kind_eq] at hsound hlive
    cases hsound with
    | map keySound valueSound =>
      have hlive := MapValue.live_map_iff.mp hlive
      have hcapacity := hj.trans_le hlive.storage.count_le
      exact kept_of_single rfl valueSound
        (Region.ofMap_admits_value aligned keySound valueSound hcapacity)
        (hlive.value_le valueSound hj) (hlive.pairLive j hj).2

/-- What lies in live elements at any depth is live, and where the contract wants it. -/
theorem Kept.nested (kept : site.Kept) (aligned : buffers.Aligned)
    (nested : Nested buffers site inner) : inner.Kept := by
  induction nested with
  | refl => exact kept
  | tail _ directly ih => exact ih.directly aligned directly

end Site

/-- The memory contract is preserved through every nested call, whether an operation is about the
first element of a property or about all of them.  If the elements are live, then everything that
lies in them at any depth is where the contract wants it, and keeps the contract itself. -/
theorem contract_in_nested_calls {buffers : Buffers} (aligned : buffers.Aligned)
    {property : Property} (described : property.Described) (scope : Scope) {base : Nat} {m : Block}
    {x : Nat} (suits : property.align ∣ base + x)
    (fits : x + (scope.view property).totalSize ≤ m.size) :
    (scope.view property).KeepsContract buffers ⟨base, 0, m.size⟩ m x ∧
      ((scope.view property).LiveAt m x → ∀ inner : Site,
        Site.Nested buffers ⟨scope.view property, ⟨base, 0, m.size⟩, m, x⟩ inner →
          inner.region.Admits inner.property.kind inner.property.dim inner.address ∧
            inner.property.KeepsContract buffers inner.region inner.block inner.address) := by
  have hsound : (scope.view property).kind.Sound := by
    rw [scope.kind_view]
    exact described.sound
  have hsuits : (scope.view property).kind.align ∣ base + x := by
    rw [scope.kind_view]
    exact suits
  refine ⟨Property.keepsContract aligned hsound ⟨hsuits, Nat.zero_le x, fits⟩ fits, ?_⟩
  intro live inner nested
  have houter : Site.Kept ⟨scope.view property, ⟨base, 0, m.size⟩, m, x⟩ :=
    ⟨hsound, ⟨hsuits, Nat.zero_le x, fits⟩, fits, live⟩
  have hinner : inner.Kept := houter.nested aligned nested
  exact ⟨hinner.admits, Property.keepsContract aligned hinner.sound hinner.admits hinner.fits⟩

/-- An allocator that puts storage at multiples of the alignment. -/
def spread : Buffers := fun _ capacity align => align * (capacity + 1)

theorem aligned_spread : spread.Aligned := fun _ _ _ => Nat.dvd_mul_right _ _

/-- The value of a vote lies two steps deep in the first ballot. -/
theorem nested_firstVote :
    Site.Nested spread ⟨ballot, ⟨4096, 0, (ballots "first").size⟩, ballots "first", 0⟩
      ⟨.ofValue (.scalar .uint8) (.scalar .uint8),
        .ofMap spread (4096 + 8) (.scalar .uint8) (.scalar .uint8) ((ballots "first").slots 8),
        ((ballots "first").slots 8).cells,
        MapValue.valueAddress (.scalar .uint8) (.scalar .uint8) 0⟩ := by
  have hmem : ballotVotes ∈ ballotType.allProperties := by
    simp [TypeDescriptor.allProperties, ballotType, ballotVotes]
  have hvotes : Site.Directly spread
      ⟨ballot, ⟨4096, 0, (ballots "first").size⟩, ballots "first", 0⟩
      ⟨ballotVotes, .row 4096 (.struct ballotType) 1 0, ballots "first", 8⟩ :=
    @Site.Directly.field spread _ ballotType rfl 0 Nat.one_pos ballotVotes hmem
  have hvalue : Site.Directly spread
      ⟨ballotVotes, .row 4096 (.struct ballotType) 1 0, ballots "first", 8⟩ _ :=
    @Site.Directly.ofValue spread _ (.scalar .uint8) (.scalar .uint8) rfl 0 Nat.one_pos 0
      (by decide)
  exact .tail (.single hvotes) hvalue

/-- The first ballot is live and keeps the contract, and so does the value of its first vote. -/
theorem contract_in_nested_calls_ballot :
    ballot.LiveAt (ballots "first") 0 ∧
      ballot.KeepsContract spread ⟨4096, 0, (ballots "first").size⟩ (ballots "first") 0 ∧
      (Region.ofMap spread (4096 + 8) (.scalar .uint8) (.scalar .uint8)
        ((ballots "first").slots 8)).Admits (.scalar .uint8) 1
          (MapValue.valueAddress (.scalar .uint8) (.scalar .uint8) 0) := by
  have suits : ballot.align ∣ 4096 + 0 := by decide
  have fits : 0 + (Scope.all.view ballot).totalSize ≤ (ballots "first").size := by decide
  obtain ⟨hkeeps, hnested⟩ :=
    contract_in_nested_calls aligned_spread described_ballot .all suits fits
  exact ⟨live_firstBallot, hkeeps, (hnested live_firstBallot _ nested_firstVote).1⟩

end PropertyReflection
