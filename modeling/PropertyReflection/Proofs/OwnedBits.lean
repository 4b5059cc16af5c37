import Mathlib
import PropertyReflection.Proofs.Footprint

/-!
# The bits that belong to a value

A value does not own all of the range it lies in.  There is padding between the properties of a
struct, and a byte of packed booleans may have bits that no property has claimed.  `Kind.Owns` says
which bits are a value's own, down to the properties of nested structs.

A copy changes no other bit of the block, whatever is in the two values: the padding of the
destination is not that of the source afterwards.  Construction is not so careful, because it zeroes
a struct as a whole.

### Outline

* `Kind.Owns`, counted from the start of a value, and `Kind.OwnsAt` and `Property.OwnsAt`, at an
  address;
* `Block.KeptOutside`, which bounds a change by a set of bits;
* `Kind.Sound.keptOutside_copy`, by induction on kinds, and `Property.keptOutside_copyAll`.
-/

namespace PropertyReflection

/-! ### Ownership -/

/-- The bits of a value.  The distance is that of their byte from the start of the value. -/
inductive Kind.Owns : Kind → Nat → Nat → Prop where
  | bool {mask : UInt8} {bit : Nat} (h : mask.toBitVec.getLsbD bit = true) :
    Kind.Owns (.bool mask) 0 bit
  | scalar {s : Scalar} {distance bit : Nat} (h : distance < s.size) :
    Kind.Owns (.scalar s) distance bit
  | string {distance bit : Nat} (h : distance < handleSize) : Kind.Owns .string distance bit
  | struct {type : TypeDescriptor} {p : Property} (hp : p ∈ type.allProperties) {i : Nat}
    (hi : i < p.dim) {distance bit : Nat} (h : p.kind.Owns distance bit) :
    Kind.Owns (.struct type) (Elements.address p.offset p.size i + distance) bit
  | array {element : Kind} {distance bit : Nat} (h : distance < handleSize) :
    Kind.Owns (.array element) distance bit
  | map {key value : Kind} {distance bit : Nat} (h : distance < handleSize) :
    Kind.Owns (.map key value) distance bit

/-- The bits of the value at an address. -/
def Kind.OwnsAt (kind : Kind) (a x bit : Nat) : Prop :=
  ∃ distance, x = a + distance ∧ kind.Owns distance bit

/-- The bits of all elements of a property, the first of which is at an address. -/
def Property.OwnsAt (property : Property) (a x bit : Nat) : Prop :=
  ∃ i < property.dim, property.kind.OwnsAt (Elements.address a property.size i) x bit

/-- What belongs to a value lies in its range. -/
theorem Kind.Sound.lt_size_of_owns {kind : Kind} (sound : kind.Sound) {distance bit : Nat}
    (h : kind.Owns distance bit) : distance < kind.size := by
  induction sound generalizing distance with
  | bool _ =>
    cases h
    exact Nat.one_pos
  | scalar s =>
    cases h with
    | scalar h => exact h
  | struct layout _ ih =>
    cases h with
    | struct hp hi h =>
      have hinside := ih _ hp h
      have hend := (Elements.address_add_le hi _ _).trans (layout.within _ hp)
      exact (Nat.add_lt_add_left hinside _).trans_le hend
  | string | array _ _ | map _ _ _ _ =>
    cases h
    assumption

namespace Property

variable {p : Property} {a x bit : Nat}

/-- What belongs to the elements of a property lies in their range. -/
theorem OwnsAt.in_range (sound : p.kind.Sound) (h : p.OwnsAt a x bit) :
    a ≤ x ∧ x < a + p.totalSize := by
  obtain ⟨i, hi, distance, rfl, howns⟩ := h
  have hinside : distance < p.size := sound.lt_size_of_owns howns
  have hend := Elements.address_add_le hi a p.size
  have hstart : a ≤ Elements.address a p.size i := Nat.le_add_right _ _
  rw [← totalSize] at hend
  omega

/-- What belongs to a property of a struct belongs to the struct. -/
theorem OwnsAt.struct {type : TypeDescriptor} (hp : p ∈ type.allProperties)
    (h : p.OwnsAt (a + p.offset) x bit) : (Kind.struct type).OwnsAt a x bit := by
  obtain ⟨i, hi, distance, rfl, howns⟩ := h
  refine ⟨_, ?_, .struct hp hi howns⟩
  rw [Elements.address, Elements.address]
  omega

/-- To a boolean belong the bits of its mask. -/
theorem OwnsAt.of_bool {mask : UInt8} (hkind : p.kind = .bool mask) (h : p.OwnsAt a x bit) :
    mask.toBitVec.getLsbD bit = true := by
  obtain ⟨i, -, distance, -, howns⟩ := h
  rw [hkind] at howns
  cases howns with
  | bool h => exact h

end Property

/-! ### Changes bounded by bits -/

namespace Block

variable {m m' m'' : Block} {a count : Nat} {owned larger : Nat → Nat → Prop}

/-- No bit has changed but those of a set.  A cell without any of them is as it was, also if it is
not a byte. -/
structure KeptOutside (m m' : Block) (owned : Nat → Nat → Prop) : Prop where
  size_eq : m'.size = m.size
  bit_eq : ∀ x bit, ¬ owned x bit →
    (m'.byte x).toBitVec.getLsbD bit = (m.byte x).toBitVec.getLsbD bit
  cell_eq : ∀ x, (∀ bit < 8, ¬ owned x bit) → m'.cell x = m.cell x

namespace KeptOutside

theorem refl (m : Block) (owned : Nat → Nat → Prop) : m.KeptOutside m owned :=
  ⟨rfl, fun _ _ _ => rfl, fun _ _ => rfl⟩

theorem trans (h : m.KeptOutside m' owned) (h' : m'.KeptOutside m'' owned) :
    m.KeptOutside m'' owned where
  size_eq := h'.size_eq.trans h.size_eq
  bit_eq x bit hx := (h'.bit_eq x bit hx).trans (h.bit_eq x bit hx)
  cell_eq x hx := (h'.cell_eq x hx).trans (h.cell_eq x hx)

theorem mono (h : m.KeptOutside m' owned) (le : ∀ x bit, owned x bit → larger x bit) :
    m.KeptOutside m' larger where
  size_eq := h.size_eq
  bit_eq x bit hx := h.bit_eq x bit fun howned => hx (le x bit howned)
  cell_eq x hx := h.cell_eq x fun bit hbit howned => hx bit hbit (le x bit howned)

/-- A change to bytes that a value owns with all their bits is one to the value. -/
theorem of_changedOnly (h : m.ChangedOnly m' a count) {kind : Kind}
    (all : ∀ distance < count, ∀ bit, kind.Owns distance bit) :
    m.KeptOutside m' (kind.OwnsAt a) := by
  have hcell : ∀ x bit, ¬ kind.OwnsAt a x bit → m'.cell x = m.cell x := by
    intro x bit hx
    refine h.cell_eq x ?_
    by_contra hinside
    exact hx ⟨x - a, by omega, all (x - a) (by omega) bit⟩
  exact ⟨h.size_eq, fun x bit hx => by rw [byte_congr (hcell x bit hx)],
    fun x hx => hcell x 0 (hx 0 (by omega))⟩

/-- Writing the first cell of a representation is a change to the value it represents. -/
theorem of_setCell (m : Block) (a : Nat) (c : Cell) {kind : Kind}
    (all : ∀ distance < handleSize, ∀ bit, kind.Owns distance bit) :
    m.KeptOutside (m.setCell a c) (kind.OwnsAt a) :=
  of_changedOnly (m.changedOnly_setCell a c) fun distance hdistance =>
    all distance (hdistance.trans_le handleSize_pos)

/-- A change to bits of a range is one to the range. -/
theorem changedOnly (h : m.KeptOutside m' owned)
    (range : ∀ x bit, owned x bit → a ≤ x ∧ x < a + count) : m.ChangedOnly m' a count := by
  refine ⟨h.size_eq, fun x hx => h.cell_eq x fun bit _ howned => ?_⟩
  have hinside := range x bit howned
  omega

/-- If all bits that may have changed are in a mask, the others of each byte are as they were. -/
theorem byte_and_not_eq (h : m.KeptOutside m' owned) {mask : UInt8} {x : Nat}
    (masked : ∀ bit, owned x bit → mask.toBitVec.getLsbD bit = true) :
    m'.byte x &&& ~~~mask = m.byte x &&& ~~~mask := by
  apply UInt8.eq_of_toBitVec_eq
  refine BitVec.eq_of_getLsbD_eq fun bit hbit => ?_
  simp only [UInt8.toBitVec_and, UInt8.toBitVec_not, BitVec.getLsbD_and, BitVec.getLsbD_not]
  cases hmask : mask.toBitVec.getLsbD bit with
  | true => simp
  | false =>
    have hfree : ¬ owned x bit := fun howned => by
      rw [masked bit howned] at hmask
      exact Bool.noConfusion hmask
    rw [h.bit_eq x bit hfree]

/-- The changes of a walk add up to one inside the same set, if the walk succeeds. -/
theorem foldlM {α : Type} {f : Block → α → Except StorageFault Block} {xs : List α}
    (step : ∀ x ∈ xs, ∀ m m' : Block, f m x = .ok m' → m.KeptOutside m' owned)
    (ok : xs.foldlM f m = .ok m') : m.KeptOutside m' owned := by
  induction xs generalizing m with
  | nil =>
    obtain rfl : m = m' := Except.ok.inj ok
    exact refl m owned
  | cons x xs ih =>
    rw [List.foldlM_cons] at ok
    obtain ⟨next, hfirst, hrest⟩ := exists_of_bind_eq_ok ok
    exact (step x List.mem_cons_self m next hfirst).trans
      (ih (fun y hy => step y (List.mem_cons_of_mem _ hy)) hrest)

end KeptOutside

/-- Writing a boolean changes the bits of its mask. -/
theorem keptOutside_setBool (m : Block) (a : Nat) {mask : UInt8} (masked : mask ≠ 0)
    (value : Bool) :
    m.KeptOutside (m.setBool a mask value) ((Kind.bool mask).OwnsAt a) := by
  have howns : ∀ bit, mask.toBitVec.getLsbD bit = true → (Kind.bool mask).OwnsAt a a bit :=
    fun bit hbit => ⟨0, rfl, .bool hbit⟩
  refine ⟨size_setBool m a mask value, fun x bit hx => ?_, fun x hx => ?_⟩
  · by_cases hself : x = a
    · subst hself
      have hbit : mask.toBitVec.getLsbD bit = false := by
        rw [← Bool.not_eq_true]
        exact fun h => hx (howns bit h)
      have hkept := congrArg (fun b : UInt8 => b.toBitVec.getLsbD bit)
        (m.byte_setBool_outside x mask value)
      by_cases hlow : bit < 8
      · simpa only [UInt8.toBitVec_and, UInt8.toBitVec_not, BitVec.getLsbD_and,
          BitVec.getLsbD_not, hbit, hlow, decide_true, Bool.not_false, Bool.and_true] using hkept
      · rw [BitVec.getLsbD_of_ge _ _ (by omega), BitVec.getLsbD_of_ge _ _ (by omega)]
    · rw [byte_congr (cell_setBool_of_ne hself mask value)]
  · refine cell_setBool_of_ne (fun hself => masked ?_) mask value
    -- a boolean whose mask has a bit owns a bit of its byte
    apply UInt8.eq_of_toBitVec_eq
    refine BitVec.eq_of_getLsbD_eq fun bit hbit => ?_
    have hfree := hx bit hbit
    rw [hself] at hfree
    simpa using fun h => hfree (howns bit h)

end Block

/-! ### Copies keep what is not their own -/

namespace Property

variable {p : Property} {m m' source : Block} {a b : Nat}

/-- Copying a property changes what belongs to its elements. -/
theorem keptOutside_copyAll_of_copy
    (copied : ∀ (m m' : Block) (a b : Nat), p.kind.copy m a source b = .ok m' →
      m.KeptOutside m' (p.kind.OwnsAt a))
    (ok : p.copyAll m a source b = .ok m') : m.KeptOutside m' (p.OwnsAt a) := by
  refine Block.KeptOutside.foldlM (fun i hi n n' hstep => ?_) ok
  exact (copied n n' _ _ hstep).mono fun x bit howned => ⟨i, List.mem_range.mp hi, howned⟩

end Property

/-- Copying a value changes what belongs to it and nothing else. -/
theorem Kind.Sound.keptOutside_copy {kind : Kind} (sound : kind.Sound) {m m' source : Block}
    {a b : Nat} (ok : kind.copy m a source b = .ok m') : m.KeptOutside m' (kind.OwnsAt a) := by
  induction sound generalizing m m' a b source with
  | bool masked =>
    rw [copy] at ok
    obtain rfl := Except.ok.inj ok
    exact m.keptOutside_setBool a masked _
  | scalar s =>
    rw [copy] at ok
    obtain rfl := Except.ok.inj ok
    exact .of_changedOnly (m.changedOnly_setWord a _ s.size) fun _ hdistance _ => .scalar hdistance
  | string =>
    rw [copy] at ok
    obtain rfl := Except.ok.inj ok
    exact .of_setCell m a _ fun _ hdistance _ => .string hdistance
  | @struct type layout _ ih =>
    rw [copy, TypeDescriptor.copyFields_eq_foldlM] at ok
    refine Block.KeptOutside.foldlM (fun p hp n n' hstep => ?_) ok
    have hcopied := Property.keptOutside_copyAll_of_copy
      (fun _ _ _ _ hcopy => ih p hp hcopy) hstep
    exact hcopied.mono fun x bit howned => howned.struct hp
  | array _ _ =>
    -- the elements are built in storage of their own
    rw [copy] at ok
    obtain ⟨target, -, ok⟩ := exists_of_bind_eq_ok ok
    obtain ⟨cells, -, ok⟩ := exists_of_bind_eq_ok ok
    obtain rfl := Except.ok.inj ok
    exact .of_setCell m a _ fun _ hdistance _ => .array hdistance
  | map _ _ _ _ =>
    rw [copy] at ok
    obtain ⟨target, -, ok⟩ := exists_of_bind_eq_ok ok
    obtain ⟨cells, -, ok⟩ := exists_of_bind_eq_ok ok
    obtain rfl := Except.ok.inj ok
    exact .of_setCell m a _ fun _ hdistance _ => .map hdistance

namespace Property

variable {p : Property} {m m' source : Block} {a b : Nat}

/-- Copying a property changes what belongs to its elements and nothing else. -/
theorem keptOutside_copyAll (sound : p.kind.Sound) (ok : p.copyAll m a source b = .ok m') :
    m.KeptOutside m' (p.OwnsAt a) :=
  keptOutside_copyAll_of_copy (fun _ _ _ _ hcopy => sound.keptOutside_copy hcopy) ok

end Property

end PropertyReflection
