import Mathlib
import PropertyReflection.Proofs.RepresentationFlags
import PropertyReflection.Proofs.SiblingIsolation

/-!
# Comparing plain old data byte by byte

Plain old data can be copied byte by byte, but a comparison of bytes is not a comparison of values.
Equal bytes are identical values unless there is a NaN among them.  Different bytes can be identical
values in three ways: the two zeros of a floating-point number, the bytes other than zero that all
make a boolean true, and the padding of a struct.

`Kind.ByteExact` leaves the three out.  For the other kinds `Kind.Confuses` names one byte in which
two values differ and are identical nevertheless, so a comparison of bytes is one of values for no
kind but these.

### Outline

* words: `Block.word_eq_iff`;
* `Kind.ByteExact` and `Kind.ByteExact.identical_iff`;
* `Kind.Confuses` and `Kind.Confuses.identical`, for values of zeros but for one byte;
* `Kind.Sound.byteExact_or_confuses`;
* NaNs: `Kind.keyed_read_of_isPlainOldData`;
* `TypeDescriptor.Built.byteComparison`, for all properties of a built type.
-/

namespace PropertyReflection

/-! ### Bytes and words -/

namespace Block

variable {m n : Block} {a b count : Nat}

/-- Words are equal if and only if their bytes are. -/
theorem word_eq_iff (hcount : count ≤ 8) :
    m.word a count = n.word b count ↔ m.SameBytes a n b count := by
  refine ⟨fun h => ?_, SameBytes.word_eq⟩
  induction count generalizing a b with
  | zero => exact fun i hi => absurd hi (Nat.not_lt_zero i)
  | succ count ih =>
    have hword := congrArg UInt64.toNat h
    have hm : (m.word (a + 1) count).toNat < 2 ^ (8 * count) := toNat_word_lt m (a + 1) (by omega)
    have hn : (n.word (b + 1) count).toNat < 2 ^ (8 * count) := toNat_word_lt n (b + 1) (by omega)
    have hle : 2 ^ (8 * count) ≤ 2 ^ 56 := Nat.pow_le_pow_right (by omega) (by omega)
    rw [toNat_word_succ m a count (by omega), toNat_word_succ n b count (by omega)] at hword
    have hfirst := (m.byte a).toNat_lt
    have hfirst' := (n.byte b).toNat_lt
    have hbyte : m.byte a = n.byte b := UInt8.toNat_inj.mp (by omega)
    have hrest : m.SameBytes (a + 1) n (b + 1) count :=
      ih (by omega) (UInt64.toNat_inj.mp (by omega))
    intro i hi
    cases i with
    | zero => exact hbyte
    | succ i =>
      have hlater := hrest i (by omega)
      rwa [Nat.add_assoc, Nat.add_assoc, Nat.add_comm 1 i] at hlater

/-- Rows have the same bytes if and only if their elements have. -/
theorem sameBytes_row_iff {stride : Nat} (pos : 0 < stride) :
    m.SameBytes a n b (stride * count) ↔
      ∀ i < count,
        m.SameBytes (Elements.address a stride i) n (Elements.address b stride i) stride := by
  refine ⟨fun h i hi => h.element hi, fun h x hx => ?_⟩
  have hbyte := h (x / stride) (Nat.div_lt_of_lt_mul hx) (x % stride) (Nat.mod_lt x pos)
  rwa [Elements.address, Elements.address, Nat.add_assoc, Nat.add_assoc, Nat.div_add_mod'] at hbyte

/-- A word of zeros is zero. -/
theorem word_eq_zero (zeros : ∀ i < count, m.byte (a + i) = 0) : m.word a count = 0 := by
  induction count generalizing a with
  | zero => rfl
  | succ count ih =>
    have hfirst : m.byte a = 0 := zeros 0 (Nat.succ_pos count)
    have hrest : m.word (a + 1) count = 0 := ih fun i hi => by
      rw [Nat.add_assoc]
      exact zeros (1 + i) (by omega)
    rw [word, hfirst, hrest]
    rfl

/-- A value of zeros but for one byte. -/
def onlyByte (count x : Nat) (value : UInt8) : Block := (filled count 0).setByte x value

theorem byte_onlyByte {count x : Nat} (hx : x < count) (value : UInt8) (y : Nat) :
    (onlyByte count x value).byte y = if y = x then value else 0 := by
  have hsize : (filled count 0).size = count := Array.size_replicate
  by_cases hself : y = x
  · rw [if_pos hself, hself]
    exact byte_setByte_self (hsize.symm ▸ hx) value
  · have hzero : (filled count 0).cell y = .byte 0 := by
      rw [cell, filled, Array.getD_eq_getD_getElem?, Array.getElem?_replicate]
      split <;> rfl
    have hkept : (onlyByte count x value).cell y = (filled count 0).cell y :=
      cell_setCell_of_ne hself _
    rw [if_neg hself, byte, hkept, hzero]

/-- Two values consist of zeros but for one byte, in which they differ. -/
structure DifferInOneByte (m : Block) (a : Nat) (n : Block) (b count x : Nat) (u v : UInt8) :
    Prop where
  left : m.byte (a + x) = u
  right : n.byte (b + x) = v
  zeros : ∀ y < count, y ≠ x → m.byte (a + y) = 0 ∧ n.byte (b + y) = 0

variable {x : Nat} {u v : UInt8}

/-- In a part of two values that has the byte, the parts differ in it. -/
theorem DifferInOneByte.part (h : m.DifferInOneByte a n b count (distance + x) u v)
    {length : Nat} (fits : distance + length ≤ count) :
    m.DifferInOneByte (a + distance) n (b + distance) length x u v where
  left := by rw [Nat.add_assoc]; exact h.left
  right := by rw [Nat.add_assoc]; exact h.right
  zeros y hy hne := by
    rw [Nat.add_assoc, Nat.add_assoc]
    exact h.zeros (distance + y) (by omega) (by omega)

theorem differInOneByte_onlyByte (hx : x < count) (u v : UInt8) :
    (onlyByte count x u).DifferInOneByte 0 (onlyByte count x v) 0 count x u v where
  left := by rw [Nat.zero_add, byte_onlyByte hx, if_pos rfl]
  right := by rw [Nat.zero_add, byte_onlyByte hx, if_pos rfl]
  zeros y _ hne := by
    rw [Nat.zero_add, byte_onlyByte hx, byte_onlyByte hx, if_neg hne, if_neg hne]
    exact ⟨rfl, rfl⟩

/-- Two values that differ in one byte have the bytes of these. -/
theorem DifferInOneByte.sameBytes (h : m.DifferInOneByte a n b count x u v) (hx : x < count) :
    m.SameBytes a (onlyByte count x u) 0 count ∧ n.SameBytes b (onlyByte count x v) 0 count := by
  constructor
  all_goals
    intro y hy
    rw [Nat.zero_add, byte_onlyByte hx]
    split
  · next hself => exact hself ▸ h.left
  · next hne => exact (h.zeros y hy hne).1
  · next hself => exact hself ▸ h.right
  · next hne => exact (h.zeros y hy hne).2

end Block

namespace Kind

variable {kind : Kind} {type : TypeDescriptor} {m n : Block} {a b : Nat}

/-! ### Kinds whose values are their bytes -/

/-- Different bytes are different values: there is no floating-point number and no boolean in a
value, and no padding. -/
inductive ByteExact : Kind → Prop where
  | scalar {s : Scalar} (integral : s.isFloat = false) : ByteExact (.scalar s)
  | struct {type : TypeDescriptor}
    (covered : ∀ x < type.size, ∃ p ∈ type.allProperties,
      p.offset ≤ x ∧ x < p.offset + p.totalSize)
    (fields : ∀ p ∈ type.allProperties, 0 < p.dim → ByteExact p.kind) : ByteExact (.struct type)

end Kind

/-- A row of elements is identical to another one if and only if the bytes are the same, if this
holds of the elements. -/
theorem Property.identicalAll_iff_of_kind {p : Property} (pos : 0 < p.size)
    (exact : 0 < p.dim → ∀ (m : Block) (a : Nat) (n : Block) (b : Nat),
      p.kind.identical m a n b = true ↔ m.SameBytes a n b p.size)
    (m : Block) (a : Nat) (n : Block) (b : Nat) :
    p.identicalAll m a n b = true ↔ m.SameBytes a n b p.totalSize := by
  rw [identicalAll, Elements.all_eq_true, totalSize, Block.sameBytes_row_iff pos]
  exact forall₂_congr fun i hi => exact (Nat.zero_lt_of_lt hi) m _ n _

/-- Values of such a kind are identical if and only if their bytes are the same. -/
theorem Kind.ByteExact.identical_iff {kind : Kind} (exact : kind.ByteExact) (sound : kind.Sound)
    (m : Block) (a : Nat) (n : Block) (b : Nat) :
    kind.identical m a n b = true ↔ m.SameBytes a n b kind.size := by
  induction exact generalizing m a n b with
  | @scalar s integral =>
    rw [Kind.identical, Scalar.same, integral, if_neg Bool.false_ne_true, beq_iff_eq,
      Block.word_eq_iff s.size_le]
    rfl
  | @struct type covered _ ih =>
    cases sound with
    | struct layout fieldsSound =>
      have hrow : ∀ p ∈ type.allProperties,
          p.identicalAll m (a + p.offset) n (b + p.offset) = true ↔
            m.SameBytes (a + p.offset) n (b + p.offset) p.totalSize := fun p hp =>
        p.identicalAll_iff_of_kind (fieldsSound p hp).size_pos
          (fun hdim => ih p hp hdim (fieldsSound p hp)) m _ n _
      rw [Kind.identical, TypeDescriptor.identicalFields_eq_all, List.all_eq_true]
      constructor
      · intro h x hx
        obtain ⟨p, hp, hlow, hhigh⟩ := covered x hx
        have hbyte := (hrow p hp).mp (h p hp) (x - p.offset) (by omega)
        rwa [Nat.add_assoc, Nat.add_assoc, Nat.add_sub_cancel' hlow] at hbyte
      · exact fun h p hp => (hrow p hp).mpr (h.part (layout.within p hp))

/-! ### Kinds with identical values of different bytes -/

/-- Two values are identical that consist of zeros but for one byte, at a distance, which is one
thing in the one and another in the other. -/
inductive Kind.Confuses : Kind → Nat → UInt8 → UInt8 → Prop where
  | bool : Kind.Confuses .nativeBool 0 1 2
  | float {s : Scalar} (isFloat : s.isFloat = true) : Kind.Confuses (.scalar s) (s.size - 1) 0 0x80
  | padding {type : TypeDescriptor} {x : Nat} (inside : x < type.size)
    (free : ∀ p ∈ type.allProperties, x < p.offset ∨ p.offset + p.totalSize ≤ x) :
    Kind.Confuses (.struct type) x 0 1
  | field {type : TypeDescriptor} {p : Property} (mem : p ∈ type.allProperties)
    (nonempty : 0 < p.dim) {x : Nat} {u v : UInt8} (confuses : p.kind.Confuses x u v) :
    Kind.Confuses (.struct type) (p.offset + x) u v

namespace Kind

variable {kind : Kind} {type : TypeDescriptor} {m n : Block} {a b x : Nat} {u v : UInt8}

theorem Confuses.ne (h : kind.Confuses x u v) : u ≠ v := by
  induction h with
  | bool | float _ | padding _ _ => decide
  | field _ _ _ ih => exact ih

theorem Confuses.lt_size (h : kind.Confuses x u v) (sound : kind.Sound) : x < kind.size := by
  induction h with
  | bool => exact Nat.one_pos
  | @float s _ => exact Nat.sub_lt s.size_pos Nat.one_pos
  | padding inside _ => exact inside
  | @field type p mem nonempty x _ _ _ ih =>
    cases sound with
    | struct layout fieldsSound =>
      have hx : x < p.size := ih (fieldsSound p mem)
      have hwithin := layout.within p mem
      have hfirst : p.size ≤ p.totalSize := Nat.le_mul_of_pos_right p.size nonempty
      rw [size]
      omega

/-- Every kind of plain old data is one or the other. -/
theorem Sound.byteExact_or_confuses (sound : kind.Sound) (pod : kind.isPlainOldData = true) :
    kind.ByteExact ∨ ∃ x u v, kind.Confuses x u v := by
  induction sound with
  | @bool mask _ =>
    obtain rfl : mask = fullMask := by simpa [isPlainOldData] using pod
    exact Or.inr ⟨_, _, _, .bool⟩
  | scalar s =>
    cases hfloat : s.isFloat with
    | false => exact Or.inl (.scalar hfloat)
    | true => exact Or.inr ⟨_, _, _, .float hfloat⟩
  | @struct type _ _ ih =>
    rw [isPlainOldData_struct_iff] at pod
    by_cases hpadding : ∃ x < type.size, ∀ p ∈ type.allProperties,
        x < p.offset ∨ p.offset + p.totalSize ≤ x
    · obtain ⟨x, hx, hfree⟩ := hpadding
      exact Or.inr ⟨_, _, _, .padding hx hfree⟩
    by_cases hfield : ∃ p ∈ type.allProperties, 0 < p.dim ∧ ∃ x u v, p.kind.Confuses x u v
    · obtain ⟨p, hp, hdim, x, u, v, hconfuses⟩ := hfield
      exact Or.inr ⟨_, _, _, .field hp hdim hconfuses⟩
    push Not at hpadding hfield
    refine Or.inl (.struct (fun x hx => hpadding x hx) fun p hp hdim => ?_)
    refine (ih p hp (pod p hp)).resolve_right ?_
    rintro ⟨x, u, v, hconfuses⟩
    exact hfield p hp hdim x u v hconfuses
  | string | array _ _ | map _ _ _ _ => exact absurd pod Bool.false_ne_true

/-- Plain old data of zeros is the default value. -/
theorem Sound.default_of_zeros (sound : kind.Sound) (pod : kind.isPlainOldData = true)
    (zeros : ∀ distance < kind.size, m.byte (a + distance) = 0) : kind.Default m a := by
  induction sound generalizing a with
  | @bool mask _ =>
    have hbyte : m.byte a = 0 := zeros 0 Nat.one_pos
    refine .bool ?_
    rw [Block.bool, Block.boolBits, hbyte, UInt8.zero_and]
    rfl
  | scalar s => exact .scalar (Block.word_eq_zero zeros)
  | @struct type layout _ ih =>
    rw [isPlainOldData_struct_iff] at pod
    refine .struct fun p hp i hi => ih p hp (pod p hp) fun distance hdistance => ?_
    have hwithin := layout.within p hp
    have hinside := Elements.address_add_le hi p.offset p.size
    rw [Elements.address] at hinside
    rw [Elements.address, Nat.add_assoc, Nat.add_assoc]
    exact zeros _ (by rw [size, Property.totalSize, Property.size] at *; omega)
  | string | array _ _ | map _ _ _ _ => exact absurd pod Bool.false_ne_true

end Kind

namespace Block.DifferInOneByte

variable {m n : Block} {a b count x distance : Nat} {u v : UInt8}

/-- Plain old data in which the byte does not lie is the default value on both sides. -/
theorem identical_of_outside (h : m.DifferInOneByte a n b count x u v) {kind : Kind}
    (sound : kind.Sound) (pod : kind.isPlainOldData = true) (fits : distance + kind.size ≤ count)
    (outside : x < distance ∨ distance + kind.size ≤ x) :
    kind.identical m (a + distance) n (b + distance) = true := by
  have hzeros : ∀ y < kind.size, m.byte (a + distance + y) = 0 ∧ n.byte (b + distance + y) = 0 := by
    intro y hy
    rw [Nat.add_assoc, Nat.add_assoc]
    exact h.zeros (distance + y) (by omega) (by omega)
  exact (sound.default_of_zeros pod fun y hy => (hzeros y hy).1).identical
    (sound.default_of_zeros pod fun y hy => (hzeros y hy).2)

variable {p : Property}

/-- A property is identical if each element in which the byte lies is. -/
theorem identicalAll (h : m.DifferInOneByte a n b count x u v) (sound : p.kind.Sound)
    (pod : p.kind.isPlainOldData = true) (fits : distance + p.totalSize ≤ count)
    (elements : ∀ i < p.dim,
      (x < distance + i * p.size ∨ distance + i * p.size + p.size ≤ x) ∨
        p.kind.identical m (a + (distance + i * p.size)) n (b + (distance + i * p.size)) = true) :
    p.identicalAll m (a + distance) n (b + distance) = true := by
  rw [Property.identicalAll, Elements.all_eq_true]
  intro i hi
  have hinside := Elements.address_add_le hi distance p.size
  rw [Elements.address, Elements.address, Nat.add_assoc, Nat.add_assoc]
  rcases elements i hi with houtside | hidentical
  · exact h.identical_of_outside sound pod (hinside.trans fits) houtside
  · exact hidentical

/-- A property in which the byte does not lie is identical. -/
theorem identicalAll_of_outside (h : m.DifferInOneByte a n b count x u v) (sound : p.kind.Sound)
    (pod : p.kind.isPlainOldData = true) (fits : distance + p.totalSize ≤ count)
    (outside : x < distance ∨ distance + p.totalSize ≤ x) :
    p.identicalAll m (a + distance) n (b + distance) = true := by
  refine h.identicalAll sound pod fits fun i hi => Or.inl ?_
  have hinside := Elements.address_add_le hi distance p.size
  rw [Elements.address, ← Property.totalSize] at hinside
  omega

/-- If the byte lies in the first element, it is enough that this one is identical. -/
theorem identicalAll_of_first (h : m.DifferInOneByte a n b count (distance + x) u v)
    (sound : p.kind.Sound) (pod : p.kind.isPlainOldData = true)
    (fits : distance + p.totalSize ≤ count) (hx : x < p.size)
    (first : p.kind.identical m (a + distance) n (b + distance) = true) :
    p.identicalAll m (a + distance) n (b + distance) = true := by
  refine h.identicalAll sound pod fits fun i hi => ?_
  cases i with
  | zero =>
    rw [Nat.zero_mul, Nat.add_zero]
    exact Or.inr first
  | succ i =>
    have hnext : p.size ≤ (i + 1) * p.size := Nat.le_mul_of_pos_left p.size (Nat.succ_pos i)
    exact Or.inl (Or.inl (by omega))

end Block.DifferInOneByte

/-- Properties of plain old data do not even share a byte. -/
theorem TypeDescriptor.SoundLayout.bytes_apart {type : TypeDescriptor} (layout : type.SoundLayout)
    (pod : ∀ p ∈ type.allProperties, p.kind.isPlainOldData = true) {p q : Property}
    (hp : p ∈ type.allProperties) (hq : q ∈ type.allProperties) (hne : p ≠ q) :
    p.offset + p.totalSize ≤ q.offset ∨ q.offset + q.totalSize ≤ p.offset := by
  rcases layout.apart_of_ne hp hq hne with h | h | ⟨mask, other, hmask, hother, -, -, -, hnone⟩
  · exact Or.inl h
  · exact Or.inr h
  · -- two booleans that have their bytes to themselves
    have hpodP := pod p hp
    have hpodQ := pod q hq
    rw [hmask, Kind.isPlainOldData, beq_iff_eq] at hpodP
    rw [hother, Kind.isPlainOldData, beq_iff_eq] at hpodQ
    rw [hpodP, hpodQ] at hnone
    exact absurd hnone (by decide)

/-- Values that differ in such a byte are identical. -/
theorem Kind.Confuses.identical {kind : Kind} {x : Nat} {u v : UInt8} (h : kind.Confuses x u v)
    (sound : kind.Sound) (pod : kind.isPlainOldData = true) {m n : Block} {a b : Nat}
    (differ : m.DifferInOneByte a n b kind.size x u v) : kind.identical m a n b = true := by
  induction h generalizing a b with
  | bool =>
    have hleft : m.byte a = 1 := differ.left
    have hright : n.byte b = 2 := differ.right
    rw [nativeBool, Kind.identical, Block.bool, Block.bool, Block.boolBits, Block.boolBits, hleft,
      hright]
    decide
  | @float s isFloat =>
    have differ : m.DifferInOneByte a n b s.size (s.size - 1) 0 0x80 := differ
    obtain ⟨hleft, hright⟩ := differ.sameBytes (Nat.sub_lt s.size_pos Nat.one_pos)
    have hzeros : s.same ((Block.onlyByte s.size (s.size - 1) 0).word 0 s.size)
        ((Block.onlyByte s.size (s.size - 1) 0x80).word 0 s.size) = true := by
      cases s with
      | float32 | float64 => decide
      | _ => exact absurd isFloat Bool.false_ne_true
    rw [Kind.identical, hleft.word_eq, hright.word_eq]
    exact hzeros
  | @padding type x inside free =>
    cases sound with
    | struct layout fieldsSound =>
      rw [isPlainOldData_struct_iff] at pod
      rw [Kind.identical, TypeDescriptor.identicalFields_eq_all, List.all_eq_true]
      exact fun p hp => differ.identicalAll_of_outside (fieldsSound p hp) (pod p hp)
        (layout.within p hp) (free p hp)
  | @field type p mem nonempty x u v confuses ih =>
    cases sound with
    | struct layout fieldsSound =>
      rw [isPlainOldData_struct_iff] at pod
      have hx : x < p.size := confuses.lt_size (fieldsSound p mem)
      have hfirst : p.size ≤ p.totalSize := Nat.le_mul_of_pos_right p.size nonempty
      rw [Kind.identical, TypeDescriptor.identicalFields_eq_all, List.all_eq_true]
      intro q hq
      have hwithin := layout.within q hq
      by_cases hself : q = p
      · subst hself
        have hpart := differ.part ((Nat.add_le_add_left hfirst _).trans hwithin)
        exact differ.identicalAll_of_first (fieldsSound q hq) (pod q hq) hwithin hx
          (ih (fieldsSound q hq) (pod q hq) hpart)
      · have hapart := layout.bytes_apart pod hq mem hself
        exact differ.identicalAll_of_outside (fieldsSound q hq) (pod q hq) hwithin (by omega)

/-! ### NaNs -/

/-- A row of elements holds no key twice if no element does. -/
theorem Value.Keyed.ofElements {dim : Nat} {f : Nat → Value} (h : ∀ i < dim, (f i).Keyed) :
    (Value.ofElements dim f).Keyed := by
  unfold Value.ofElements
  split
  · next hdim => exact h 0 (by omega)
  · refine .list fun x hx => ?_
    obtain ⟨i, hi, rfl⟩ := List.mem_map.mp hx
    exact h i (List.mem_range.mp hi)

/-- There are no maps in plain old data. -/
theorem Kind.keyed_read_of_isPlainOldData {kind : Kind} (pod : kind.isPlainOldData = true)
    (m : Block) (a : Nat) : (kind.read m a).Keyed := by
  induction kind using Kind.inductionOn generalizing a with
  | bool mask => exact .bool _
  | scalar s => exact .scalar s _
  | struct type ih =>
    rw [isPlainOldData_struct_iff] at pod
    rw [read, TypeDescriptor.readFields_eq_map]
    refine .struct fun f hf => ?_
    obtain ⟨p, hp, rfl⟩ := List.mem_map.mp hf
    exact .ofElements fun i _ => ih p hp (pod p hp) _
  | string | array _ _ | map _ _ _ _ => exact absurd pod Bool.false_ne_true

/-- A placed property has elements if its declaration has. -/
theorem Placement.dim_pos_of_place {p q : Placement} {spec : PropertySpec} {x : Property}
    (dim_pos : 0 < spec.dim) (ok : p.place spec = .ok (q, x)) : 0 < x.dim := by
  rcases place_ok ok with ⟨-, hbit⟩ | ⟨kind, -, hfield⟩
  · obtain ⟨_, _, -, -, -, -, rfl⟩ := placeBitfield_ok hbit
    exact Nat.one_pos
  · obtain ⟨_, _, -, -, -, -, -, rfl⟩ := placeField_ok hfield
    exact dim_pos

/-- Every property of a built type has elements. -/
theorem TypeDescriptor.Built.dim_pos {type : TypeDescriptor} (built : type.Built) :
    ∀ p ∈ type.allProperties, 0 < p.dim := by
  induction built using Built.lineInduction with
  | @build serial name parent specs type parentBuilt specsMade ok ih =>
    obtain ⟨q, hplace, -, -, hsuper⟩ := build_ok ok
    have hown : ∀ p ∈ type.properties, 0 < p.dim := by
      refine placeAll_invariant (fun _ placed => ∀ p ∈ placed, 0 < p.dim) ?_
        (fun p hp => absurd hp List.not_mem_nil) hplace
      intro spec _ r placed hplaced hadmits r' x hx p hp
      rcases List.mem_append.mp hp with hp | hp
      · exact hplaced p hp
      · rw [List.mem_singleton.mp hp]
        exact Placement.dim_pos_of_place hadmits.dim_pos hx
    intro p hp
    rw [allProperties_eq, hsuper, List.mem_append] at hp
    rcases hp with hp | hp
    · cases parent with
      | none => exact absurd hp List.not_mem_nil
      | some t => exact ih t rfl p hp
    · exact hown p hp

/-! ### Properties -/

namespace Property

variable {p : Property}

/-- If one element of a property can be confused, so can the property: there are two instances in
which it is identical, but not byte by byte. -/
theorem exists_identical_of_confuses (sound : p.kind.Sound) (pod : p.kind.isPlainOldData = true)
    (dim_pos : 0 < p.dim) {x : Nat} {u v : UInt8} (h : p.kind.Confuses x u v) :
    ∃ (memory : String → Block) (left right : Place), left.Apart right p.totalSize ∧
      left.address + p.totalSize ≤ (left.block memory).size ∧
      right.address + p.totalSize ≤ (right.block memory).size ∧
      p.identicalAllAt (left.block memory) left (right.block memory) right = true ∧
      ¬ (left.block memory).SameBytes left.address (right.block memory) right.address
        p.totalSize := by
  have hx : x < p.size := h.lt_size sound
  have hfirst : p.size ≤ p.totalSize := Nat.le_mul_of_pos_right p.size dim_pos
  have hdiffer := Block.differInOneByte_onlyByte (hx.trans_le hfirst) u v
  have hpart : (Block.onlyByte p.totalSize x u).DifferInOneByte 0
      (Block.onlyByte p.totalSize x v) 0 p.totalSize (0 + x) u v := by rwa [Nat.zero_add]
  have hidentical : p.identicalAll (Block.onlyByte p.totalSize x u) 0
      (Block.onlyByte p.totalSize x v) 0 = true :=
    hpart.identicalAll_of_first sound pod (Nat.zero_add _).le hx
      (h.identical sound pod (hpart.part ((Nat.zero_add _).trans_le hfirst)))
  have hsize : ∀ value, 0 + p.totalSize ≤ (Block.onlyByte p.totalSize x value).size := by
    intro value
    rw [Block.onlyByte, Block.size_setByte, Block.filled, Array.size_replicate, Nat.zero_add]
  let memory : String → Block := fun owner =>
    if owner = "left" then Block.onlyByte p.totalSize x u else Block.onlyByte p.totalSize x v
  refine ⟨memory, ⟨"left", [], 0⟩, ⟨"right", [], 0⟩, ⟨by simp, Or.inl (by decide)⟩, hsize u,
    hsize v, ?_, fun hsame => ?_⟩
  · rw [identicalAllAt]
    exact (Bool.or_eq_true _ _).mpr (Or.inr hidentical)
  · have hbyte : (Block.onlyByte p.totalSize x u).byte (0 + x) =
        (Block.onlyByte p.totalSize x v).byte (0 + x) := hsame x (hx.trans_le hfirst)
    rw [hdiffer.left, hdiffer.right] at hbyte
    exact h.ne hbyte

/-- What a comparison of the bytes of a property says about its values. -/
structure ByteComparison (p : Property) : Prop where
  flagged : p.flags.contains .isPlainOldData = true
  /-- Values of the same bytes are identical unless there is a NaN in them. -/
  same_bytes : ∀ (memory : String → Block) (x y : Place), x ≠ y →
    (x.block memory).SameBytes x.address (y.block memory) y.address p.totalSize →
    (p.identicalAllAt (x.block memory) x (y.block memory) y = true ↔
      ¬ (p.readAll (x.block memory) x.address).HasNaN)
  /-- Without floating-point numbers, booleans and padding the two comparisons are one. -/
  exact_iff : p.kind.ByteExact → ∀ (memory : String → Block) (x y : Place),
    (p.identicalAllAt (x.block memory) x (y.block memory) y = true ↔
      (x.block memory).SameBytes x.address (y.block memory) y.address p.totalSize)
  /-- With any of them, some values are identical that have not the same bytes. -/
  confused : ¬ p.kind.ByteExact → ∃ (memory : String → Block) (x y : Place),
    x.Apart y p.totalSize ∧ x.address + p.totalSize ≤ (x.block memory).size ∧
      y.address + p.totalSize ≤ (y.block memory).size ∧
      p.identicalAllAt (x.block memory) x (y.block memory) y = true ∧
      ¬ (x.block memory).SameBytes x.address (y.block memory) y.address p.totalSize

/-- Values of the same bytes are identical unless there is a NaN in them. -/
theorem identicalAll_iff_of_sameBytes (sound : p.kind.Sound)
    (pod : p.kind.isPlainOldData = true) {m n : Block} {a b : Nat}
    (h : m.SameBytes a n b p.totalSize) :
    p.identicalAll m a n b = true ↔ ¬ (p.readAll m a).HasNaN := by
  have hleaves : Scope.all.SameLeaves p m a n b :=
    fun i hi => sound.sameLeaves_of_sameBytes pod (h.element hi)
  have hmeaning : (p.readAll m a).meaning = (p.readAll n b).meaning :=
    Scope.sameLeaves_iff.mp hleaves
  have hkeyed : (p.readAll m a).Keyed :=
    .ofElements fun i _ => Kind.keyed_read_of_isPlainOldData pod m _
  rw [identicalAll_eq, ← Value.identical_eq_of_meaning_eq_right hmeaning,
    Value.identical_self_iff hkeyed]

end Property

/-- In a type that can be built, a comparison of the bytes of plain old data agrees with one of the
values for kinds without floating-point numbers, booleans and padding, and for no other. -/
theorem TypeDescriptor.Built.byteComparison {type : TypeDescriptor} (built : type.Built)
    {p : Property} (hp : p ∈ type.allProperties) (pod : p.kind.isPlainOldData = true) :
    p.ByteComparison := by
  have hsound : p.kind.Sound := (Property.Described.declared built hp).sound
  refine ⟨?_, fun memory x y hne hsame => ?_, fun hexact memory x y => ?_, fun hexact => ?_⟩
  · obtain ⟨spec, hdeclares⟩ := built.exists_declares hp
    have himplied := p.kind.contains_impliedFlags.1.trans pod
    rcases hdeclares.keeps with hflags | hflags
    all_goals
      rw [hflags]
      exact (PropertyFlags.contains_union_bit (by decide)).mpr (Or.inr himplied)
  · rw [Property.identicalAllAt, decide_eq_false hne, Bool.false_or]
    exact Property.identicalAll_iff_of_sameBytes hsound pod hsame
  · by_cases hself : x = y
    · subst hself
      rw [Property.identicalAllAt, decide_eq_true rfl, Bool.true_or]
      exact iff_of_true rfl fun _ _ => rfl
    · rw [Property.identicalAllAt, decide_eq_false hself, Bool.false_or]
      exact p.identicalAll_iff_of_kind hsound.size_pos
        (fun _ => hexact.identical_iff hsound) _ _ _ _
  · obtain ⟨x, u, v, hconfuses⟩ := (hsound.byteExact_or_confuses pod).resolve_left hexact
    exact Property.exists_identical_of_confuses hsound pod (built.dim_pos p hp) hconfuses

/-- The level of a sample. -/
def level : Property := .ofKind "Level" (.scalar .float32) 4 1 .none

/-- A level is a floating-point number, so its bytes are not compared as its values are. -/
theorem byteComparison_level :
    sample.Built ∧ level ∈ sample.allProperties ∧ level.kind.isPlainOldData = true ∧
      level.ByteComparison := by
  have hlevel : level ∈ sample.allProperties := .tail _ (.head _)
  exact ⟨built_sample, hlevel, rfl, built_sample.byteComparison hlevel rfl⟩

/-- Two samples, the levels of which are the two zeros. -/
def zeroSamples (owner : String) : Block :=
  #[.byte 0, .byte 0, .byte 0, .byte 0, .byte 0, .byte 0, .byte 0,
    .byte (if owner = "first" then 0 else 0x80)]

/-- The two zeros are identical, and their bytes are different. -/
theorem identical_zeroSamples :
    let x : Place := ⟨"first", [], 4⟩
    let y : Place := ⟨"second", [], 4⟩
    sample.Built ∧ level ∈ sample.allProperties ∧ level.kind.isPlainOldData = true ∧
      ¬ (level.identicalAllAt (x.block zeroSamples) x (y.block zeroSamples) y = true ↔
        (x.block zeroSamples).SameBytes x.address (y.block zeroSamples) y.address
          level.totalSize) := by
  intro x y
  have hidentical :
      level.identicalAllAt (x.block zeroSamples) x (y.block zeroSamples) y = true := by decide
  refine ⟨built_sample, .tail _ (.head _), rfl, fun hagree => ?_⟩
  have hlast := hagree.mp hidentical 3 (by decide)
  exact absurd hlast (by decide)

end PropertyReflection
