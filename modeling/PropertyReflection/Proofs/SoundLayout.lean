import Mathlib
import PropertyReflection.Proofs.Descriptions

/-!
# Sound layouts

What a layout has to satisfy for the operations on values to be safe: every property lies inside
the instance at an offset that suits it, and two properties never share a bit.  They may share a
byte, if both are booleans with bits of their own in it.

`TypeDescriptor.SoundLayout` says this of one type.  `Kind.Sound` says it of all types that a kind
contains at any depth, and that no boolean in it is without bits; every proof about memory is by
induction on it.
-/

namespace PropertyReflection

namespace Property

/-- Two properties have no bit in common: their bytes are different, or both are booleans with
different bits of one byte. -/
def Apart (p q : Property) : Prop :=
  p.offset + p.totalSize ≤ q.offset ∨ q.offset + q.totalSize ≤ p.offset ∨
    ∃ mask other, p.kind = .bool mask ∧ q.kind = .bool other ∧ p.dim = 1 ∧ q.dim = 1 ∧
      p.offset = q.offset ∧ mask &&& other = 0

/-- Sharing no bit does not depend on the order of the two properties. -/
theorem Apart.symm {p q : Property} (h : p.Apart q) : q.Apart p := by
  rcases h with h | h | ⟨mask, other, hp, hq, hdim, hdim', hoffset, hmask⟩
  · exact Or.inr (Or.inl h)
  · exact Or.inl h
  · exact Or.inr (Or.inr
      ⟨other, mask, hq, hp, hdim', hdim, hoffset.symm, by rw [UInt8.and_comm, hmask]⟩)

end Property

/-- The layout of a type in which every property has its own place. -/
structure TypeDescriptor.SoundLayout (type : TypeDescriptor) : Prop where
  /-- An instance has at least one byte. -/
  size_pos : 1 ≤ type.size
  /-- An instance has at most as many bytes as a 32-bit export can report. -/
  size_le : type.size ≤ maxExtent
  align_pow : Nat.isPowerOfTwo type.align
  /-- Instances that lie in a row are all aligned if the first one is. -/
  align_dvd_size : type.align ∣ type.size
  /-- All elements of a property lie inside the instance. -/
  within : ∀ p ∈ type.allProperties, p.offset + p.totalSize ≤ type.size
  /-- In an aligned instance every property is aligned. -/
  aligned : ∀ p ∈ type.allProperties, p.align ∣ p.offset ∧ p.align ∣ type.align
  apart : type.allProperties.Pairwise Property.Apart
  /-- Every boolean has a bit. -/
  masked : ∀ p ∈ type.allProperties, p.fieldMask? ≠ some 0

/-- The kinds that values can be kept in: every struct in them has a sound layout, and every boolean
in them has a bit. -/
inductive Kind.Sound : Kind → Prop where
  | bool {mask : UInt8} (masked : mask ≠ 0) : Kind.Sound (.bool mask)
  | scalar (s : Scalar) : Kind.Sound (.scalar s)
  | string : Kind.Sound .string
  | struct {type : TypeDescriptor} (layout : type.SoundLayout)
    (fields : ∀ p ∈ type.allProperties, p.kind.Sound) : Kind.Sound (.struct type)
  | array {element : Kind} (elementSound : element.Sound) : Kind.Sound (.array element)
  | map {key value : Kind} (keySound : key.Sound) (valueSound : value.Sound) :
    Kind.Sound (.map key value)

namespace Kind

variable {kind key value : Kind}

/-- A value takes at least one byte. -/
theorem Sound.size_pos (h : kind.Sound) : 0 < kind.size := by
  cases h with
  | bool _ => exact Nat.one_pos
  | scalar s => exact s.size_pos
  | struct layout _ => exact layout.size_pos
  | string | array _ | map _ _ => exact (by decide : 0 < handleSize)

/-- Alignments are powers of two. -/
theorem Sound.align_pow (h : kind.Sound) : Nat.isPowerOfTwo kind.align := by
  cases h with
  | bool _ => exact ⟨0, rfl⟩
  | scalar s =>
    cases s <;> first | exact ⟨0, rfl⟩ | exact ⟨1, rfl⟩ | exact ⟨2, rfl⟩ | exact ⟨3, rfl⟩
  | struct layout _ => exact layout.align_pow
  | string | array _ | map _ _ => exact ⟨3, rfl⟩

theorem Sound.align_pos (h : kind.Sound) : 0 < kind.align :=
  Nat.pos_of_isPowerOfTwo h.align_pow

/-- In a pair the value begins behind the key. -/
theorem size_le_pairValueOffset (h : value.Sound) :
    key.size ≤ key.pairValueOffset value :=
  le_alignUp h.align_pos

/-- In a pair the value ends before the next pair begins. -/
theorem pairValueOffset_add_size_le (h : value.Sound) :
    key.pairValueOffset value + value.size ≤ key.pairSize value :=
  le_alignUp (lt_max_of_lt_right h.align_pos)

/-- A pair takes at least one byte. -/
theorem pairSize_pos (h : value.Sound) : 0 < key.pairSize value := by
  have hvalue := h.size_pos
  have hend : key.pairValueOffset value + value.size ≤ key.pairSize value :=
    pairValueOffset_add_size_le h
  omega

end Kind

/-- Of two powers of two the smaller one divides the larger one. -/
theorem dvd_max_of_isPowerOfTwo {a b : Nat} (ha : Nat.isPowerOfTwo a) (hb : Nat.isPowerOfTwo b) :
    a ∣ max a b := by
  obtain ⟨i, rfl⟩ := ha
  obtain ⟨j, rfl⟩ := hb
  rcases le_total i j with h | h
  · rw [max_eq_right (Nat.pow_le_pow_right (by omega) h)]
    exact Nat.pow_dvd_pow 2 h
  · rw [max_eq_left (Nat.pow_le_pow_right (by omega) h)]

theorem isPowerOfTwo_max {a b : Nat} (ha : Nat.isPowerOfTwo a) (hb : Nat.isPowerOfTwo b) :
    Nat.isPowerOfTwo (max a b) := by
  rcases max_choice a b with h | h <;> rw [h] <;> assumption

end PropertyReflection
