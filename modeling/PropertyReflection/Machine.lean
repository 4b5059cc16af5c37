/-!
# Sizes and alignments of the described machine

Descriptors speak about a machine with 64-bit addresses.  Sizes and offsets are natural
numbers here, and every limit of the machine is a stated bound that the code compares
against, so nothing wraps silently.

Rounding up to an alignment comes in two forms.  `alignUp` is the exact rounding on natural
numbers.  `alignUpWord` is the rounding a machine word can carry out: it forms
`value + align` before it takes one off again, so it needs room for that sum even where the
rounded value itself would fit.
-/

namespace PropertyReflection

/-- The number of values of an address-sized word. -/
def wordLimit : Nat := 1 <<< 64

/-- The largest number of bytes that one allocation can have. -/
def maxAllocation : Nat := 0x7fffffffffffffff

/-- The largest offset, size or dimension that the 32-bit exports can report. -/
def maxExtent : Nat := 0x7fffffff

/-- The least multiple of `align` that is at least `value`. -/
def alignUp (value align : Nat) : Nat :=
  (value + align - 1) / align * align

/-- The rounded value lies less than one alignment above the value. -/
theorem alignUp_lt {value align : Nat} (h : 0 < align) : alignUp value align < value + align := by
  unfold alignUp
  have := Nat.div_mul_le_self (value + align - 1) align
  omega

theorem le_alignUp {value align : Nat} (h : 0 < align) : value ≤ alignUp value align := by
  unfold alignUp
  have := Nat.lt_div_mul_add (a := value + align - 1) h
  omega

theorem dvd_alignUp (value align : Nat) : align ∣ alignUp value align :=
  Nat.dvd_mul_left align _

/-- True of the alignments that an allocator accepts. -/
def isPowerOfTwo (n : Nat) : Bool :=
  n != 0 && n &&& (n - 1) == 0

/-- Why a sum of machine words has no answer. -/
inductive WordFault where
  /-- The rounded value is not below the word limit. -/
  | tooLarge
  /-- An intermediate sum is not below the word limit, although the rounded value is. -/
  | overflow
deriving DecidableEq, Repr

/-- Round up inside a machine word.  A value that leaves no room for `align - 1` more bytes is
reported as too large; one that leaves room for exactly that and no more passes this test and
then overflows in the sum `value + align`. -/
def alignUpWord (value align : Nat) : Except WordFault Nat :=
  if wordLimit ≤ value + (align - 1) then .error .tooLarge
  else if wordLimit ≤ value + align then .error .overflow
  else .ok (alignUp value align)

end PropertyReflection
