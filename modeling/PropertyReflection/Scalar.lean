import PropertyReflection.Hash
import PropertyReflection.Machine

/-!
# Scalars

A scalar is stored as one, two, four or eight bytes, least significant byte first.  Its bits are
held in a 64-bit word here, with zeros above the scalar's own width.

Floating-point numbers are compared as numbers and not as bits: the two zeros are one number,
and a NaN equals nothing.  The hash follows the comparison, so both zeros hash alike.  All of this
is decided on the bit patterns.
-/

namespace PropertyReflection

/-- The kinds of number that a property can hold, with references to objects, which are plain
addresses, among them. -/
inductive Scalar where
  | int8 | int16 | int32 | int64
  | uint8 | uint16 | uint32 | uint64
  | float32 | float64
  | object
deriving DecidableEq, Repr

namespace Scalar

/-- The size in bytes, which is also the alignment. -/
def size : Scalar → Nat
  | int8 | uint8 => 1
  | int16 | uint16 => 2
  | int32 | uint32 | float32 => 4
  | int64 | uint64 | float64 | object => 8

theorem size_pos (s : Scalar) : 0 < s.size := by
  cases s <;> decide

/-- The name in diagnostics. -/
def name : Scalar → String
  | int8 => "int8" | int16 => "int16" | int32 => "int32" | int64 => "int64"
  | uint8 => "uint8" | uint16 => "uint16" | uint32 => "uint32" | uint64 => "uint64"
  | float32 => "float" | float64 => "double"
  | object => "object"

/-- Every scalar, in the order of declaration. -/
def all : List Scalar :=
  [int8, int16, int32, int64, uint8, uint16, uint32, uint64, float32, float64, object]

/-- The number of bits. -/
def width (s : Scalar) : Nat := 8 * s.size

/-- The number of bit patterns. -/
def patterns (s : Scalar) : Nat := 1 <<< s.width

/-- True of the integers that have a sign. -/
def isSigned : Scalar → Bool
  | int8 | int16 | int32 | int64 => true
  | _ => false

/-- True of the floating-point numbers. -/
def isFloat : Scalar → Bool
  | float32 | float64 => true
  | _ => false

/-- The integer that the bits stand for, in two's complement if the scalar has a sign. -/
def toInt (s : Scalar) (bits : UInt64) : Int :=
  if s.isSigned && decide (s.patterns / 2 ≤ bits.toNat) then
    (bits.toNat : Int) - s.patterns
  else bits.toNat

/-- The bits of an integer, if it is in the scalar's range. -/
def ofInt? (s : Scalar) (value : Int) : Option UInt64 :=
  let half := s.patterns / 2
  let low : Int := if s.isSigned then -half else 0
  let high : Int := if s.isSigned then half else s.patterns
  if low ≤ value ∧ value < high then some (UInt64.ofNat (value % s.patterns).toNat) else none

/-- The bits of a floating-point number without its sign. -/
def magnitude : Scalar → UInt64 → UInt64
  | float32, bits => bits &&& 0x7fffffff
  | _, bits => bits &&& 0x7fffffffffffffff

/-- The bits of positive infinity, which is the largest number that is no NaN. -/
def infinity : Scalar → UInt64
  | float32 => 0x7f800000
  | _ => 0x7ff0000000000000

/-- True of the two zeros of a floating-point format. -/
def isZero (s : Scalar) (bits : UInt64) : Bool :=
  s.magnitude bits == 0

/-- True of the bit patterns that are no number. -/
def isNaN (s : Scalar) (bits : UInt64) : Bool :=
  s.isFloat && decide (s.infinity < s.magnitude bits)

/-- Value equality: equality of bits, except that a NaN equals nothing and the zeros are equal. -/
def same (s : Scalar) (x y : UInt64) : Bool :=
  if s.isFloat then
    !s.isNaN x && !s.isNaN y && (x == y || (s.isZero x && s.isZero y))
  else x == y

/-- The bits widened to a full word by their sign. -/
def signExtend (s : Scalar) (bits : UInt64) : UInt64 :=
  UInt64.ofNat (s.toInt bits % wordLimit).toNat

/-- The hash of a scalar.  Integers are widened by their sign first, so a small number has one hash
in every signed width. -/
def hash (s : Scalar) (bits : UInt64) : UInt32 :=
  match s with
  | float32 => if float32.isZero bits then 0 else bits.toUInt32
  | float64 => if float64.isZero bits then 0 else foldWord bits
  | s => foldWord (s.signExtend bits)

/-- A NaN is the only scalar that does not equal itself. -/
theorem same_self (s : Scalar) (bits : UInt64) : s.same bits bits = !s.isNaN bits := by
  cases h : s.isFloat <;> simp [same, isNaN, h]

/-- Value equality does not depend on the order of the two scalars. -/
theorem same_comm (s : Scalar) (x y : UInt64) : s.same x y = s.same y x := by
  unfold same
  split <;> grind

end Scalar

end PropertyReflection
