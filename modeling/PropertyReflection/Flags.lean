/-!
# Property flags

A property carries a set of semantic attributes, one bit each in a 64-bit word.  Three of the
bits say how a value is represented (`zeroConstructor`, `isPlainOldData`, `noDestructor`) and
follow from its kind; the others are declared and only stored.
-/

namespace PropertyReflection

/-- A set of property attributes. -/
structure PropertyFlags where
  bits : UInt64
deriving DecidableEq, Repr

namespace PropertyFlags

/-- No attribute. -/
def none : PropertyFlags := ⟨0⟩

/-- The set of the single attribute with number `index`. -/
def bit (index : UInt64) : PropertyFlags := ⟨1 <<< index⟩

/-- More than one element, in place. -/
def editFixedSize : PropertyFlags := bit 6

/-- Zeroed memory is a default value. -/
def zeroConstructor : PropertyFlags := bit 9

/-- Values may be copied byte by byte. -/
def isPlainOldData : PropertyFlags := bit 30

/-- A value owns nothing that would have to be released. -/
def noDestructor : PropertyFlags := bit 39

/-- Every attribute under its name, in the order of its bit. -/
def named : List (String × PropertyFlags) :=
  [("NONE", none), ("EDIT", bit 0), ("CONST_PARM", bit 1), ("BLUEPRINT_VISIBLE", bit 2),
   ("EXPORT_OBJECT", bit 3), ("BLUEPRINT_READ_ONLY", bit 4), ("NET", bit 5),
   ("EDIT_FIXED_SIZE", editFixedSize), ("PARM", bit 7), ("OUT_PARM", bit 8),
   ("ZERO_CONSTRUCTOR", zeroConstructor), ("RETURN_PARM", bit 10), ("TRANSIENT", bit 13),
   ("CONFIG", bit 14), ("READ_ONLY", bit 15), ("SAVE_GAME", bit 24), ("NO_CLEAR", bit 25),
   ("DEPRECATED", bit 29), ("IS_PLAIN_OLD_DATA", isPlainOldData), ("REP_NOTIFY", bit 32),
   ("INTERP", bit 33), ("NO_DESTRUCTOR", noDestructor)]

/-- True of the empty set. -/
def isEmpty (flags : PropertyFlags) : Bool := flags.bits == 0

/-- Some attribute is in both sets. -/
def intersects (flags mask : PropertyFlags) : Bool := flags.bits &&& mask.bits != 0

/-- Every attribute of `mask` is in `flags`. -/
def contains (flags mask : PropertyFlags) : Bool := flags.bits &&& mask.bits == mask.bits

/-- The attributes of either set. -/
def union (flags other : PropertyFlags) : PropertyFlags := ⟨flags.bits ||| other.bits⟩

/-- The attributes of both sets. -/
def inter (flags other : PropertyFlags) : PropertyFlags := ⟨flags.bits &&& other.bits⟩

/-- The attributes of `flags` that are not in `other`. -/
def diff (flags other : PropertyFlags) : PropertyFlags := ⟨flags.bits &&& ~~~other.bits⟩

@[simp] theorem bits_none : none.bits = 0 := rfl

@[simp] theorem bits_union (flags other : PropertyFlags) :
    (flags.union other).bits = flags.bits ||| other.bits := rfl

@[simp] theorem bits_inter (flags other : PropertyFlags) :
    (flags.inter other).bits = flags.bits &&& other.bits := rfl

@[simp] theorem bits_diff (flags other : PropertyFlags) :
    (flags.diff other).bits = flags.bits &&& ~~~other.bits := rfl

/-- The empty set is contained in every set and meets none. -/
theorem contains_none (flags : PropertyFlags) :
    flags.contains none = true ∧ flags.intersects none = false := by
  simp [contains, intersects]

end PropertyFlags

end PropertyReflection
