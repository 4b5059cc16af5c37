import PropertyReflection.Kind.Traits
import PropertyReflection.Text.Utf8

/-!
# Looking properties up by name

The host names properties by C strings.  A name that is no text is the name of no property.  Each
lookup finds the property first and then reads its descriptor, so it answers the same as a question
to the property itself; where there is none, a reserved number answers instead.
-/

namespace PropertyReflection

/-- The answer for the offset or the dimension of a property that does not exist. -/
def notFound : Int := -1

/-- The answer for the mask of a property that does not exist or is no boolean. -/
def noFieldMask : UInt8 := 0

/-- A size as a signed 32-bit number, which is the largest one if the size does not fit. -/
def reportExtent (value : Nat) : Int := min value maxExtent

namespace TypeDescriptor

/-- The property whose name has exactly these bytes. -/
def resolve? (type : TypeDescriptor) (name : List UInt8) : Option Property :=
  (Text.ofBytes? name).bind type.find?

/-- The offset of a property. -/
def offsetByName (type : TypeDescriptor) (name : List UInt8) : Int :=
  (type.resolve? name).elim notFound fun property => reportExtent property.offset

/-- The number of elements of a property. -/
def arrayDimByName (type : TypeDescriptor) (name : List UInt8) : Int :=
  (type.resolve? name).elim notFound fun property => reportExtent property.dim

/-- The mask of a boolean. -/
def boolFieldMaskByName (type : TypeDescriptor) (name : List UInt8) : UInt8 :=
  ((type.resolve? name).bind (·.fieldMask?)).getD noFieldMask

end TypeDescriptor

/-- Extents that a built type can have are reported as they are. -/
theorem reportExtent_eq {value : Nat} (h : value ≤ maxExtent) : reportExtent value = value := by
  unfold reportExtent
  omega

end PropertyReflection
