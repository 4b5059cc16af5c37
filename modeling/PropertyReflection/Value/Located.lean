import PropertyReflection.Memory.Place
import PropertyReflection.Value.Copying
import PropertyReflection.Value.Identity

/-!
# Operations on two values

Copies and comparisons look first whether the two values are one.  A value is identical to itself,
even if it contains a NaN, and copying it onto itself changes nothing.
-/

namespace PropertyReflection

namespace Property

/-- Copy the first element from one place to another. -/
def copyFirstAt (property : Property) (m : Block) (p : Place) (source : Block) (q : Place) :
    Except StorageFault Block :=
  if p = q then .ok m else property.copyFirst m p.address source q.address

/-- Copy all elements from one place to another. -/
def copyAllAt (property : Property) (m : Block) (p : Place) (source : Block) (q : Place) :
    Except StorageFault Block :=
  if p = q then .ok m else property.copyAll m p.address source q.address

/-- Value equality of the first elements at two places. -/
def identicalFirstAt (property : Property) (m : Block) (p : Place) (n : Block) (q : Place) : Bool :=
  p = q || property.identicalFirst m p.address n q.address

/-- Value equality of all elements at two places. -/
def identicalAllAt (property : Property) (m : Block) (p : Place) (n : Block) (q : Place) : Bool :=
  p = q || property.identicalAll m p.address n q.address

@[simp] theorem copyFirstAt_self (property : Property) (m source : Block) (p : Place) :
    property.copyFirstAt m p source p = .ok m := by
  simp [copyFirstAt]

@[simp] theorem identicalFirstAt_self (property : Property) (m n : Block) (p : Place) :
    property.identicalFirstAt m p n p = true := by
  simp [identicalFirstAt]

end Property

end PropertyReflection
