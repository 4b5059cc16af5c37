import Mathlib
import PropertyReflection.Proofs.IdentityInMemory
import PropertyReflection.Value.Copying

/-!
# The first element and all of them

The operations on values come in pairs, one for the first element of a property and one for all
elements.  A `Scope` chooses between the two.  What holds of all elements of every property holds of
the first one, which is all that a property of dimension one has: this is `Scope.view`, and the
equations below say it for each operation.
-/

namespace PropertyReflection

/-- How much of a property an operation is about. -/
inductive Scope where
  /-- The first element. -/
  | first
  /-- All elements. -/
  | all

namespace Scope

/-- Copy from one place to another. -/
def copyAt : Scope → Property → Block → Place → Block → Place → Except StorageFault Block
  | .first => Property.copyFirstAt
  | .all => Property.copyAllAt

/-- Value equality of what is at two places. -/
def identicalAt : Scope → Property → Block → Place → Block → Place → Bool
  | .first => Property.identicalFirstAt
  | .all => Property.identicalAllAt

/-- The hash. -/
def hash : Scope → Property → Block → Nat → UInt32
  | .first => Property.hashFirst
  | .all => Property.hashAll

/-- The value. -/
def read : Scope → Property → Block → Nat → Value
  | .first => Property.readFirst
  | .all => Property.readAll

/-- The property as far as an operation is about it. -/
def view : Scope → Property → Property
  | .first, property => { property with dim := 1 }
  | .all, property => property

variable (scope : Scope) (property : Property) {p q : Place}

@[simp] theorem kind_view : (scope.view property).kind = property.kind := by
  cases scope <;> rfl

@[simp] theorem size_view : (scope.view property).size = property.size := by
  cases scope <;> rfl

theorem read_eq (m : Block) (a : Nat) :
    scope.read property m a = (scope.view property).readAll m a := by
  cases scope with
  | first => simp [read, view, Property.readFirst, Property.readAll, Value.ofElements,
      Elements.address]
  | all => rfl

theorem hash_eq (m : Block) (a : Nat) :
    scope.hash property m a = (scope.read property m a).hash := by
  cases scope with
  | first => exact property.hashFirst_eq m a
  | all => exact property.hashAll_eq m a

theorem copyAt_eq (h : p ≠ q) (m source : Block) :
    scope.copyAt property m p source q =
      (scope.view property).copyAll m p.address source q.address := by
  cases scope with
  | first =>
    simp [copyAt, view, Property.copyFirstAt, Property.copyFirst, Property.copyAll, h,
      Elements.updateFrom, Elements.address]
  | all => simp [copyAt, view, Property.copyAllAt, h]

/-- At two places there are identical values, or the places are one. -/
theorem identicalAt_iff (m n : Block) :
    scope.identicalAt property m p n q = true ↔
      p = q ∨ (scope.read property m p.address).identical
        (scope.read property n q.address) = true := by
  cases scope with
  | first =>
    rw [identicalAt, Property.identicalFirstAt, Property.identicalFirst_eq, Bool.or_eq_true,
      decide_eq_true_eq]
    rfl
  | all =>
    rw [identicalAt, Property.identicalAllAt, Property.identicalAll_eq, Bool.or_eq_true,
      decide_eq_true_eq]
    rfl

/-- Values at different places are compared by what they read as. -/
theorem identicalAt_eq (h : p ≠ q) (m n : Block) :
    scope.identicalAt property m p n q =
      (scope.read property m p.address).identical (scope.read property n q.address) := by
  rw [Bool.eq_iff_iff, scope.identicalAt_iff]
  exact or_iff_right h

end Scope

end PropertyReflection
