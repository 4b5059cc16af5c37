import PropertyReflection.Value.Lifetime

/-!
# Operations on arrays

An array value is storage with one slot for each element.  Elements are appended as default values,
removed by index, and cleared together with the storage.
-/

namespace PropertyReflection

namespace ArrayValue

/-- The address of an element inside the storage, if there is such an element. -/
def elementAddress? (element : Kind) (storage : Slots Cell) (index : Nat) : Option Nat :=
  if index < storage.count then some (Elements.address 0 element.size index) else none

/-- Append a default value. -/
def push (element : Kind) (storage : Slots Cell) : Except StorageFault (Slots Cell) := do
  let index := storage.count
  let storage ← storage.extend default 1 element.size element.align
  return { storage with
    cells := element.construct storage.cells (Elements.address 0 element.size index) }

/-- Destroy an element and close the gap, if there is such an element. -/
def remove? (element : Kind) (storage : Slots Cell) (index : Nat) : Option (Slots Cell) :=
  (elementAddress? element storage index).map fun address =>
    Slots.removeAt { storage with cells := element.destroy storage.cells address }
      index element.size

/-- Destroy every element and give the storage back. -/
def clear (storage : Slots Cell) : Slots Cell := storage.release

theorem elementAddress?_eq_none_iff {element : Kind} {storage : Slots Cell} {index : Nat} :
    elementAddress? element storage index = none ↔ storage.count ≤ index := by
  simp [elementAddress?]

/-- Nothing is removed where there is no element. -/
theorem remove?_eq_none_iff {element : Kind} {storage : Slots Cell} {index : Nat} :
    remove? element storage index = none ↔ storage.count ≤ index := by
  simp [remove?, elementAddress?_eq_none_iff]

end ArrayValue

end PropertyReflection
