import PropertyReflection.Machine

/-!
# Growable storage

`Slots` is the storage behind every array and map value: a run of equally long slots, of which
the first `count` hold elements.  It knows nothing of the elements.  The length of a slot (the
stride) and the alignment are given with each call, and one storage is always used with the
same pair.

Storage grows by doubling and never shrinks except by `release`.  Growing is the only step that
can fail, and it fails before anything has changed.  `Slots` is also used on its own, with
bytes for cells.
-/

namespace PropertyReflection

/-- Why storage cannot grow. -/
inductive StorageFault where
  /-- The number of slots, or of bytes in them, is not an address-sized word. -/
  | capacityOverflow
  /-- No allocation has this size and alignment. -/
  | invalidElementLayout
deriving DecidableEq, Repr

/-- The words in which a fault is reported. -/
def StorageFault.message : StorageFault → String
  | .capacityOverflow => "capacity overflow"
  | .invalidElementLayout => "invalid element layout: LayoutError"

/-- A growable run of slots.  `cells` holds the part of the allocation that was ever in use, slot
after slot; the cells behind it are unspecified until a slot is taken from them. -/
structure Slots (α : Type) where
  /-- The number of slots that hold an element. -/
  count : Nat
  /-- The number of slots that are allocated. -/
  capacity : Nat
  /-- The contents, of which the first `count` strides belong to elements. -/
  cells : Array α
deriving Repr

namespace Slots

variable {α : Type}

/-- Storage without an allocation. -/
def empty : Slots α := ⟨0, 0, #[]⟩

instance : Inhabited (Slots α) := ⟨empty⟩

/-- An allocation exists for `size` bytes when the alignment is a power of two and the size,
rounded up to it, does not pass the largest allocation. -/
def isAllocatable (size align : Nat) : Bool :=
  isPowerOfTwo align && decide (alignUp size align ≤ maxAllocation)

/-- The fault that an allocation of `capacity` slots meets, if any. -/
def layoutFault? (capacity stride align : Nat) : Option StorageFault :=
  if wordLimit ≤ capacity * stride then some .capacityOverflow
  else if isAllocatable (capacity * stride) align then none
  else some .invalidElementLayout

/-- The capacity after growth to `required` slots: at least double, and never below four. -/
def grownCapacity (slots : Slots α) (required : Nat) : Nat :=
  max (max required (slots.capacity * 2)) 4

/-- Make room for `additional` more slots. -/
def reserve (slots : Slots α) (additional stride align : Nat) :
    Except StorageFault (Slots α) :=
  let required := slots.count + additional
  if wordLimit ≤ required then .error .capacityOverflow
  else if required ≤ slots.capacity then .ok slots
  else
    match layoutFault? (slots.grownCapacity required) stride align with
    | some fault => .error fault
    | none => .ok { slots with capacity := slots.grownCapacity required }

/-- Take `additional` slots into use behind the last element.  Cells that were in use before
keep what they held, and those never used hold `fresh`; the caller constructs the elements. -/
def extend (slots : Slots α) (fresh : α) (additional stride align : Nat) :
    Except StorageFault (Slots α) := do
  let slots ← slots.reserve additional stride align
  let count := slots.count + additional
  return { slots with
    count := count
    cells := slots.cells ++ Array.replicate (count * stride - slots.cells.size) fresh }

/-- Close the gap at slot `index` by moving the later elements down one stride. -/
def removeAt (slots : Slots α) (index stride : Nat) : Slots α :=
  { slots with
    count := slots.count - 1
    cells :=
      slots.cells.extract 0 (index * stride)
        ++ slots.cells.extract ((index + 1) * stride) (slots.count * stride)
        ++ slots.cells.extract ((slots.count - 1) * stride) slots.cells.size }

/-- Give the allocation back and forget every element. -/
def release (_ : Slots α) : Slots α := empty

/-- The cells of the element in slot `index`. -/
def element (slots : Slots α) (index stride : Nat) : Array α :=
  slots.cells.extract (index * stride) ((index + 1) * stride)

/-- The cells of all elements, slot by slot. -/
def elements (slots : Slots α) (stride : Nat) : List (Array α) :=
  (List.range slots.count).map fun index => slots.element index stride

/-- Write `value` into every cell of the slots from `first` on. -/
def fillFrom (slots : Slots α) (first stride : Nat) (value : α) : Slots α :=
  { slots with
    cells := (List.range ((slots.count - first) * stride)).foldl
      (fun cells i => cells.setIfInBounds (first * stride + i) value) slots.cells }

@[simp] theorem count_release (slots : Slots α) : slots.release.count = 0 := rfl

@[simp] theorem capacity_release (slots : Slots α) : slots.release.capacity = 0 := rfl

@[simp] theorem count_removeAt (slots : Slots α) (index stride : Nat) :
    (slots.removeAt index stride).count = slots.count - 1 := rfl

@[simp] theorem capacity_removeAt (slots : Slots α) (index stride : Nat) :
    (slots.removeAt index stride).capacity = slots.capacity := rfl

/-- Making room leaves the elements and what lies in their cells alone. -/
theorem count_reserve {slots grown : Slots α} {additional stride align : Nat}
    (h : slots.reserve additional stride align = .ok grown) :
    grown.count = slots.count ∧ grown.cells = slots.cells := by
  unfold reserve at h
  grind

end Slots

end PropertyReflection
