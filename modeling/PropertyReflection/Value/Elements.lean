import PropertyReflection.Hash
import PropertyReflection.Memory.Block

/-!
# Elements in a row

The elements of a property lie one after the other, and so do the elements of an array and the
pairs of a map inside their storage.  The functions here carry an operation on one element over
to a row of `count` elements that starts at `base` with `stride` bytes from one to the next.
-/

namespace PropertyReflection

namespace Elements

/-- The address of an element of a row. -/
def address (base stride index : Nat) : Nat := base + index * stride

/-- Apply `f` to every element, first to last. -/
def update (count stride : Nat) (f : Block → Nat → Block) (m : Block) (base : Nat) : Block :=
  (List.range count).foldl (fun m i => f m (address base stride i)) m

/-- Apply an operation that can fail to every element of a row and the element with the same index
of another row. -/
def updateFrom (count stride : Nat) (f : Block → Nat → Nat → Except StorageFault Block)
    (m : Block) (base source : Nat) : Except StorageFault Block :=
  (List.range count).foldlM
    (fun m i => f m (address base stride i) (address source stride i)) m

/-- True if `f` is true of every two elements with the same index in two rows. -/
def all (count stride : Nat) (f : Nat → Nat → Bool) (base other : Nat) : Bool :=
  (List.range count).all fun i => f (address base stride i) (address other stride i)

/-- Mix the hashes of all elements into `seed`, first to last. -/
def hash (count stride : Nat) (f : Nat → UInt32) (seed : UInt32) (base : Nat) : UInt32 :=
  (List.range count).foldl (fun seed i => hashCombine seed (f (address base stride i))) seed

/-- The hash of the elements of a property: of the only element, or of all of them mixed into
their number. -/
def hashAll (count stride : Nat) (f : Nat → UInt32) (base : Nat) : UInt32 :=
  if count = 1 then f base else hash count stride f (UInt32.ofNat count) base

@[simp] theorem update_zero (stride : Nat) (f : Block → Nat → Block) (m : Block) (base : Nat) :
    update 0 stride f m base = m := rfl

/-- A longer row is a row and one element more. -/
theorem update_succ (count stride : Nat) (f : Block → Nat → Block) (m : Block) (base : Nat) :
    update (count + 1) stride f m base =
      f (update count stride f m base) (address base stride count) := by
  simp [update, List.range_succ]

theorem all_eq_true {count stride base other : Nat} {f : Nat → Nat → Bool} :
    all count stride f base other = true ↔
      ∀ i < count, f (address base stride i) (address other stride i) = true := by
  simp [all]

end Elements

end PropertyReflection
