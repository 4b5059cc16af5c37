import PropertyReflection.Value.Copying
import PropertyReflection.Value.Identity

/-!
# Operations on maps

A map value is storage with one slot for each pair: the key at the start of the slot, the value at
the next address that suits it.  Keys are compared by identity and the first match counts, so a
key that contains a NaN is never found again.

The keys and values that are passed in lie outside the map's own storage.
-/

namespace PropertyReflection

namespace MapValue

/-- The address of a key inside the storage. -/
def keyAddress (key value : Kind) (index : Nat) : Nat :=
  Elements.address 0 (key.pairSize value) index

/-- The address of a value inside the storage. -/
def valueAddress (key value : Kind) (index : Nat) : Nat :=
  keyAddress key value index + key.pairValueOffset value

/-- The address of a key, if there is such a pair. -/
def keyAddress? (key value : Kind) (pairs : Slots Cell) (index : Nat) : Option Nat :=
  if index < pairs.count then some (keyAddress key value index) else none

/-- The address of a value, if there is such a pair. -/
def valueAddress? (key value : Kind) (pairs : Slots Cell) (index : Nat) : Option Nat :=
  if index < pairs.count then some (valueAddress key value index) else none

/-- The address of the value stored under the key at an address, if the map has that key. -/
def findValue? (key value : Kind) (pairs : Slots Cell) (m : Block) (a : Nat) : Option Nat :=
  (findPair? key value pairs m a).map (valueAddress key value)

/-- Make default values of the key and the value of a pair and copy the given ones over them. -/
def constructPair (key value : Kind) (cells : Block) (index : Nat) (m : Block) (a : Nat)
    (n : Block) (b : Nat) : Except StorageFault Block := do
  let x := keyAddress key value index
  let y := valueAddress key value index
  let cells ← key.copy (key.construct cells x) x m a
  value.copy (value.construct cells y) y n b

/-- Store a copy of the value at `b` under a copy of the key at `a`.  If the map has the key, the
stored key stays and its value is replaced. -/
def add (key value : Kind) (pairs : Slots Cell) (m : Block) (a : Nat) (n : Block) (b : Nat) :
    Except StorageFault (Slots Cell) := do
  match findValue? key value pairs m a with
  | some address =>
    return { pairs with cells := ← value.copy pairs.cells address n b }
  | none =>
    let index := pairs.count
    let pairs ← pairs.extend default 1 (key.pairSize value) (key.pairAlign value)
    return { pairs with cells := ← constructPair key value pairs.cells index m a n b }

/-- Destroy the pair with the given key and close the gap, if the map has the key. -/
def remove? (key value : Kind) (pairs : Slots Cell) (m : Block) (a : Nat) :
    Option (Slots Cell) :=
  (findPair? key value pairs m a).map fun index =>
    let cells := key.destroy pairs.cells (keyAddress key value index)
    let cells := value.destroy cells (valueAddress key value index)
    Slots.removeAt { pairs with cells := cells } index (key.pairSize value)

/-- Destroy every pair and give the storage back. -/
def clear (pairs : Slots Cell) : Slots Cell := pairs.release

/-- A key is removed exactly if it is found. -/
theorem remove?_isSome (key value : Kind) (pairs : Slots Cell) (m : Block) (a : Nat) :
    (remove? key value pairs m a).isSome = (findValue? key value pairs m a).isSome := by
  simp [remove?, findValue?]

end MapValue

end PropertyReflection
