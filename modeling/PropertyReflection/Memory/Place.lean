import PropertyReflection.Memory.Block
import PropertyReflection.Text.Quoted

/-!
# Places

A block does not say which block it is.  A place does: it names an instance, the containers that
lead from the instance to a block, and the address in that block.  Two values are the same piece of
memory exactly if their places are equal, because containers never share storage.
-/

namespace PropertyReflection

/-- Where a value lies. -/
structure Place where
  /-- The name of the instance. -/
  owner : String
  /-- The addresses of the containers on the way, each in the block of the one before. -/
  hops : List Nat
  /-- The address in the block that the way ends in. -/
  address : Nat
deriving DecidableEq, Repr

namespace Place

/-- The place `distance` bytes further in the same block. -/
def shift (place : Place) (distance : Nat) : Place :=
  { place with address := place.address + distance }

/-- An address in the storage of the container at this place. -/
def enter (place : Place) (address : Nat) : Place :=
  { place with hops := place.hops ++ [place.address], address := address }

/-- An address as it is shown in diagnostics. -/
def render (place : Place) : String := "0x" ++ Text.hex place.address

end Place

namespace Block

/-- The block at the end of a way through containers. -/
def descend : List Nat → Block → Block
  | [], m => m
  | hop :: rest, m => descend rest (m.slots hop).cells

/-- Change the block at the end of a way through containers. -/
def updateAt : List Nat → (Block → Block) → Block → Block
  | [], f, m => f m
  | hop :: rest, f, m =>
    m.modifySlots hop fun storage => { storage with cells := updateAt rest f storage.cells }

end Block

end PropertyReflection
