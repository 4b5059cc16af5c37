import PropertyReflection.Kind
import PropertyReflection.Slots

/-!
# Memory

Values lie in blocks: an instance is a block, and so is the storage of every array and map.  A
block is an array of cells, one for each byte of the machine's memory.

Numbers and booleans are held in plain bytes.  A text, an array or a map is held outside the block
and reached through a representation of `handleSize` cells, whose first cell has what the
representation leads to and whose other cells have no readable contents.  What a container leads
to is a block again, so memory is a tree and two containers never share storage.

Reading is total: a cell that does not have what the reader expects reads as zero, the empty text
or storage without an allocation.  Writing outside the block has no effect.
-/

namespace PropertyReflection

/-- The contents of one byte of memory. -/
inductive Cell where
  /-- A plain byte. -/
  | byte (value : UInt8)
  /-- The first byte of the representation of a text. -/
  | text (contents : String)
  /-- The first byte of the representation of an array or a map. -/
  | slots (storage : Slots Cell)
  /-- A byte of a representation that is not its first, or a representation that was destroyed. -/
  | sealed

instance : Inhabited Cell := ⟨.byte 0⟩

/-- A stretch of memory with addresses from zero. -/
abbrev Block := Array Cell

namespace Block

/-- A block of `size` equal bytes. -/
def filled (size : Nat) (value : UInt8) : Block := Array.replicate size (.byte value)

/-- The cell at an address. -/
def cell (m : Block) (address : Nat) : Cell := m.getD address default

/-- The byte at an address. -/
def byte (m : Block) (address : Nat) : UInt8 :=
  match m.cell address with
  | .byte value => value
  | _ => 0

/-- The text whose representation starts at an address. -/
def text (m : Block) (address : Nat) : String :=
  match m.cell address with
  | .text contents => contents
  | _ => ""

/-- The storage of the container whose representation starts at an address. -/
def slots (m : Block) (address : Nat) : Slots Cell :=
  match m.cell address with
  | .slots storage => storage
  | _ => .empty

/-- Write one cell. -/
def setCell (m : Block) (address : Nat) (c : Cell) : Block := m.setIfInBounds address c

/-- Write one byte. -/
def setByte (m : Block) (address : Nat) (value : UInt8) : Block := m.setCell address (.byte value)

/-- Write the same cell to `count` addresses in a row. -/
def setRange (m : Block) (address : Nat) (c : Cell) : Nat → Block
  | 0 => m
  | count + 1 => (m.setCell address c).setRange (address + 1) c count

/-- Zero `count` bytes. -/
def clear (m : Block) (address count : Nat) : Block := m.setRange address (.byte 0) count

/-- The word in `count` bytes, the least significant one first. -/
def word (m : Block) (address : Nat) : Nat → UInt64
  | 0 => 0
  | count + 1 => (m.byte address).toUInt64 ||| (m.word (address + 1) count <<< 8)

/-- Write the low `count` bytes of a word, the least significant one first. -/
def setWord (m : Block) (address : Nat) (bits : UInt64) : Nat → Block
  | 0 => m
  | count + 1 => (m.setByte address bits.toUInt8).setWord (address + 1) (bits >>> 8) count

/-- Write a whole representation that starts with the given cell. -/
def placeHandle (m : Block) (address : Nat) (c : Cell) : Block :=
  (m.setRange address .sealed handleSize).setCell address c

/-- The bits of a boolean with a mask. -/
def boolBits (m : Block) (address : Nat) (mask : UInt8) : UInt8 := m.byte address &&& mask

/-- The truth of a boolean: some bit of the mask is set. -/
def bool (m : Block) (address : Nat) (mask : UInt8) : Bool := m.boolBits address mask != 0

/-- The bits that stand for a truth value: none of the mask, or all of it.  A boolean that has its
byte to itself is the number one when it is true. -/
def truthBits (mask : UInt8) (value : Bool) : UInt8 :=
  if value then (if mask = fullMask then 1 else mask) else 0

/-- Write a boolean and leave the other bits of its byte alone. -/
def setBool (m : Block) (address : Nat) (mask : UInt8) (value : Bool) : Block :=
  m.setByte address ((m.byte address &&& ~~~mask) ||| truthBits mask value)

/-- Change the storage of the container at an address. -/
def modifySlots (m : Block) (address : Nat) (f : Slots Cell → Slots Cell) : Block :=
  m.modify address fun
    | .slots storage => .slots (f storage)
    | _ => .slots (f .empty)

/-- What a boolean reads as after it was written. -/
theorem truthBits_and_ne_zero {mask : UInt8} (h : mask ≠ 0) (value : Bool) :
    (truthBits mask value &&& mask != 0) = value := by
  cases value with
  | false => simp [truthBits]
  | true =>
    by_cases hm : mask = fullMask
    · subst hm
      decide
    · simp [truthBits, hm, h]

end Block

end PropertyReflection
