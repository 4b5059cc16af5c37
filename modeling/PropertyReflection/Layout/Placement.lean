import PropertyReflection.Layout.Spec

/-!
# Placing properties one after the other

`Placement` is the state of a layout in progress.  A field goes to the next offset that suits its
alignment, or to the offset it is pinned to; in both cases the bytes it takes must be free.
Bitfields that follow each other share a byte until its eight bits are used up.  A field in between
closes the byte, although a bitfield that is pinned to it can still take a bit.
-/

namespace PropertyReflection

/-- A range of bytes that is taken. -/
structure Span where
  /-- The first byte. -/
  start : Nat
  /-- The byte after the last. -/
  stop : Nat
  /-- The property that took it, or the parent type for the inherited bytes. -/
  owner : String

namespace Span

/-- True if the two ranges have a byte in common. -/
def meets (s t : Span) : Bool := decide (s.start < t.stop) && decide (t.start < s.stop)

end Span

/-- The lowest bit that is not among the used ones. -/
def lowestFreeBit (used : UInt8) : UInt8 := ~~~used &&& (used + 1)

/-- The state of a layout in progress. -/
structure Placement where
  /-- The end of the bytes taken so far. -/
  cursor : Nat
  /-- The largest alignment so far. -/
  align : Nat
  /-- The ranges taken so far, in the order in which they were taken. -/
  taken : List Span
  /-- The used bits of every byte that holds bitfields. -/
  bitBytes : List (Nat × UInt8)
  /-- The byte of the last bitfield, if no other field followed it. -/
  openByte : Option Nat

namespace Placement

/-- The layout of a type begins with that of its parent, whose bytes are taken as one range. -/
def start : Option TypeDescriptor → Placement
  | none => ⟨0, 1, [], [], none⟩
  | some parent => ⟨parent.size, parent.align, [⟨0, parent.size, parent.name⟩], [], none⟩

/-- The used bits of a byte, if it holds bitfields. -/
def usedBits? (p : Placement) (byte : Nat) : Option UInt8 :=
  (p.bitBytes.find? (·.1 == byte)).map (·.2)

/-- Record the used bits of a byte. -/
def setUsedBits (p : Placement) (byte : Nat) (used : UInt8) : Placement :=
  { p with bitBytes := (byte, used) :: p.bitBytes.filter (·.1 != byte) }

/-- Take the bytes from `start` up to `stop`, which all have to be free. -/
def occupy (p : Placement) (start stop : Nat) (owner : String) : Except LayoutFault Placement :=
  let span : Span := ⟨start, stop, owner⟩
  match p.taken.find? span.meets with
  | some other => .error (.overlapping owner other.owner)
  | none => .ok { p with cursor := max p.cursor stop, taken := p.taken ++ [span] }

/-- The byte that a bitfield goes to: the one it is pinned to, the open one while it has a free bit,
or a new one. -/
def bitfieldByte (p : Placement) (pinned : Option Nat) : Nat :=
  match pinned, p.openByte with
  | some offset, _ => offset
  | none, some byte => if p.usedBits? byte = some 0xff then p.cursor else byte
  | none, none => p.cursor

/-- Make sure that a byte is set aside for bitfields. -/
def openBitByte (p : Placement) (byte : Nat) (owner : String) : Except LayoutFault Placement :=
  match p.usedBits? byte with
  | some _ => .ok p
  | none =>
    if wordLimit ≤ byte + 1 then .error .typeTooLarge
    else return (← p.occupy byte (byte + 1) owner).setUsedBits byte 0

/-- Place a bitfield on the lowest free bit of its byte. -/
def placeBitfield (p : Placement) (spec : PropertySpec) :
    Except LayoutFault (Placement × Property) := do
  if spec.dim ≠ 1 then throw (.bitfieldArray spec.name spec.dim)
  let byte := p.bitfieldByte spec.offset
  let p ← p.openBitByte byte spec.name
  let used := (p.usedBits? byte).getD 0
  if used = 0xff then throw (.bitfieldByteFull spec.name byte)
  let mask := lowestFreeBit used
  return ({ p.setUsedBits byte (used ||| mask) with openByte := some byte },
    .ofKind spec.name (.bool mask) byte 1 spec.flags)

/-- The offset of a field: the one it is pinned to, which has to suit its alignment, or the next
one that does. -/
def fieldOffset (p : Placement) (name : String) (align : Nat) (pinned : Option Nat) :
    Except BuildFailure Nat :=
  match pinned with
  | some offset =>
    if offset % align = 0 then .ok offset
    else .error (.rejected (.misaligned name offset align))
  | none =>
    match alignUpWord p.cursor align with
    | .ok offset => .ok offset
    | .error .tooLarge => .error (.rejected .typeTooLarge)
    | .error .overflow => .error .overflow

/-- The attributes of a field as far as they do not follow from its kind. -/
def fieldFlags (declared : PropertyFlags) (dim : Nat) : PropertyFlags :=
  if dim > 1 then declared.union .editFixedSize else declared

/-- Place a field of a kind. -/
def placeField (p : Placement) (spec : PropertySpec) (kind : Kind) :
    Except BuildFailure (Placement × Property) := do
  if let .bool 0 := kind then throw (.rejected (.zeroFieldMask spec.name))
  let total := kind.size * spec.dim
  if wordLimit ≤ total then throw (.rejected .typeTooLarge)
  let offset ← p.fieldOffset spec.name kind.align spec.offset
  let stop := offset + total
  if wordLimit ≤ stop then throw (.rejected .typeTooLarge)
  match p.occupy offset stop spec.name with
  | .error fault => throw (.rejected fault)
  | .ok p =>
    return ({ p with align := max p.align kind.align, openByte := none },
      .ofKind spec.name kind offset spec.dim (fieldFlags spec.flags spec.dim))

/-- Place a property of either sort. -/
def place (p : Placement) (spec : PropertySpec) : Except BuildFailure (Placement × Property) :=
  match spec.body with
  | .bitfield => (p.placeBitfield spec).mapError .rejected
  | .field kind => p.placeField spec kind

end Placement

end PropertyReflection
