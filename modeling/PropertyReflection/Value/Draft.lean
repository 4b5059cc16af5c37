import PropertyReflection.Container.ArrayValue
import PropertyReflection.Container.MapValue

/-!
# Writing values

A draft says what to write over a live value.  It may be partial: a struct draft names some of the
properties, and the draft of a property with several elements may stop early; what it does not
mention stays.  The drafts of arrays and maps are complete, because the old contents are cleared
first.  Keys and values of a map are made up in scratch memory, so that a partial draft of a key is
completed by default values before the key is looked for.

A draft is written part after part, in its own order.  At the first part that cannot be written the
writing stops, and what was written up to there stays: the elements before the part are in the
array, and a container that was to be written over has lost its old contents.
-/

namespace PropertyReflection

/-- What to write over a value. -/
inductive Draft where
  /-- A truth value, written through the mask of a boolean. -/
  | truth (value : Bool)
  /-- The whole storage byte of a boolean. -/
  | rawByte (value : UInt8)
  /-- The bits of a scalar. -/
  | scalar (bits : UInt64)
  /-- A text. -/
  | text (contents : String)
  /-- Some properties of a struct, in the order in which they are written.  A part without a name
  cannot be written. -/
  | fields (drafts : List (Option String × Draft))
  /-- The elements of an array, or the first elements of a property with several. -/
  | elements (drafts : List Draft)
  /-- The pairs of a map, in the order in which they are added. -/
  | pairs (drafts : List (Draft × Draft))
  /-- Nothing that could be written over a value of any kind. -/
  | malformed

instance : Inhabited Draft := ⟨.malformed⟩

/-- Why a draft cannot be written. -/
inductive DraftFault where
  /-- The draft is not one for values of this kind. -/
  | illTyped
  /-- The struct has no such property. -/
  | noField (name : String)
  /-- The storage of a container cannot grow. -/
  | storage (fault : StorageFault)

instance : MonadLift (Except StorageFault) (Except DraftFault) where
  monadLift := Except.mapError DraftFault.storage

/-! ## Writing that stops -/

/-- What is there after a draft was written, and why the writing stopped if it did. -/
structure Written (α : Type) where
  result : α
  fault : Option DraftFault

namespace Written

variable {α β : Type}

/-- All is written. -/
def done (a : α) : Written α := ⟨a, none⟩

/-- The writing stopped. -/
def stopped (a : α) (fault : DraftFault) : Written α := ⟨a, some fault⟩

/-- Go on writing, unless the writing has stopped. -/
def andThen (w : Written α) (next : α → Written α) : Written α :=
  match w.fault with
  | none => next w.result
  | some _ => w

/-- Put what was written in its place. -/
def map (f : α → β) (w : Written α) : Written β := ⟨f w.result, w.fault⟩

/-- What was written, if that is all of it. -/
def complete (w : Written α) : Except DraftFault α :=
  match w.fault with
  | none => .ok w.result
  | some fault => .error fault

end Written

/-! ## Writing drafts -/

/-- Memory of its own that holds a default value. -/
def Kind.scratch (kind : Kind) : Block := kind.construct (Block.filled kind.size 0) 0

/-- Take the contents of the container at an address away; other values stay. -/
def Kind.emptied : Kind → Block → Nat → Block
  | .array _, m, a => m.modifySlots a ArrayValue.clear
  | .map .., m, a => m.modifySlots a MapValue.clear
  | _, m, _ => m

mutual

/-- Write a draft over the value at an address, which consists of `dim` elements of a kind. -/
def Draft.store : Draft → Nat → Kind → Block → Nat → Written Block
  | .elements drafts, dim, kind, m, a =>
    if dim = 1 then
      match kind with
      | .array element =>
        (storeElements drafts element (ArrayValue.clear (m.slots a))).map
          fun storage => m.setCell a (.slots storage)
      | kind => .stopped (kind.emptied m a) .illTyped
    else if drafts.length ≤ dim then storeRow drafts kind m a
    else .stopped m .illTyped
  | .truth value, 1, .bool mask, m, a => .done (m.setBool a mask value)
  | .rawByte value, 1, .bool _, m, a => .done (m.setByte a value)
  | .scalar bits, 1, .scalar s, m, a => .done (m.setWord a bits s.size)
  | .text contents, 1, .string, m, a => .done (m.setCell a (.text contents))
  | .fields drafts, 1, .struct type, m, a => storeFields drafts type m a
  | .pairs drafts, 1, .map key value, m, a =>
    (storePairs drafts key value (MapValue.clear (m.slots a))).map
      fun pairs => m.setCell a (.slots pairs)
  | _, 1, kind, m, a => .stopped (kind.emptied m a) .illTyped
  | _, _, _, m, _ => .stopped m .illTyped

/-- Write the named properties of the instance at an address. -/
def storeFields : List (Option String × Draft) → TypeDescriptor → Block → Nat → Written Block
  | [], _, m, _ => .done m
  | (none, _) :: _, _, m, _ => .stopped m .illTyped
  | (some name, draft) :: rest, type, m, a =>
    match type.find? name with
    | none => .stopped m (.noField name)
    | some property =>
      (draft.store property.dim property.kind m (a + property.offset)).andThen
        fun m => storeFields rest type m a

/-- Write the first elements of a row. -/
def storeRow : List Draft → Kind → Block → Nat → Written Block
  | [], _, m, _ => .done m
  | draft :: rest, kind, m, a =>
    (draft.store 1 kind m a).andThen fun m => storeRow rest kind m (a + kind.size)

/-- Append elements to an array. -/
def storeElements : List Draft → Kind → Slots Cell → Written (Slots Cell)
  | [], _, storage => .done storage
  | draft :: rest, element, storage =>
    match ArrayValue.push element storage with
    | .error fault => .stopped storage (.storage fault)
    | .ok grown =>
      let address := Elements.address 0 element.size storage.count
      ((draft.store 1 element grown.cells address).map
        fun cells => { grown with cells := cells }).andThen
          fun storage => storeElements rest element storage

/-- Add pairs to a map.  A pair of which the key or the value cannot be written is not added. -/
def storePairs : List (Draft × Draft) → Kind → Kind → Slots Cell → Written (Slots Cell)
  | [], _, _, pairs => .done pairs
  | (keyDraft, valueDraft) :: rest, key, value, pairs =>
    let added : Except DraftFault (Slots Cell) := do
      let m ← (keyDraft.store 1 key key.scratch 0).complete
      let n ← (valueDraft.store 1 value value.scratch 0).complete
      MapValue.add key value pairs m 0 n 0
    match added with
    | .error fault => .stopped pairs fault
    | .ok pairs => storePairs rest key value pairs

end

end PropertyReflection
