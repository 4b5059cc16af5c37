import PropertyReflection.Workspace.Values

/-!
# Requests about arrays and maps

A request is about the container at the end of a path, or the first one of a property with several.
The answer has the container's contents after the request.
-/

namespace PropertyReflection

/-- What a request gives and what the container holds then. -/
structure ContainerAnswer (α : Type) where
  result : α
  size : Nat
  contents : Value

namespace Workspace

open Request

/-- Replace the storage of the container at a cursor. -/
def setStorage (c : Cursor) (storage : Slots Cell) : Request Unit := do
  c.setBlock ((← c.block).setCell c.address (.slots storage))

/-- Answer with a result and the contents of a container. -/
def answer {α : Type} (c : Cursor) (result : α) : Request (ContainerAnswer α) := do
  return ⟨result, ((← c.block).slots c.address).count, ← c.firstValue⟩

/-! ## Arrays -/

/-- A live array, the kind of its elements, and its storage. -/
def arrayAt (target : Request Cursor) : Request (Cursor × Kind × Slots Cell) := do
  let c ← liveAt target
  match c.property.kind with
  | .array element => return (c, element, (← c.block).slots c.address)
  | _ => throw .notArray

/-- Ask for the size and the contents of an array. -/
def arraySize (target : Request Cursor) : Request (ContainerAnswer Unit) := do
  let (c, _, _) ← arrayAt target
  answer c ()

/-- Append an element, and write a draft over it if there is one.  The element stays even if the
draft cannot be written. -/
def arrayAdd (target : Request Cursor) (draft : Option (Kind → Draft)) :
    Request (ContainerAnswer Unit) := do
  let (c, element, storage) ← arrayAt target
  let grown ← accept .storage (ArrayValue.push element storage)
  setStorage c grown
  match draft with
  | none => pure ()
  | some draft =>
    let written := (draft element).store 1 element grown.cells
      (Elements.address 0 element.size storage.count)
    setStorage c { grown with cells := written.result }
    if let some fault := written.fault then throw (.ofDraft fault)
  answer c ()

/-- Remove an element and tell whether there was one. -/
def arrayRemove (target : Request Cursor) (index : Except Refusal Nat) :
    Request (ContainerAnswer Bool) := do
  let (c, element, storage) ← arrayAt target
  let index ← accept id index
  match ArrayValue.remove? element storage index with
  | none => answer c false
  | some left =>
    setStorage c left
    answer c true

/-- Remove all elements. -/
def arrayClear (target : Request Cursor) : Request (ContainerAnswer Unit) := do
  let (c, _, storage) ← arrayAt target
  setStorage c (ArrayValue.clear storage)
  answer c ()

/-! ## Maps -/

/-- A live map and its storage. -/
structure MapRef where
  cursor : Cursor
  key : Kind
  value : Kind
  pairs : Slots Cell

/-- Find a live map. -/
def mapAt (target : Request Cursor) : Request MapRef := do
  let c ← liveAt target
  match c.property.kind with
  | .map key value => return ⟨c, key, value, (← c.block).slots c.address⟩
  | _ => throw .notMap

/-- Ask for the size and the contents of a map. -/
def mapSize (target : Request Cursor) : Request (ContainerAnswer Unit) := do
  answer (← mapAt target).cursor ()

/-- Store a value under a key. -/
def mapAdd (target : Request Cursor) (key value : Kind → Draft) :
    Request (ContainerAnswer Unit) := do
  let map ← mapAt target
  let m ← Cursor.scratch map.key key
  let n ← Cursor.scratch map.value value
  setStorage map.cursor (← accept .storage (MapValue.add map.key map.value map.pairs m 0 n 0))
  answer map.cursor ()

/-- Remove a key and tell whether the map had it. -/
def mapRemove (target : Request Cursor) (key : Kind → Draft) :
    Request (ContainerAnswer Bool) := do
  let map ← mapAt target
  let m ← Cursor.scratch map.key key
  match MapValue.remove? map.key map.value map.pairs m 0 with
  | none => answer map.cursor false
  | some left =>
    setStorage map.cursor left
    answer map.cursor true

/-- Look up the value under a key. -/
def mapFind (target : Request Cursor) (key : Kind → Draft) :
    Request (ContainerAnswer (Option Value)) := do
  let map ← mapAt target
  let m ← Cursor.scratch map.key key
  answer map.cursor
    ((MapValue.findValue? map.key map.value map.pairs m 0).map (map.value.read map.pairs.cells))

/-- Look up the key and the value of a pair. -/
def mapEntry (target : Request Cursor) (index : Except Refusal Nat) :
    Request (ContainerAnswer (Option Value × Option Value)) := do
  let map ← mapAt target
  let index ← accept id index
  answer map.cursor
    ((MapValue.keyAddress? map.key map.value map.pairs index).map (map.key.read map.pairs.cells),
     (MapValue.valueAddress? map.key map.value map.pairs index).map
      (map.value.read map.pairs.cells))

/-- Remove all keys. -/
def mapClear (target : Request Cursor) : Request (ContainerAnswer Unit) := do
  let map ← mapAt target
  setStorage map.cursor (MapValue.clear map.pairs)
  answer map.cursor ()

end Workspace

end PropertyReflection
