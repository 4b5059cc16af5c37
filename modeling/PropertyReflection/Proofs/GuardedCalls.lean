import Mathlib
import PropertyReflection.Container.ArrayValue
import PropertyReflection.Container.MapValue
import PropertyReflection.Value.Digest

/-!
# Guarded calls

The operations on values trust their callers with a memory contract: the address of a value is
aligned for its kind, and all bytes of the value are there.  An operation on a value that consists
of others is a caller itself, and computes the addresses of the others.

A guarded operation does what the operation does, but stops with `CallFault.misplaced` as soon as an
address that it passes on breaks the contract.  Each nested call is told the `Region` that its value
has to lie in: a property of a struct lies in the instance, an element in its row, and what is in a
container in the storage.  So an operation keeps the contract at any depth exactly if the guarded
one never stops.

### Outline

* `Region.Admits`, the contract;
* `Kind.guardedConstruct`, `Kind.guardedDestroy`, `Kind.guardedCopy`, `Kind.guardedIdentical` and
  `Kind.guardedHash`, and the same for all elements of a property;
* the guarded operations on arrays and maps.
-/

namespace PropertyReflection

/-! ### The contract -/

/-- Why a guarded operation stops. -/
inductive CallFault where
  /-- A nested value is not where the contract wants it. -/
  | misplaced
  /-- The operation itself fails. -/
  | storage (fault : StorageFault)

/-- Where allocations start: the storage of the container at an address, for a number of slots and
the alignment that was asked for. -/
abbrev Buffers := Nat → Nat → Nat → Nat

/-- A stretch of a block.  Addresses count from the start of the block. -/
structure Region where
  /-- Where the block starts in the memory of the machine. -/
  base : Nat
  /-- The first byte. -/
  first : Nat
  /-- The byte after the last. -/
  stop : Nat

namespace Region

/-- The bytes of `count` values in a row. -/
def row (base : Nat) (kind : Kind) (count x : Nat) : Region := ⟨base, x, x + kind.size * count⟩

/-- The allocated bytes of the container at an address. -/
def ofStorage (buffers : Buffers) (owner : Nat) (storage : Slots Cell) (stride align : Nat) :
    Region :=
  ⟨buffers owner storage.capacity align, 0, storage.capacity * stride⟩

/-- The allocated bytes of an array. -/
def ofArray (buffers : Buffers) (owner : Nat) (element : Kind) (storage : Slots Cell) : Region :=
  ofStorage buffers owner storage element.size element.align

/-- The allocated bytes of a map. -/
def ofMap (buffers : Buffers) (owner : Nat) (key value : Kind) (pairs : Slots Cell) : Region :=
  ofStorage buffers owner pairs (key.pairSize value) (key.pairAlign value)

/-- The contract for `count` values in a row: the first is aligned, and all lie in the region. -/
def Admits (region : Region) (kind : Kind) (count x : Nat) : Prop :=
  kind.align ∣ region.base + x ∧ region.first ≤ x ∧ x + kind.size * count ≤ region.stop

instance (region : Region) (kind : Kind) (count x : Nat) :
    Decidable (region.Admits kind count x) :=
  inferInstanceAs (Decidable (_ ∧ _ ∧ _))

/-- Stop if the contract is broken. -/
def require (region : Region) (kind : Kind) (count x : Nat) : Except CallFault Unit :=
  if region.Admits kind count x then .ok () else .error .misplaced

end Region

namespace Property

/-- Go through the elements of a property.  Each of them has to lie in the row that they take, and
the row in the region. -/
def guardElements {σ : Type} (property : Property) (region : Region) (x : Nat)
    (f : Region → σ → Nat → Except CallFault σ) (s : σ) : Except CallFault σ := do
  region.require property.kind property.dim x
  (List.range property.dim).foldlM
    (fun s i => f (.row region.base property.kind property.dim x) s
      (Elements.address x property.size i)) s

/-- Go through the elements of a property in two regions at once. -/
def guardElementPairs {σ : Type} (property : Property) (region : Region) (x : Nat)
    (other : Region) (y : Nat) (f : Region → Region → σ → Nat → Nat → Except CallFault σ) (s : σ) :
    Except CallFault σ := do
  region.require property.kind property.dim x
  other.require property.kind property.dim y
  (List.range property.dim).foldlM
    (fun s i => f (.row region.base property.kind property.dim x)
      (.row other.base property.kind property.dim y) s (Elements.address x property.size i)
      (Elements.address y property.size i)) s

end Property

/-- The kinds in a type are smaller than the type, which is what the guarded operations go down
by. -/
theorem TypeDescriptor.sizeOf_kind_lt (type : TypeDescriptor) {p : Property}
    (hp : p ∈ type.allProperties) : sizeOf p.kind < sizeOf type := by
  have hkind : sizeOf p.kind < sizeOf p := by
    obtain ⟨_, _, _, _, _⟩ := p
    simp
  match type with
  | { superType := none, .. } =>
    rw [allProperties] at hp
    have hown := List.sizeOf_lt_of_mem hp
    simp
    omega
  | { superType := some parent, .. } =>
    rw [allProperties, List.mem_append] at hp
    rcases hp with hp | hp
    · have hparent := parent.sizeOf_kind_lt hp
      simp
      omega
    · have hown := List.sizeOf_lt_of_mem hp
      simp
      omega

/-! ### Guarded operations on values -/

namespace Kind

/-- Make a default value.  Only a struct passes addresses on. -/
def guardedConstruct (region : Region) : Kind → Block → Nat → Except CallFault Block
  | .struct type, m, a => do
    region.require (.struct type) 1 a
    type.allProperties.attach.foldlM
      (fun m p => p.1.guardElements (.row region.base (.struct type) 1 a) (a + p.1.offset)
        (fun inside m x => p.1.kind.guardedConstruct inside m x) m) (m.clear a type.size)
  | kind, m, a => do
    region.require kind 1 a
    return kind.construct m a
termination_by kind => sizeOf kind
decreasing_by
  have := type.sizeOf_kind_lt p.2
  simp
  omega

/-- Destroy a value.  What is in a container is destroyed before its storage is given back. -/
def guardedDestroy (buffers : Buffers) (region : Region) :
    Kind → Block → Nat → Except CallFault Block
  | .struct type, m, a => do
    region.require (.struct type) 1 a
    type.allProperties.attach.foldlM
      (fun m p => p.1.guardElements (.row region.base (.struct type) 1 a) (a + p.1.offset)
        (fun inside m x => p.1.kind.guardedDestroy buffers inside m x) m) m
  | .array element, m, a => do
    region.require (.array element) 1 a
    let storage := m.slots a
    let inside := Region.ofArray buffers (region.base + a) element storage
    let _ ← (List.range storage.count).foldlM
      (fun cells i => element.guardedDestroy buffers inside cells
        (Elements.address 0 element.size i)) storage.cells
    return (Kind.array element).destroy m a
  | .map key value, m, a => do
    region.require (.map key value) 1 a
    let pairs := m.slots a
    let inside := Region.ofMap buffers (region.base + a) key value pairs
    let _ ← (List.range pairs.count).foldlM
      (fun cells i => do
        let cells ← key.guardedDestroy buffers inside cells (MapValue.keyAddress key value i)
        value.guardedDestroy buffers inside cells (MapValue.valueAddress key value i)) pairs.cells
    return (Kind.map key value).destroy m a
  | kind, m, a => do
    region.require kind 1 a
    return kind.destroy m a
termination_by kind => sizeOf kind
decreasing_by
  · have := type.sizeOf_kind_lt p.2
    simp
    omega
  · simp
  · simp
    omega
  · simp

/-- Copy one value over another.  A container destroys what is in it first, and then makes new
elements in new storage and copies over them. -/
def guardedCopy (buffers : Buffers) (region : Region) (other : Region) :
    Kind → Block → Nat → Block → Nat → Except CallFault Block
  | .struct type, m, a, source, b => do
    region.require (.struct type) 1 a
    other.require (.struct type) 1 b
    type.allProperties.attach.foldlM
      (fun m p => p.1.guardElementPairs (.row region.base (.struct type) 1 a) (a + p.1.offset)
        (.row other.base (.struct type) 1 b) (b + p.1.offset)
        (fun inside outside m x y =>
          p.1.kind.guardedCopy buffers inside outside m x source y) m) m
  | .array element, m, a, source, b => do
    other.require (.array element) 1 b
    let _ ← (Kind.array element).guardedDestroy buffers region m a
    let origin := source.slots b
    let target ← ((m.slots a).release.extend default origin.count element.size
      element.align).mapError .storage
    let inside := Region.ofArray buffers (region.base + a) element target
    let outside := Region.ofArray buffers (other.base + b) element origin
    let cells ← (List.range origin.count).foldlM
      (fun cells i => do
        let x := Elements.address 0 element.size i
        let cells ← element.guardedConstruct inside cells x
        element.guardedCopy buffers inside outside cells x origin.cells x) target.cells
    return m.setCell a (.slots { target with cells := cells })
  | .map key value, m, a, source, b => do
    other.require (.map key value) 1 b
    let _ ← (Kind.map key value).guardedDestroy buffers region m a
    let origin := source.slots b
    let target ← ((m.slots a).release.extend default origin.count (key.pairSize value)
      (key.pairAlign value)).mapError .storage
    let inside := Region.ofMap buffers (region.base + a) key value target
    let outside := Region.ofMap buffers (other.base + b) key value origin
    let cells ← (List.range origin.count).foldlM
      (fun cells i => do
        let x := MapValue.keyAddress key value i
        let y := MapValue.valueAddress key value i
        let cells ← key.guardedConstruct inside cells x
        let cells ← key.guardedCopy buffers inside outside cells x origin.cells x
        let cells ← value.guardedConstruct inside cells y
        value.guardedCopy buffers inside outside cells y origin.cells y) target.cells
    return m.setCell a (.slots { target with cells := cells })
  | kind, m, a, source, b => do
    region.require kind 1 a
    other.require kind 1 b
    (kind.copy m a source b).mapError .storage
termination_by kind => sizeOf kind
decreasing_by
  · have := type.sizeOf_kind_lt p.2
    simp
    omega
  · simp
  · simp
    omega
  · simp

/-- Compare two values.  Where the operation would stop at the first difference, the guarded one
goes on, so it passes more addresses on and not fewer. -/
def guardedIdentical (buffers : Buffers) (region : Region) (other : Region) :
    Kind → Block → Nat → Block → Nat → Except CallFault Bool
  | .struct type, m, a, n, b => do
    region.require (.struct type) 1 a
    other.require (.struct type) 1 b
    type.allProperties.attach.foldlM
      (fun same p => p.1.guardElementPairs (.row region.base (.struct type) 1 a) (a + p.1.offset)
        (.row other.base (.struct type) 1 b) (b + p.1.offset)
        (fun inside outside same x y => do
          return same && (← p.1.kind.guardedIdentical buffers inside outside m x n y)) same) true
  | .array element, m, a, n, b => do
    region.require (.array element) 1 a
    other.require (.array element) 1 b
    let left := m.slots a
    let right := n.slots b
    let inside := Region.ofArray buffers (region.base + a) element left
    let outside := Region.ofArray buffers (other.base + b) element right
    if left.count == right.count then
      (List.range left.count).foldlM
        (fun same i => do
          let x := Elements.address 0 element.size i
          return same
            && (← element.guardedIdentical buffers inside outside left.cells x right.cells x)) true
    else return false
  | .map key value, m, a, n, b => do
    region.require (.map key value) 1 a
    other.require (.map key value) 1 b
    let left := m.slots a
    let right := n.slots b
    let inside := Region.ofMap buffers (region.base + a) key value left
    let outside := Region.ofMap buffers (other.base + b) key value right
    if left.count == right.count then
      (List.range left.count).foldlM
        (fun same i => do
          let found ← (List.range right.count).foldlM
            (fun found j => do
              let matching ← key.guardedIdentical buffers outside inside right.cells
                (MapValue.keyAddress key value j) left.cells (MapValue.keyAddress key value i)
              return found.or (if matching then some j else none)) none
          match found with
          | some j =>
            return same && (← value.guardedIdentical buffers inside outside left.cells
              (MapValue.valueAddress key value i) right.cells (MapValue.valueAddress key value j))
          | none => return false) true
    else return false
  | kind, m, a, n, b => do
    region.require kind 1 a
    other.require kind 1 b
    return kind.identical m a n b
termination_by kind => sizeOf kind
decreasing_by
  · have := type.sizeOf_kind_lt p.2
    simp
    omega
  · simp
  · simp
    omega
  · simp

/-- Hash a value. -/
def guardedHash (buffers : Buffers) (region : Region) :
    Kind → Block → Nat → Except CallFault UInt32
  | .struct type, m, a => do
    region.require (.struct type) 1 a
    type.allProperties.attach.foldlM
      (fun seed p => do
        let mixed ← p.1.guardElements (.row region.base (.struct type) 1 a) (a + p.1.offset)
          (fun inside mixed x => do
            let h ← p.1.kind.guardedHash buffers inside m x
            return if p.1.dim = 1 then h else hashCombine mixed h) (UInt32.ofNat p.1.dim)
        return hashCombine seed mixed) 0
  | .array element, m, a => do
    region.require (.array element) 1 a
    let storage := m.slots a
    let inside := Region.ofArray buffers (region.base + a) element storage
    (List.range storage.count).foldlM
      (fun seed i => do
        return hashCombine seed (← element.guardedHash buffers inside storage.cells
          (Elements.address 0 element.size i))) (UInt32.ofNat storage.count)
  | .map key value, m, a => do
    region.require (.map key value) 1 a
    let pairs := m.slots a
    let inside := Region.ofMap buffers (region.base + a) key value pairs
    let sum ← (List.range pairs.count).foldlM
      (fun sum i => do
        let k ← key.guardedHash buffers inside pairs.cells (MapValue.keyAddress key value i)
        let v ← value.guardedHash buffers inside pairs.cells (MapValue.valueAddress key value i)
        return sum + hashCombine k v) 0
    return hashCombine (UInt32.ofNat pairs.count) sum
  | kind, m, a => do
    region.require kind 1 a
    return kind.hash m a
termination_by kind => sizeOf kind
decreasing_by
  · have := type.sizeOf_kind_lt p.2
    simp
    omega
  · simp
  · simp
    omega
  · simp

end Kind

/-! ### Guarded operations on properties -/

namespace Property

variable (buffers : Buffers) (property : Property)

/-- Make default values of all elements. -/
def guardedConstruct (region : Region) (m : Block) (x : Nat) : Except CallFault Block :=
  property.guardElements region x (fun inside m x => property.kind.guardedConstruct inside m x) m

/-- Destroy all elements. -/
def guardedDestroy (region : Region) (m : Block) (x : Nat) : Except CallFault Block :=
  property.guardElements region x
    (fun inside m x => property.kind.guardedDestroy buffers inside m x) m

/-- Copy all elements, first to last. -/
def guardedCopy (region : Region) (m : Block) (x : Nat) (other : Region) (source : Block)
    (y : Nat) : Except CallFault Block :=
  property.guardElementPairs region x other y
    (fun inside outside m x y =>
      property.kind.guardedCopy buffers inside outside m x source y) m

/-- Compare all elements. -/
def guardedIdentical (region : Region) (m : Block) (x : Nat) (other : Region) (n : Block)
    (y : Nat) : Except CallFault Bool :=
  property.guardElementPairs region x other y
    (fun inside outside same x y => do
      return same && (← property.kind.guardedIdentical buffers inside outside m x n y)) true

/-- Hash all elements. -/
def guardedHash (region : Region) (m : Block) (x : Nat) : Except CallFault UInt32 :=
  property.guardElements region x
    (fun inside mixed x => do
      let h ← property.kind.guardedHash buffers inside m x
      return if property.dim = 1 then h else hashCombine mixed h) (UInt32.ofNat property.dim)

end Property

/-! ### Guarded operations on containers -/

namespace ArrayValue

variable (buffers : Buffers) (owner : Nat) (element : Kind) (storage : Slots Cell)

/-- Append a default value. -/
def guardedPush : Except CallFault (Slots Cell) := do
  let index := storage.count
  let storage ← (storage.extend default 1 element.size element.align).mapError .storage
  let cells ← element.guardedConstruct (.ofArray buffers owner element storage) storage.cells
    (Elements.address 0 element.size index)
  return { storage with cells := cells }

/-- Destroy an element and close the gap, if there is such an element. -/
def guardedRemove? (index : Nat) : Except CallFault (Option (Slots Cell)) :=
  match elementAddress? element storage index with
  | none => return none
  | some x => do
    let cells ← element.guardedDestroy buffers (.ofArray buffers owner element storage)
      storage.cells x
    return some (Slots.removeAt { storage with cells := cells } index element.size)

/-- Destroy every element and give the storage back. -/
def guardedClear : Except CallFault (Slots Cell) := do
  let _ ← (List.range storage.count).foldlM
    (fun cells i => element.guardedDestroy buffers (.ofArray buffers owner element storage) cells
      (Elements.address 0 element.size i)) storage.cells
  return clear storage

end ArrayValue

namespace MapValue

variable (buffers : Buffers) (owner : Nat) (key value : Kind) (pairs : Slots Cell)

/-- Search for the pair with an identical key. -/
def guardedFind? (other : Region) (m : Block) (a : Nat) : Except CallFault (Option Nat) :=
  (List.range pairs.count).foldlM
    (fun found j => do
      let matching ← key.guardedIdentical buffers (.ofMap buffers owner key value pairs) other
        pairs.cells (keyAddress key value j) m a
      return found.or (if matching then some j else none)) none

/-- Make default values of the key and the value of a pair and copy the given ones over them. -/
def guardedConstructPair (index : Nat) (forKey : Region) (m : Block) (a : Nat)
    (forValue : Region) (n : Block) (b : Nat) : Except CallFault Block := do
  let inside := Region.ofMap buffers owner key value pairs
  let x := keyAddress key value index
  let y := valueAddress key value index
  let cells ← key.guardedConstruct inside pairs.cells x
  let cells ← key.guardedCopy buffers inside forKey cells x m a
  let cells ← value.guardedConstruct inside cells y
  value.guardedCopy buffers inside forValue cells y n b

/-- Store a copy of a value under a copy of a key. -/
def guardedAdd (forKey : Region) (m : Block) (a : Nat) (forValue : Region) (n : Block) (b : Nat) :
    Except CallFault (Slots Cell) := do
  match ← guardedFind? buffers owner key value pairs forKey m a with
  | some index =>
    let cells ← value.guardedCopy buffers (.ofMap buffers owner key value pairs) forValue
      pairs.cells (valueAddress key value index) n b
    return { pairs with cells := cells }
  | none =>
    let index := pairs.count
    let pairs ← (pairs.extend default 1 (key.pairSize value) (key.pairAlign value)).mapError
      .storage
    let cells ← guardedConstructPair buffers owner key value pairs index forKey m a forValue n b
    return { pairs with cells := cells }

/-- Destroy the pair with a key and close the gap, if the map has the key. -/
def guardedRemove? (other : Region) (m : Block) (a : Nat) :
    Except CallFault (Option (Slots Cell)) := do
  let inside := Region.ofMap buffers owner key value pairs
  match ← guardedFind? buffers owner key value pairs other m a with
  | none => return none
  | some index =>
    let cells ← key.guardedDestroy buffers inside pairs.cells (keyAddress key value index)
    let cells ← value.guardedDestroy buffers inside cells (valueAddress key value index)
    return some (Slots.removeAt { pairs with cells := cells } index (key.pairSize value))

/-- Destroy every pair and give the storage back. -/
def guardedClear : Except CallFault (Slots Cell) := do
  let inside := Region.ofMap buffers owner key value pairs
  let _ ← (List.range pairs.count).foldlM
    (fun cells i => do
      let cells ← key.guardedDestroy buffers inside cells (keyAddress key value i)
      value.guardedDestroy buffers inside cells (valueAddress key value i)) pairs.cells
  return clear pairs

end MapValue

end PropertyReflection
