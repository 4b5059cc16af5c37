import Mathlib
import PropertyReflection.Proofs.LiveValues

/-!
# Calls on storage

The operations of `Slots` answer with new storage or with a fault.  The program works on storage in
place: it tests, computes in machine words and assigns, one thing after the other, and it may stop
between any two of them.  `StorageCall` is a call of this kind, in the order of the program.

A call either does what the operation of `Slots` says or stops with its fault before anything has
changed.  It never gets to a sum or a product that is not tested and leaves the machine words, since
the bytes of sound storage fit into an allocation.
-/

namespace PropertyReflection

/-! ### Layouts -/

theorem isPowerOfTwo_iff {n : Nat} : isPowerOfTwo n = true ↔ n.isPowerOfTwo := by
  rw [← Nat.ne_zero_and_sub_one_eq_zero_iff_isPowerOfTwo]
  simp [isPowerOfTwo]

/-- There is no allocation for this many slots. -/
def NoLayout (capacity stride align : Nat) : Prop :=
  ¬ align.isPowerOfTwo ∨ maxAllocation < alignUp (capacity * stride) align

instance (capacity stride align : Nat) : Decidable (NoLayout capacity stride align) :=
  inferInstanceAs (Decidable (_ ∨ _))

namespace Slots

variable {α : Type} {slots grown : Slots α} {stride align additional : Nat}

/-- That the bytes can be counted is no condition of its own. -/
theorem layoutFault?_eq_none_iff {capacity : Nat} :
    layoutFault? capacity stride align = none ↔ ¬ NoLayout capacity stride align := by
  rw [NoLayout, not_or, not_not, Nat.not_lt, ← isPowerOfTwo_iff]
  unfold layoutFault? isAllocatable
  constructor
  · grind
  · rintro ⟨hpower, hbytes⟩
    have hpos : 0 < align := by
      rcases isPowerOfTwo_iff.mp hpower with ⟨k, rfl⟩
      positivity
    have hle : capacity * stride ≤ alignUp (capacity * stride) align := le_alignUp hpos
    have hlimit : ¬ wordLimit ≤ capacity * stride := by
      simp only [maxAllocation, wordLimit] at hbytes ⊢
      omega
    simp [hlimit, hpower, hbytes]

/-- The bytes of sound storage fit into an allocation. -/
theorem Sound.bytes_le (h : slots.Sound stride align) :
    alignUp (slots.capacity * stride) align ≤ maxAllocation := by
  rcases h.allocated with hzero | ⟨-, hfits⟩
  · have hnone : alignUp 0 align = 0 := by
      rcases Nat.eq_zero_or_pos align with rfl | hpos
      · rfl
      · rw [alignUp, Nat.zero_add, Nat.div_eq_of_lt (by omega), Nat.zero_mul]
    rw [hzero, Nat.zero_mul, hnone]
    exact Nat.zero_le _
  · exact Nat.not_lt.mp fun hlt => layoutFault?_eq_none_iff.mp hfits (Or.inr hlt)

/-- Twice the capacity of sound storage is a machine word. -/
theorem Sound.doubled_lt (h : slots.Sound stride align) (pos : 0 < stride) :
    slots.capacity * 2 < wordLimit := by
  rcases h.allocated with hzero | ⟨-, hfits⟩
  · rw [hzero]
    decide
  · have hallocated := layoutFault?_eq_none_iff.mp hfits
    rw [NoLayout, not_or, not_not, Nat.not_lt] at hallocated
    obtain ⟨⟨k, rfl⟩, hbytes⟩ := hallocated
    have hrounded : slots.capacity * stride ≤ alignUp (slots.capacity * stride) (2 ^ k) :=
      le_alignUp (by positivity)
    have hslots : slots.capacity ≤ slots.capacity * stride :=
      Nat.le_mul_of_pos_right slots.capacity pos
    simp only [maxAllocation, wordLimit] at hbytes ⊢
    omega

/-- The byte at which a slot of sound storage starts is counted in a machine word. -/
theorem Sound.offset_lt (h : slots.Sound stride align) {index : Nat} (hi : index ≤ slots.count) :
    index * stride < wordLimit := by
  rcases h.allocated with hzero | ⟨-, hfits⟩
  · have hcount := h.count_le
    obtain rfl : index = 0 := by omega
    rw [Nat.zero_mul]
    decide
  · have hbytes : index * stride ≤ slots.capacity * stride :=
      Nat.mul_le_mul_right stride (hi.trans h.count_le)
    unfold layoutFault? at hfits
    split at hfits
    · exact absurd hfits (by simp)
    · omega

end Slots

/-! ### Calls -/

/-- Why a call on storage stops. -/
inductive Stop where
  /-- A number of slots or a layout that the program tests is refused. -/
  | fault (fault : StorageFault)
  /-- A number that the program does not test is not a machine word, or there is no such slot. -/
  | unchecked
deriving DecidableEq, Repr

/-- A call on storage.  What it has changed when it stops remains changed. -/
abbrev StorageCall (α β : Type) := ExceptT Stop (StateM (Slots α)) β

namespace StorageCall

variable {α β : Type}

/-- The answer of a call on some storage, and the storage that it leaves. -/
def outcome (call : StorageCall α β) (slots : Slots α) : Except Stop β × Slots α :=
  (ExceptT.run call).run slots

/-- A number that the program tests to be a machine word. -/
def checked (n : Nat) : StorageCall α Nat :=
  if n < wordLimit then pure n else throw (.fault .capacityOverflow)

/-- A number of which the program takes for granted that it is a machine word. -/
def unchecked (n : Nat) : StorageCall α Nat :=
  if n < wordLimit then pure n else throw .unchecked

/-- The layout of some slots. -/
def layout (capacity stride align : Nat) : StorageCall α Unit := do
  let size ← checked (capacity * stride)
  if Slots.isAllocatable size align then pure () else throw (.fault .invalidElementLayout)

/-- The layout of the allocation that the storage has, if it has one. -/
def heldLayout (stride align : Nat) : StorageCall α Unit := do
  let slots ← get
  if slots.capacity = 0 then pure () else layout slots.capacity stride align

/-- Grow the allocation.  The layout of the old one is computed again, since it is moved. -/
def reserve (additional stride align : Nat) : StorageCall α Unit := do
  let slots ← get
  let required ← checked (slots.count + additional)
  if required ≤ slots.capacity then
    pure ()
  else
    let doubled ← unchecked (slots.capacity * 2)
    let capacity := max (max required doubled) 4
    layout capacity stride align
    heldLayout stride align
    modify fun slots => { slots with capacity := capacity }

/-- Take slots into use behind the last element, and answer with the first of them. -/
def add (fresh : α) (additional stride align : Nat) : StorageCall α Nat := do
  reserve additional stride align
  let slots ← get
  let count ← unchecked (slots.count + additional)
  set { slots with
    count := count
    cells := slots.cells ++ Array.replicate (count * stride - slots.cells.size) fresh }
  return slots.count

/-- Move `length` cells down, from `source` to `target`. -/
def moveDown (cells : Array α) (target source length : Nat) : Array α :=
  cells.extract 0 target ++ cells.extract source (source + length) ++
    cells.extract (target + length) cells.size

/-- Move the slots behind a slot down by one. -/
def moveTail (index stride : Nat) : StorageCall α Unit := do
  let slots ← get
  let tail := slots.count - index - 1
  if tail = 0 then
    pure ()
  else
    let source ← unchecked ((index + 1) * stride)
    let target ← unchecked (index * stride)
    let length ← unchecked (tail * stride)
    set { slots with cells := moveDown slots.cells target source length }

/-- Take a slot out. -/
def remove (index stride : Nat) : StorageCall α Unit := do
  let slots ← get
  if slots.count ≤ index then
    throw .unchecked
  else
    moveTail index stride
    modify fun slots => { slots with count := slots.count - 1 }

/-- Give the allocation back. -/
def free (stride align : Nat) : StorageCall α Unit := do
  heldLayout stride align
  set (Slots.empty : Slots α)

/-! ### Calls on sound storage -/

variable {slots : Slots α} {stride align : Nat}

@[simp] theorem outcome_pure (b : β) : outcome (pure b : StorageCall α β) slots = (.ok b, slots) :=
  rfl

@[simp] theorem outcome_throw (stop : Stop) :
    outcome (throw stop : StorageCall α β) slots = (.error stop, slots) := rfl

@[simp] theorem outcome_get : outcome (get : StorageCall α (Slots α)) slots = (.ok slots, slots) :=
  rfl

@[simp] theorem outcome_set (after : Slots α) :
    outcome (set after : StorageCall α PUnit) slots = (.ok (), after) := rfl

@[simp] theorem outcome_modify (f : Slots α → Slots α) :
    outcome (modify f : StorageCall α PUnit) slots = (.ok (), f slots) := rfl

/-- A call that succeeds hands on its answer and its storage; one that stops is the end. -/
@[simp] theorem outcome_bind {γ : Type} (call : StorageCall α β) (next : β → StorageCall α γ) :
    outcome (call >>= next) slots =
      match call.outcome slots with
      | (.ok b, after) => (next b).outcome after
      | (.error stop, after) => (.error stop, after) := by
  rw [outcome, ExceptT.run_bind]
  rcases h : call.outcome slots with ⟨_ | _, after⟩
  all_goals
    rw [outcome] at h
    rw [StateT.run_bind, h]
    rfl

@[simp] theorem outcome_checked (n : Nat) : outcome (checked n : StorageCall α Nat) slots =
    (if n < wordLimit then .ok n else .error (.fault .capacityOverflow), slots) := by
  rw [checked]
  split <;> rfl

theorem outcome_unchecked {n : Nat} (h : n < wordLimit) :
    outcome (unchecked n : StorageCall α Nat) slots = (.ok n, slots) := by
  rw [unchecked, if_pos h, outcome_pure]

/-- A layout is computed without a change to the storage. -/
theorem outcome_layout (capacity : Nat) :
    outcome (layout capacity stride align : StorageCall α Unit) slots =
    (match Slots.layoutFault? capacity stride align with
      | some fault => .error (.fault fault)
      | none => .ok (), slots) := by
  rw [layout, outcome_bind, outcome_checked, Slots.layoutFault?]
  grind [outcome_throw, outcome_pure]

@[simp] theorem outcome_ite {p : Prop} [Decidable p] (call other : StorageCall α β) :
    outcome (if p then call else other) slots =
      if p then call.outcome slots else other.outcome slots := by
  split <;> rfl

theorem outcome_heldLayout (sound : slots.Sound stride align) :
    (heldLayout stride align).outcome slots = (.ok (), slots) := by
  simp only [heldLayout, outcome_bind, outcome_get, outcome_ite, outcome_pure, outcome_layout]
  split
  · rfl
  · next h => rw [(sound.allocated.resolve_left h).2]

theorem outcome_reserve (sound : slots.Sound stride align) (pos : 0 < stride) (additional : Nat) :
    (reserve additional stride align).outcome slots =
      match slots.reserve additional stride align with
      | .ok after => (.ok (), after)
      | .error fault => (.error (.fault fault), slots) := by
  have hdoubled := sound.doubled_lt pos
  simp only [reserve, Slots.reserve, outcome_bind, outcome_get, outcome_checked, outcome_ite,
    outcome_pure, outcome_unchecked hdoubled, outcome_layout]
  by_cases hword : slots.count + additional < wordLimit
  · rw [if_pos hword, if_neg (by omega)]
    dsimp only
    by_cases hroom : slots.count + additional ≤ slots.capacity
    · rw [if_pos hroom, if_pos hroom]
    rw [if_neg hroom, if_neg hroom, Slots.grownCapacity]
    cases Slots.layoutFault? (max (max (slots.count + additional) (slots.capacity * 2)) 4)
      stride align with
    | some fault => rfl
    | none => simp only [outcome_heldLayout sound, outcome_modify]
  · rw [if_neg hword, if_pos (by omega)]

theorem outcome_add (sound : slots.Sound stride align) (pos : 0 < stride) (fresh : α)
    (additional : Nat) :
    (add fresh additional stride align).outcome slots =
      match slots.extend fresh additional stride align with
      | .ok after => (.ok slots.count, after)
      | .error fault => (.error (.fault fault), slots) := by
  rw [add, outcome_bind, outcome_reserve sound pos]
  cases hreserve : slots.reserve additional stride align with
  | error fault => rw [Slots.extend_eq_error_of_reserve fresh hreserve]
  | ok grown =>
    obtain ⟨hsound, hroom⟩ := sound.reserve hreserve
    obtain ⟨hcount, hcells⟩ := Slots.count_reserve hreserve
    have hword : slots.count + additional < wordLimit := by
      have hdoubled := hsound.doubled_lt pos
      omega
    rw [Slots.extend_eq_of_reserve fresh hreserve]
    simp only [outcome_bind, outcome_get, outcome_set, outcome_pure, hcount, hcells,
      outcome_unchecked hword]

/-- Moving nothing changes nothing. -/
theorem moveDown_zero (cells : Array α) (target source : Nat) :
    moveDown cells target source 0 = cells := by
  simp [moveDown]

/-- Closing a gap is moving the cells behind it. -/
theorem removeAt_eq_moveDown {index : Nat} (h : index < slots.count) :
    slots.removeAt index stride =
      { slots with
        count := slots.count - 1
        cells := moveDown slots.cells (index * stride) ((index + 1) * stride)
          ((slots.count - index - 1) * stride) } := by
  have hlast :
      (index + 1) * stride + (slots.count - index - 1) * stride = slots.count * stride := by
    rw [← Nat.add_mul]
    congr 1
    omega
  have hrest :
      index * stride + (slots.count - index - 1) * stride = (slots.count - 1) * stride := by
    rw [← Nat.add_mul]
    congr 1
    omega
  rw [Slots.removeAt, moveDown, hlast, hrest]

theorem outcome_moveTail (sound : slots.Sound stride align) {index : Nat}
    (h : index < slots.count) :
    (moveTail index stride).outcome slots = (.ok (),
      { slots with
        cells := moveDown slots.cells (index * stride) ((index + 1) * stride)
          ((slots.count - index - 1) * stride) }) := by
  have hsource : (index + 1) * stride < wordLimit := sound.offset_lt h
  have htarget : index * stride < wordLimit := sound.offset_lt h.le
  have hlength : (slots.count - index - 1) * stride < wordLimit := sound.offset_lt (by omega)
  simp only [moveTail, outcome_bind, outcome_get, outcome_ite, outcome_pure, outcome_set,
    outcome_unchecked hsource, outcome_unchecked htarget, outcome_unchecked hlength]
  split
  · next hnone => rw [hnone, Nat.zero_mul, moveDown_zero]
  · rfl

theorem outcome_remove (sound : slots.Sound stride align) {index : Nat} (h : index < slots.count) :
    (remove index stride).outcome slots = (.ok (), slots.removeAt index stride) := by
  rw [remove, outcome_bind, outcome_get]
  dsimp only
  rw [if_neg (by omega), outcome_bind, outcome_moveTail sound h, removeAt_eq_moveDown h]
  rfl

theorem outcome_free (sound : slots.Sound stride align) :
    (free stride align).outcome slots = (.ok (), slots.release) := by
  rw [free, outcome_bind, outcome_heldLayout sound]
  rfl

end StorageCall

end PropertyReflection
