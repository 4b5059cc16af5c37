import Mathlib
import PropertyReflection.Proofs.Footprint
import PropertyReflection.Proofs.IdentityInMemory

/-!
# Places apart

Two values of one property that are both in memory at different places do not overlap, and none is
in the storage of a container in the other.  `Place.Apart` says so of the two places: either they
are in different instances, or their ways part at some block, where the one goes on through a
container that is not in the range of the other.

Writing at one of two such places is not seen at the other one.  Since containers never share
storage, the proof follows the two ways as far as they are the same.
-/

namespace PropertyReflection

namespace Block

variable {m m' : Block}

/-! ### Storage on the way -/

/-- A change of storage is read back, if there is a cell for it. -/
theorem slots_modifySlots_self {a : Nat} (h : a < m.size) (f : Slots Cell → Slots Cell) :
    (m.modifySlots a f).slots a = f (m.slots a) := by
  rw [slots, slots, cell, cell, modifySlots, Array.getD_eq_getD_getElem?,
    Array.getD_eq_getD_getElem?, Array.getElem?_modify, if_pos rfl, Array.getElem?_eq_getElem h,
    Option.map_some, Option.getD_some, Option.getD_some]
  cases m[a] <;> rfl

/-- Outside a block there is no storage. -/
theorem slots_eq_empty {a : Nat} (h : m.size ≤ a) : m.slots a = .empty := by
  rw [slots, cell, Array.getD_eq_getD_getElem?, Array.getElem?_eq_none h]
  rfl

/-- From an empty block all ways lead to an empty one. -/
theorem descend_empty (hops : List Nat) : Block.descend hops #[] = #[] := by
  induction hops with
  | nil => rfl
  | cons hop rest ih =>
    rw [descend, slots_eq_empty (Nat.zero_le hop)]
    exact ih

/-- A block that takes the place of one of its size is there afterwards. -/
theorem descend_updateAt {hops : List Nat} (hsize : m'.size = (m.descend hops).size) :
    (m.updateAt hops fun _ => m').descend hops = m' := by
  induction hops generalizing m with
  | nil => rfl
  | cons hop rest ih =>
    rw [updateAt, descend]
    rw [descend] at hsize
    by_cases hin : hop < m.size
    · rw [slots_modifySlots_self hin]
      exact ih hsize
    · -- the way does not lead anywhere, and the new block is as empty as the old one
      have hempty : m.slots hop = .empty := slots_eq_empty (by omega)
      have hchanged := m.changedOnly_modifySlots hop fun storage =>
        { storage with cells := updateAt rest (fun _ => m') storage.cells }
      have hout := hchanged.size_eq.le.trans (Nat.le_of_not_lt hin)
      rw [hempty] at hsize
      change m'.size = (Block.descend rest #[]).size at hsize
      rw [descend_empty] at hsize
      rw [slots_eq_empty hout, Array.eq_empty_of_size_eq_zero hsize]
      exact descend_empty rest

end Block

namespace Place

/-! ### Ways apart -/

/-- Two ranges of equally many cells at the ends of two ways from one block have no cell in common,
and none of the ways goes on from a cell of the other range. -/
def WaysApart (count : Nat) : List Nat → Nat → List Nat → Nat → Prop
  | [], a, [], b => a + count ≤ b ∨ b + count ≤ a
  | [], a, hop :: _, _ => hop < a ∨ a + count ≤ hop
  | hop :: _, _, [], b => hop < b ∨ b + count ≤ hop
  | hop :: rest, a, hop' :: rest', b => hop ≠ hop' ∨ WaysApart count rest a rest' b

theorem WaysApart.symm {count : Nat} {hops hops' : List Nat} {a b : Nat}
    (h : WaysApart count hops a hops' b) : WaysApart count hops' b hops a := by
  induction hops generalizing hops' with
  | nil =>
    cases hops' with
    | nil => exact Or.symm h
    | cons => exact h
  | cons hop rest ih =>
    cases hops' with
    | nil => exact h
    | cons hop' rest' => exact Or.imp Ne.symm ih h

/-- The values of equally many cells at two places are different pieces of memory. -/
def Apart (p q : Place) (count : Nat) : Prop :=
  p ≠ q ∧ (p.owner ≠ q.owner ∨ WaysApart count p.hops p.address q.hops q.address)

variable {memory : String → Block} {p q : Place} {m : Block} {count : Nat}

theorem Apart.symm (h : p.Apart q count) : q.Apart p count :=
  ⟨h.1.symm, Or.imp Ne.symm WaysApart.symm h.2⟩

/-! ### Writing at one place -/

/-- The memory with another block where a place is. -/
def setBlock (memory : String → Block) (place : Place) (m : Block) : String → Block :=
  Function.update memory place.owner ((memory place.owner).updateAt place.hops fun _ => m)

/-- The new block is where the place is. -/
theorem block_setBlock (hsize : m.size = (p.block memory).size) :
    p.block (p.setBlock memory m) = m := by
  rw [block, setBlock, Function.update_self]
  exact Block.descend_updateAt hsize

/-- A change at the end of one way is not seen at the end of another one. -/
theorem WaysApart.sameCells {base : Block} {hops hops' : List Nat} {a b : Nat}
    (h : WaysApart count hops a hops' b) (changed : (base.descend hops).ChangedOnly m a count) :
    ((base.updateAt hops fun _ => m).descend hops').SameCells b (base.descend hops') b count := by
  induction hops generalizing base hops' with
  | nil =>
    cases hops' with
    | nil => exact changed.sameCells (Or.symm h)
    | cons hop' rest' =>
      -- the other way goes on from a cell that has not changed
      have hslots : m.slots hop' = base.slots hop' := Block.slots_congr (changed.cell_eq hop' h)
      rw [Block.updateAt, Block.descend, Block.descend, hslots]
      exact fun _ _ => rfl
  | cons hop rest ih =>
    have hfirst := base.changedOnly_modifySlots hop fun storage =>
      { storage with cells := Block.updateAt rest (fun _ => m) storage.cells }
    cases hops' with
    | nil =>
      have houtside : hop < b ∨ b + count ≤ hop := h
      exact hfirst.sameCells houtside.symm
    | cons hop' rest' =>
      rw [Block.updateAt, Block.descend, Block.descend]
      by_cases heq : hop = hop'
      · subst heq
        by_cases hin : hop < base.size
        · rw [Block.slots_modifySlots_self hin]
          exact ih (Or.resolve_left h (not_not_intro rfl)) changed
        · rw [Block.slots_eq_empty (by rw [hfirst.size_eq]; omega),
            Block.slots_eq_empty (m := base) (by omega)]
          exact fun _ _ => rfl
      · rw [Block.slots_congr (hfirst.cell_eq hop' (by omega))]
        exact fun _ _ => rfl

/-- A change to the value at one place is not seen at a place apart. -/
theorem Apart.sameCells (h : p.Apart q count)
    (changed : (p.block memory).ChangedOnly m p.address count) :
    (q.block (p.setBlock memory m)).SameCells q.address (q.block memory) q.address count := by
  obtain ⟨-, howner | hways⟩ := h
  · rw [block, block, setBlock, Function.update_of_ne howner.symm]
    exact fun _ _ => rfl
  · by_cases howner : p.owner = q.owner
    · rw [block, howner] at changed
      rw [block, block, setBlock, howner, Function.update_self]
      exact hways.sameCells changed
    · rw [block, block, setBlock, Function.update_of_ne (Ne.symm howner)]
      exact fun _ _ => rfl

end Place

end PropertyReflection
