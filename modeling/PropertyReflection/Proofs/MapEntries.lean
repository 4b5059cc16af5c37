import Mathlib
import PropertyReflection.Container.MapValue
import PropertyReflection.Proofs.DeepCopy

/-!
# Maps as lists of entries

What a map holds is a list of pairs of values, `MapValue.entries`, and the operations on maps are
operations on this list: a value is replaced, a pair is appended, or a pair is taken out.  Each pair
has its cells, so what happens to one pair leaves the others as they are, and a pair that moves to
another slot reads there as it did before.

Whether the keys are unique plays no part here.
-/

namespace PropertyReflection

/-! ### Cells of storage -/

namespace Block

variable {m n : Block} {x : Nat}

/-- The cells of a block stay when cells are appended to it. -/
theorem cell_append_left (h : x < m.size) : Block.cell (m ++ n) x = m.cell x := by
  rw [cell, cell, Array.getD_eq_getD_getElem?, Array.getD_eq_getD_getElem?,
    Array.getElem?_append_left h]

end Block

namespace Slots

variable {slots : Slots Cell} {index stride x : Nat}

/-- The cells before a gap stay where they are. -/
theorem cell_removeAt_before (h : x < index * stride) (hindex : index * stride ≤ slots.cells.size) :
    Block.cell (slots.removeAt index stride).cells x = Block.cell slots.cells x := by
  rw [Block.cell, Block.cell, Array.getD_eq_getD_getElem?, Array.getD_eq_getD_getElem?,
    getElem?_removeAt_before h hindex]

/-- The cells behind a gap move down by one slot. -/
theorem cell_removeAt_behind (h : index * stride ≤ x) (hindex : index < slots.count)
    (hx : x + stride < slots.count * stride)
    (hcells : slots.count * stride ≤ slots.cells.size) :
    Block.cell (slots.removeAt index stride).cells x = Block.cell slots.cells (x + stride) := by
  rw [Block.cell, Block.cell, Array.getD_eq_getD_getElem?, Array.getD_eq_getD_getElem?,
    getElem?_removeAt_behind h hindex hx hcells]

/-- After an element was changed and its slot closed, the slots before it have the cells they had,
and the others those of the slots behind them. -/
theorem sameCells_removeAt {slots : Slots Cell} {i j : Nat} (hi : i < slots.count) {cells : Block}
    (hcells : slots.count * stride ≤ cells.size)
    (hchanged : Block.ChangedOnly slots.cells cells (Elements.address 0 stride i) stride)
    (hj : j < slots.count - 1) :
    Block.SameCells (Slots.removeAt { slots with cells := cells } i stride).cells
      (Elements.address 0 stride j) slots.cells
      (Elements.address 0 stride (if j < i then j else j + 1)) stride := by
  have haddress : ∀ k, Elements.address 0 stride k = k * stride := fun k => Nat.zero_add _
  intro x hx
  by_cases hlow : j < i
  · have hnext : (j + 1) * stride ≤ i * stride := Nat.mul_le_mul_right _ hlow
    have hlast : i * stride ≤ slots.count * stride := Nat.mul_le_mul_right _ hi.le
    rw [Nat.succ_mul] at hnext
    rw [if_pos hlow, haddress, cell_removeAt_before (by omega) (hlast.trans hcells)]
    exact hchanged.cell_eq _ (Or.inl (by rw [haddress]; omega))
  · have hnext : i * stride ≤ j * stride := Nat.mul_le_mul_right _ (Nat.le_of_not_lt hlow)
    have hlast : (j + 1 + 1) * stride ≤ slots.count * stride := Nat.mul_le_mul_right _ (by omega)
    rw [Nat.succ_mul, Nat.succ_mul] at hlast
    have hstart : i * stride ≤ j * stride + x := by omega
    have hhigh : j * stride + x + stride < slots.count * stride := by omega
    have hmoved : Block.cell (Slots.removeAt { slots with cells := cells } i stride).cells
          (j * stride + x) = Block.cell cells (j * stride + x + stride) :=
      cell_removeAt_behind hstart hi hhigh hcells
    have hshift : j * stride + x + stride = j * stride + stride + x := by omega
    rw [if_neg hlow, haddress, haddress, hmoved, Nat.succ_mul, hshift]
    exact hchanged.cell_eq _ (Or.inr (by rw [haddress]; omega))

end Slots

namespace MapValue

variable {key value : Kind}

/-! ### Entries -/

/-- What the key and the value of a pair read as. -/
def entryAt (key value : Kind) (cells : Block) (i : Nat) : Value × Value :=
  (key.read cells (keyAddress key value i), value.read cells (valueAddress key value i))

/-- The pairs of a map, in the order in which they are stored. -/
def entries (key value : Kind) (pairs : Slots Cell) : List (Value × Value) :=
  (List.range pairs.count).map (entryAt key value pairs.cells)

/-- The key and the value of a pair are live. -/
def PairLive (key value : Kind) (cells : Block) (i : Nat) : Prop :=
  key.Live cells (keyAddress key value i) ∧ value.Live cells (valueAddress key value i)

/-- The storage of a map is sound, and all its pairs are live. -/
structure Live (key value : Kind) (pairs : Slots Cell) : Prop where
  storage : pairs.Sound (key.pairSize value) (key.pairAlign value)
  pairLive : ∀ i < pairs.count, PairLive key value pairs.cells i

theorem live_empty (key value : Kind) : Live key value .empty :=
  ⟨Slots.sound_empty _ _, fun i hi => absurd hi (Nat.not_lt_zero i)⟩

/-- A map is live if its storage is sound and its pairs are. -/
theorem live_map_iff {m : Block} {a : Nat} :
    (Kind.map key value).Live m a ↔ Live key value (m.slots a) := by
  constructor
  · intro h
    cases h with
    | map storage keys values => exact ⟨storage, fun i hi => ⟨keys i hi, values i hi⟩⟩
  · intro h
    exact .map h.storage (fun i hi => (h.pairLive i hi).1) fun i hi => (h.pairLive i hi).2

/-- A map reads as its entries. -/
theorem read_map_eq (m : Block) (a : Nat) :
    (Kind.map key value).read m a = .map (entries key value (m.slots a)) := by
  rw [Kind.read]
  rfl

@[simp] theorem length_entries (pairs : Slots Cell) :
    (entries key value pairs).length = pairs.count := by
  rw [entries, List.length_map, List.length_range]

theorem getElem_entries (pairs : Slots Cell) {i : Nat} (h : i < (entries key value pairs).length) :
    (entries key value pairs)[i] = entryAt key value pairs.cells i := by
  simp only [entries, List.getElem_map, List.getElem_range]

theorem mem_entries {pairs : Slots Cell} {e : Value × Value} :
    e ∈ entries key value pairs ↔ ∃ i < pairs.count, entryAt key value pairs.cells i = e := by
  simp only [entries, List.mem_map, List.mem_range]

/-- A pair reads the same in any slot, and is live in any slot, where its cells are the same. -/
theorem entryAt_congr (keySound : key.Sound) (valueSound : value.Sound) {cells other : Block}
    {i j : Nat} (h : cells.SameCells (keyAddress key value i) other (keyAddress key value j)
      (key.pairSize value)) :
    entryAt key value cells i = entryAt key value other j ∧
      (PairLive key value other j → PairLive key value cells i) := by
  have hkeyEnd : key.size ≤ key.pairValueOffset value := Kind.size_le_pairValueOffset valueSound
  have hpairEnd : key.pairValueOffset value + value.size ≤ key.pairSize value :=
    Kind.pairValueOffset_add_size_le valueSound
  have hkey : key.SameIn cells (keyAddress key value i) other (keyAddress key value j) :=
    .of_sameCells fun x hx => h x (by omega)
  have hvalue : value.SameIn cells (valueAddress key value i) other (valueAddress key value j) :=
    .of_sameCells (h.part hpairEnd)
  refine ⟨Prod.ext (keySound.read_congr hkey) (valueSound.read_congr hvalue), fun hlive => ?_⟩
  exact ⟨keySound.live_congr hkey hlive.1, valueSound.live_congr hvalue hlive.2⟩

/-- A change to one pair leaves the others the same. -/
theorem sameCells_of_changedOnly {cells cells' : Block} {i j : Nat} (hne : i ≠ j)
    (h : cells.ChangedOnly cells' (keyAddress key value i) (key.pairSize value)) :
    cells'.SameCells (keyAddress key value j) cells (keyAddress key value j)
      (key.pairSize value) :=
  h.sameCells (Elements.address_apart hne.symm 0 (key.pairSize value))

/-- All cells of a pair are there. -/
theorem Live.pair_le {pairs : Slots Cell} (live : Live key value pairs) {i : Nat}
    (hi : i < pairs.count) :
    keyAddress key value i + key.pairSize value ≤ pairs.cells.size := by
  have hinside := Elements.address_add_le hi 0 (key.pairSize value)
  have hcells := live.storage.cells_size
  rw [Nat.zero_add, Nat.mul_comm] at hinside
  exact hinside.trans hcells

/-! ### Searching -/

/-- What a search finds is a pair whose key is identical. -/
theorem of_findPair?_eq_some {pairs : Slots Cell} {m : Block} {a i : Nat}
    (h : findPair? key value pairs m a = some i) :
    i < pairs.count ∧
      (entryAt key value pairs.cells i).1.identical (key.read m a) = true := by
  have hmem := List.mem_of_find?_eq_some h
  have hsame := List.find?_some h
  rw [Kind.identical_eq] at hsame
  exact ⟨List.mem_range.mp hmem, hsame⟩

/-- A search finds nothing exactly if no key is identical. -/
theorem findPair?_eq_none_iff {pairs : Slots Cell} {m : Block} {a : Nat} :
    findPair? key value pairs m a = none ↔
      ∀ e ∈ entries key value pairs, e.1.identical (key.read m a) = false := by
  rw [findPair?, List.find?_eq_none, entries, List.forall_mem_map]
  refine forall₂_congr fun i _ => ?_
  rw [Kind.identical_eq, Bool.not_eq_true]
  rfl

/-! ### Replacing, appending and removing -/

variable {pairs : Slots Cell}

/-- When the value of a pair is replaced, its key and all other pairs stay. -/
theorem replace_ok (keySound : key.Sound) (valueSound : value.Sound)
    (live : Live key value pairs) {i : Nat} (hi : i < pairs.count) {n : Block} {b : Nat}
    (valueLive : value.Live n b) :
    ∃ (cells : Block) (w : Value),
      value.copy pairs.cells (valueAddress key value i) n b = .ok cells ∧
      Live key value { pairs with cells := cells } ∧
      entries key value { pairs with cells := cells } =
        (entries key value pairs).set i ((entryAt key value pairs.cells i).1, w) ∧
      w.meaning = (value.read n b).meaning := by
  have hkeyEnd : key.size ≤ key.pairValueOffset value := Kind.size_le_pairValueOffset valueSound
  have hpairEnd : key.pairValueOffset value + value.size ≤ key.pairSize value :=
    Kind.pairValueOffset_add_size_le valueSound
  have hpair := live.pair_le hi
  have haddress : valueAddress key value i = keyAddress key value i + key.pairValueOffset value :=
    rfl
  have hfits : valueAddress key value i + value.size ≤ pairs.cells.size := by omega
  obtain ⟨cells, hok, hchanged, hcopy⟩ := valueSound.copiesFaithfully _ _ n b hfits valueLive
  have hpairChanged : Block.ChangedOnly pairs.cells cells (keyAddress key value i)
      (key.pairSize value) := hchanged.mono (by omega) (by omega)
  have hkeySame : key.SameIn cells (keyAddress key value i) pairs.cells (keyAddress key value i) :=
    .of_sameCells (hchanged.sameCells (Or.inl (by omega)))
  refine ⟨cells, value.read cells (valueAddress key value i), hok, ⟨?_, ?_⟩, ?_, hcopy.meaning_eq⟩
  · exact ⟨live.storage.count_le, live.storage.allocated,
      hchanged.size_eq.symm ▸ live.storage.cells_size⟩
  · intro j hj
    by_cases hij : i = j
    · subst hij
      exact ⟨keySound.live_congr hkeySame (live.pairLive i hj).1, hcopy.live⟩
    · exact (entryAt_congr keySound valueSound (sameCells_of_changedOnly hij hpairChanged)).2
        (live.pairLive j hj)
  · refine List.ext_getElem (by simp) fun j hj hj' => ?_
    rw [getElem_entries, List.getElem_set]
    split
    · next hij =>
      subst hij
      exact Prod.ext (keySound.read_congr hkeySame) rfl
    · next hij =>
      rw [getElem_entries]
      exact (entryAt_congr keySound valueSound (sameCells_of_changedOnly hij hpairChanged)).1

/-- If there is room, a pair is appended and all pairs before it stay. -/
theorem append_ok (keySound : key.Sound) (valueSound : value.Sound)
    (live : Live key value pairs) {room : Slots Cell}
    (hroom : pairs.reserve 1 (key.pairSize value) (key.pairAlign value) = .ok room)
    {m n : Block} {a b : Nat} (keyLive : key.Live m a) (valueLive : value.Live n b) :
    ∃ (taken : Slots Cell) (cells : Block) (x w : Value),
      pairs.extend default 1 (key.pairSize value) (key.pairAlign value) = .ok taken ∧
      constructPair key value taken.cells pairs.count m a n b = .ok cells ∧
      Live key value { taken with cells := cells } ∧
      entries key value { taken with cells := cells } = entries key value pairs ++ [(x, w)] ∧
      x.meaning = (key.read m a).meaning ∧ w.meaning = (value.read n b).meaning := by
  have htaken := Slots.extend_eq_of_reserve default hroom
  have hsound := live.storage.extend htaken
  generalize htakenDef : Slots.mk (pairs.count + 1) room.capacity (pairs.cells ++
    Array.replicate ((pairs.count + 1) * key.pairSize value - pairs.cells.size) default) = taken
    at htaken hsound
  have hcount : taken.count = pairs.count + 1 := by rw [← htakenDef]
  have hcells : taken.cells = pairs.cells ++ Array.replicate
      ((pairs.count + 1) * key.pairSize value - pairs.cells.size) default := by rw [← htakenDef]
  -- the slots in use before keep their cells
  have hold : ∀ j < pairs.count, Block.SameCells taken.cells (keyAddress key value j) pairs.cells
      (keyAddress key value j) (key.pairSize value) := by
    intro j hj x hx
    have hpair := live.pair_le hj
    rw [hcells]
    exact Block.cell_append_left (by omega)
  have hfits : keyAddress key value pairs.count + key.pairSize value ≤ taken.cells.size := by
    have hinside := Elements.address_add_le (Nat.lt_succ_self pairs.count) 0 (key.pairSize value)
    have hsize := hsound.cells_size
    rw [hcount, Nat.mul_comm] at hsize
    rw [Nat.zero_add] at hinside
    exact hinside.trans hsize
  obtain ⟨cells, hok, hchanged, hkeyCopy, hvalueCopy⟩ :=
    keySound.copiesFaithfully.pair keySound valueSound.copiesFaithfully valueSound hfits keyLive
      valueLive
  have hsame : ∀ j < pairs.count, Block.SameCells cells (keyAddress key value j) pairs.cells
      (keyAddress key value j) (key.pairSize value) := by
    intro j hj
    have hne : pairs.count ≠ j := by omega
    exact (sameCells_of_changedOnly hne hchanged).trans (hold j hj)
  refine ⟨taken, cells, _, _, htaken, hok, ⟨?_, ?_⟩, ?_, hkeyCopy.meaning_eq,
    hvalueCopy.meaning_eq⟩
  · exact ⟨hsound.count_le, hsound.allocated, hchanged.size_eq.symm ▸ hsound.cells_size⟩
  · intro j hj
    rcases Nat.lt_succ_iff_lt_or_eq.mp (hcount ▸ hj) with hj | rfl
    · exact (entryAt_congr keySound valueSound (hsame j hj)).2 (live.pairLive j hj)
    · exact ⟨hkeyCopy.live, hvalueCopy.live⟩
  · rw [entries, entries, hcount, List.range_succ, List.map_append, List.map_singleton]
    congr 1
    exact List.map_congr_left fun j hj =>
      (entryAt_congr keySound valueSound (hsame j (List.mem_range.mp hj))).1

/-- After a pair was destroyed and its slot closed, the slots before it have the cells they had, and
the others those of the slots behind them. -/
theorem sameCells_removeAt {i j : Nat} (hi : i < pairs.count) {cells : Block}
    (hcells : pairs.count * key.pairSize value ≤ cells.size)
    (hchanged : Block.ChangedOnly pairs.cells cells (keyAddress key value i) (key.pairSize value))
    (hj : j < pairs.count - 1) :
    Block.SameCells (Slots.removeAt { pairs with cells := cells } i (key.pairSize value)).cells
      (keyAddress key value j) pairs.cells (keyAddress key value (if j < i then j else j + 1))
      (key.pairSize value) :=
  Slots.sameCells_removeAt hi hcells hchanged hj

/-- A pair whose values are destroyed and whose slot is closed is gone, and no other one is. -/
theorem remove_ok (keySound : key.Sound) (valueSound : value.Sound)
    (live : Live key value pairs) {i : Nat} (hi : i < pairs.count) {cells : Block}
    (hcells : value.destroy (key.destroy pairs.cells (keyAddress key value i))
      (valueAddress key value i) = cells) :
    Live key value (Slots.removeAt { pairs with cells := cells } i (key.pairSize value)) ∧
      entries key value (Slots.removeAt { pairs with cells := cells } i (key.pairSize value)) =
        (entries key value pairs).eraseIdx i := by
  have hkeyEnd : key.size ≤ key.pairValueOffset value := Kind.size_le_pairValueOffset valueSound
  have hpairEnd : key.pairValueOffset value + value.size ≤ key.pairSize value :=
    Kind.pairValueOffset_add_size_le valueSound
  have haddress : valueAddress key value i = keyAddress key value i + key.pairValueOffset value :=
    rfl
  have hchanged : Block.ChangedOnly pairs.cells cells (keyAddress key value i)
      (key.pairSize value) := by
    rw [← hcells]
    have hfirst := keySound.changedOnly_destroy pairs.cells (keyAddress key value i)
    have hsecond := valueSound.changedOnly_destroy
      (key.destroy pairs.cells (keyAddress key value i)) (valueAddress key value i)
    exact (hfirst.mono (le_refl _) (by omega)).trans (hsecond.mono (by omega) (by omega))
  have hstorage : Slots.Sound { pairs with cells := cells } (key.pairSize value)
      (key.pairAlign value) :=
    ⟨live.storage.count_le, live.storage.allocated,
      hchanged.size_eq.symm ▸ live.storage.cells_size⟩
  have hsame : ∀ j < pairs.count - 1, Block.SameCells
      (Slots.removeAt { pairs with cells := cells } i (key.pairSize value)).cells
      (keyAddress key value j) pairs.cells
      (keyAddress key value (if j < i then j else j + 1)) (key.pairSize value) :=
    fun j hj => sameCells_removeAt hi hstorage.cells_size hchanged hj
  refine ⟨⟨hstorage.removeAt hi, fun j hj => ?_⟩, ?_⟩
  · have hlive := live.pairLive (if j < i then j else j + 1) (by
      have hj : j < pairs.count - 1 := hj
      split <;> omega)
    exact (entryAt_congr keySound valueSound (hsame j hj)).2 hlive
  · refine List.ext_getElem ?_ fun j hj hj' => ?_
    · rw [length_entries, List.length_eraseIdx, length_entries, if_pos hi]
      rfl
    · rw [length_entries] at hj
      rw [getElem_entries, List.getElem_eraseIdx,
        (entryAt_congr keySound valueSound (hsame j hj)).1]
      split <;> rw [getElem_entries]

end MapValue

end PropertyReflection
