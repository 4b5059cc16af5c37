import Mathlib
import PropertyReflection.Proofs.StorageCalls

/-!
# Histories of storage

What storage holds after a sequence of calls is a list of items: items are appended, and an item is
erased.  `Ledger` is this list together with the capacity, and says for each call what becomes of
them and whether the call is refused.

The calls are those of `StorageCall`, so a call that is refused might have changed something before
it stopped.  It has not: `StorageContract` says so of every call that can follow.

### Outline

* the items of storage: `Slots.elements_extend_putFrom` and `Slots.elements_removeAt`;
* a step and a run: `Ledger.Describes.step` and `Ledger.Describes.run`;
* what holds after every run: `StorageUse.storageContract_run`.
-/

namespace PropertyReflection

/-! ### Items -/

namespace Slots

variable {α : Type} {slots grown : Slots α} {stride align additional : Nat}

/-- Write the cells of the slots from `first` on. -/
def putFrom (slots : Slots α) (first stride : Nat) (content : Nat → α) : Slots α :=
  { slots with
    cells := (List.range ((slots.count - first) * stride)).foldl
      (fun cells i => cells.setIfInBounds (first * stride + i) (content i)) slots.cells }

/-- Filling slots is writing the same into every cell of them. -/
theorem fillFrom_eq_putFrom (slots : Slots α) (first stride : Nat) (value : α) :
    slots.fillFrom first stride value = slots.putFrom first stride fun _ => value := rfl

/-- Some items with the given cells, one item after the other. -/
def itemsOf (count stride : Nat) (content : Nat → α) : List (Array α) :=
  (List.range count).map fun k => Array.ofFn fun j : Fin stride => content (k * stride + j)

@[simp] theorem length_elements (slots : Slots α) (stride : Nat) :
    (slots.elements stride).length = slots.count := by
  simp [elements]

@[simp] theorem length_itemsOf (count stride : Nat) (content : Nat → α) :
    (itemsOf count stride content).length = count := by
  simp [itemsOf]

theorem getElem_elements {i : Nat} (h : i < (slots.elements stride).length) :
    (slots.elements stride)[i] = slots.element i stride := by
  simp [elements]

/-- Slots with the same cells hold the same item. -/
theorem element_congr {other : Slots α} {i k : Nat}
    (h : ∀ j < stride, slots.cells[i * stride + j]? = other.cells[k * stride + j]?) :
    slots.element i stride = other.element k stride := by
  refine Array.ext_getElem? fun j => ?_
  rw [element, element, Array.getElem?_extract, Array.getElem?_extract]
  by_cases hj : j < stride
  · have hcell := h j hj
    grind
  · grind

/-- The item in a slot is made of the contents of its cells. -/
theorem element_eq_ofFn {i : Nat} (content : Nat → α)
    (h : ∀ j < stride, slots.cells[i * stride + j]? = some (content j)) :
    slots.element i stride = Array.ofFn fun j : Fin stride => content j := by
  refine Array.ext_getElem? fun j => ?_
  rw [element, Array.getElem?_extract, Array.getElem?_ofFn]
  by_cases hj : j < stride
  · have hcell := h j hj
    grind
  · grind

theorem size_element (h : slots.Sound stride align) {i : Nat} (hi : i < slots.count) :
    (slots.element i stride).size = stride := by
  have hlast : (i + 1) * stride ≤ slots.count * stride := Nat.mul_le_mul_right stride hi
  have hcells := h.cells_size
  rw [Nat.succ_mul] at hlast
  rw [element, Array.size_extract, Nat.succ_mul]
  omega

theorem size_foldl_set (content : Nat → α) (first n : Nat) (cells : Array α) :
    ((List.range n).foldl (fun cells i => cells.setIfInBounds (first + i) (content i))
      cells).size = cells.size :=
  List.foldlRecOn (motive := fun (after : Array α) => after.size = cells.size) _ _ rfl
    (by simp +contextual)

/-- Storage stays sound when cells are written. -/
theorem Sound.putFrom (h : slots.Sound stride align) (first : Nat) (content : Nat → α) :
    (slots.putFrom first stride content).Sound stride align :=
  ⟨h.count_le, h.allocated, (size_foldl_set content _ _ slots.cells).symm ▸ h.cells_size⟩

/-- What lies in a cell after a row of cells was written. -/
theorem getElem?_foldl_set (content : Nat → α) (first n : Nat) (cells : Array α) (x : Nat) :
    ((List.range n).foldl (fun cells i => cells.setIfInBounds (first + i) (content i)) cells)[x]? =
      if first ≤ x ∧ x < first + n ∧ x < cells.size then some (content (x - first))
      else cells[x]? := by
  induction n with
  | zero => grind
  | succ n ih =>
    rw [List.range_succ, List.foldl_append, List.foldl_cons, List.foldl_nil,
      Array.getElem?_setIfInBounds, ih, size_foldl_set]
    grind

/-- New slots that were filled hold the new items, and the others what they held. -/
theorem elements_putFrom_extend (h : slots.Sound stride align) {fresh : α}
    (ok : slots.extend fresh additional stride align = .ok grown) (content : Nat → α) :
    (grown.putFrom slots.count stride content).elements stride =
      slots.elements stride ++ itemsOf additional stride content := by
  have hcells := (h.extend ok).cells_size
  obtain ⟨hcount, hold⟩ : grown.count = slots.count + additional ∧
      ∀ x < slots.cells.size, grown.cells[x]? = slots.cells[x]? := by
    cases hreserve : slots.reserve additional stride align with
    | error fault => simp [extend_eq_error_of_reserve fresh hreserve] at ok
    | ok room =>
      rw [extend_eq_of_reserve fresh hreserve] at ok
      obtain rfl := Except.ok.inj ok
      exact ⟨rfl, fun x hx => Array.getElem?_append_left hx⟩
  have hwritten : grown.count - slots.count = additional := by omega
  have hbytes : slots.count * stride + additional * stride ≤ grown.cells.size := by
    rw [← Nat.add_mul, ← hcount]
    exact hcells
  refine List.ext_getElem (by simp [putFrom, hcount]) fun k hk _ => ?_
  rw [length_elements] at hk
  have hk : k < slots.count + additional := hcount ▸ hk
  rw [getElem_elements]
  by_cases hlow : k < slots.count
  · -- a slot that was in use before
    have hlast : (k + 1) * stride ≤ slots.count * stride := Nat.mul_le_mul_right stride hlow
    have hsize := h.cells_size
    rw [Nat.succ_mul] at hlast
    rw [List.getElem_append_left (by simpa using hlow), getElem_elements]
    refine element_congr fun j hj => ?_
    rw [putFrom, getElem?_foldl_set, if_neg (by omega), hold _ (by omega)]
  · -- a new slot
    obtain ⟨n, rfl⟩ := Nat.exists_eq_add_of_le (Nat.le_of_not_lt hlow)
    have hlast : (n + 1) * stride ≤ additional * stride := Nat.mul_le_mul_right stride (by omega)
    rw [Nat.succ_mul] at hlast
    rw [List.getElem_append_right (by simp)]
    simp only [itemsOf, length_elements, Nat.add_sub_cancel_left, List.getElem_map,
      List.getElem_range]
    refine element_eq_ofFn (fun j => content (n * stride + j)) fun j hj => ?_
    rw [putFrom, getElem?_foldl_set, hwritten, Nat.add_mul, if_pos (by omega)]
    congr 2
    omega

/-- Closing a gap erases its item. -/
theorem elements_removeAt (h : slots.Sound stride align) {index : Nat} (hi : index < slots.count) :
    (slots.removeAt index stride).elements stride = (slots.elements stride).eraseIdx index := by
  refine List.ext_getElem (by simp [List.length_eraseIdx, hi]) fun k hk _ => ?_
  rw [length_elements, count_removeAt] at hk
  rw [getElem_elements, List.getElem_eraseIdx]
  have hlast : (k + 1 + 1) * stride ≤ slots.count * stride := Nat.mul_le_mul_right stride (by omega)
  rw [Nat.succ_mul, Nat.succ_mul] at hlast
  split
  · next hlow =>
    have hnext : (k + 1) * stride ≤ index * stride := Nat.mul_le_mul_right stride hlow
    rw [Nat.succ_mul] at hnext
    rw [getElem_elements]
    refine element_congr fun j hj => getElem?_removeAt_before (by omega) ?_
    exact (Nat.mul_le_mul_right stride hi.le).trans h.cells_size
  · next hhigh =>
    have hstart : index * stride ≤ k * stride := Nat.mul_le_mul_right stride (by omega)
    rw [getElem_elements]
    refine element_congr fun j hj => ?_
    rw [getElem?_removeAt_behind (by omega) hi (by omega) h.cells_size, Nat.succ_mul]
    congr 1
    omega

end Slots

/-! ### The reference -/

/-- A use of storage: a call, and after new slots were taken into use the writing of their cells. -/
inductive StorageUse (α : Type) where
  | reserve (additional : Nat)
  | add (additional : Nat) (content : Nat → α)
  | remove (index : Nat)
  | free

/-- The items that storage holds, and the number of items for which it has room. -/
structure Ledger (α : Type) where
  items : List (Array α)
  capacity : Nat

namespace Ledger

variable {α : Type}

/-- No items, and no room. -/
def empty : Ledger α := ⟨[], 0⟩

/-- The room that is asked for so that more items fit. -/
def wanted (ledger : Ledger α) (additional : Nat) : Nat :=
  max (max (ledger.items.length + additional) (2 * ledger.capacity)) 4

/-- There cannot be room for more items. -/
def Refuses (ledger : Ledger α) (additional stride align : Nat) : Prop :=
  wordLimit ≤ ledger.items.length + additional ∨
    ledger.capacity < ledger.items.length + additional ∧
      NoLayout (ledger.wanted additional) stride align

instance (ledger : Ledger α) (additional stride align : Nat) :
    Decidable (ledger.Refuses additional stride align) :=
  inferInstanceAs (Decidable (_ ∨ _ ∧ _))

/-- The ledger after room was made. -/
def withRoom (ledger : Ledger α) (additional : Nat) : Ledger α :=
  if ledger.items.length + additional ≤ ledger.capacity then ledger
  else { ledger with capacity := ledger.wanted additional }

end Ledger

namespace StorageUse

variable {α : Type}

/-- Use storage in place. -/
def call (fresh : α) (stride align : Nat) : StorageUse α → StorageCall α Unit
  | reserve additional => StorageCall.reserve additional stride align
  | add additional content => do
    let first ← StorageCall.add fresh additional stride align
    modify fun slots => slots.putFrom first stride content
  | remove index => StorageCall.remove index stride
  | free => StorageCall.free stride align

/-- Only an item that is there is taken out. -/
def InRange (ledger : Ledger α) : StorageUse α → Prop
  | remove index => index < ledger.items.length
  | _ => True

/-- The uses that stop. -/
def Refused (stride align : Nat) (ledger : Ledger α) : StorageUse α → Prop
  | reserve additional | add additional _ => ledger.Refuses additional stride align
  | _ => False

/-- What becomes of the items and the room for them. -/
def record (stride align : Nat) (ledger : Ledger α) : StorageUse α → Ledger α
  | reserve additional =>
    if ledger.Refuses additional stride align then ledger else ledger.withRoom additional
  | add additional content =>
    if ledger.Refuses additional stride align then ledger
    else { ledger.withRoom additional with
      items := ledger.items ++ Slots.itemsOf additional stride content }
  | remove index => { ledger with items := ledger.items.eraseIdx index }
  | free => .empty

/-- Use new storage time after time, also after a call has stopped. -/
def run (fresh : α) (stride align : Nat) (uses : List (StorageUse α)) : Slots α :=
  uses.foldl (fun slots use => ((use.call fresh stride align).outcome slots).2) .empty

/-- What becomes of a ledger in the course of some uses. -/
def recordAll (stride align : Nat) (uses : List (StorageUse α)) : Ledger α :=
  uses.foldl (record stride align) .empty

/-- Items are only taken out where there are items, all the time. -/
def AllInRange (stride align : Nat) : Ledger α → List (StorageUse α) → Prop
  | _, [] => True
  | ledger, use :: uses =>
    use.InRange ledger ∧ AllInRange stride align (use.record stride align ledger) uses

instance (ledger : Ledger α) : (use : StorageUse α) → Decidable (use.InRange ledger)
  | reserve _ | add _ _ | free => inferInstanceAs (Decidable True)
  | remove index => inferInstanceAs (Decidable (index < ledger.items.length))

instance decidableAllInRange (stride align : Nat) : (ledger : Ledger α) →
    (uses : List (StorageUse α)) → Decidable (AllInRange stride align ledger uses)
  | _, [] => inferInstanceAs (Decidable True)
  | ledger, use :: uses =>
    have := decidableAllInRange stride align (use.record stride align ledger) uses
    inferInstanceAs (Decidable (_ ∧ _))

end StorageUse

/-! ### A step and a run -/

namespace Ledger

variable {α : Type} {ledger : Ledger α} {slots : Slots α} {stride align : Nat}

/-- Sound storage that holds the items and has the capacity of a ledger. -/
structure Describes (ledger : Ledger α) (stride align : Nat) (slots : Slots α) : Prop where
  sound : slots.Sound stride align
  items : slots.elements stride = ledger.items
  capacity : slots.capacity = ledger.capacity

theorem describes_empty (stride align : Nat) :
    (empty : Ledger α).Describes stride align (.empty : Slots α) :=
  ⟨Slots.sound_empty stride align, rfl, rfl⟩

theorem Describes.count_eq (h : ledger.Describes stride align slots) :
    slots.count = ledger.items.length := by
  rw [← h.items, Slots.length_elements]

@[simp] theorem items_withRoom (ledger : Ledger α) (additional : Nat) :
    (ledger.withRoom additional).items = ledger.items := by
  rw [withRoom]
  split <;> rfl

/-- Room is made exactly if the ledger does not refuse it. -/
theorem Describes.reserve (h : ledger.Describes stride align slots) (additional : Nat) :
    (ledger.Refuses additional stride align ∧
      ∃ fault, slots.reserve additional stride align = .error fault) ∨
    (¬ ledger.Refuses additional stride align ∧
      ∃ grown, slots.reserve additional stride align = .ok grown ∧
        (ledger.withRoom additional).Describes stride align grown) := by
  have hwanted : slots.grownCapacity (ledger.items.length + additional) =
      ledger.wanted additional := by
    rw [Slots.grownCapacity, wanted, h.capacity, Nat.mul_comm]
  by_cases hword : wordLimit ≤ ledger.items.length + additional
  · refine Or.inl ⟨Or.inl hword, .capacityOverflow, ?_⟩
    simp only [Slots.reserve, h.count_eq, hword, if_true]
  by_cases hroom : ledger.items.length + additional ≤ ledger.capacity
  · refine Or.inr ⟨fun hrefuses => hrefuses.elim hword fun hgrow => by omega, slots, ?_, ?_⟩
    · simp only [Slots.reserve, h.count_eq, h.capacity, hword, hroom, if_false, if_true]
    · rwa [withRoom, if_pos hroom]
  cases hfault : Slots.layoutFault? (ledger.wanted additional) stride align with
  | some fault =>
    have hlayout : NoLayout (ledger.wanted additional) stride align := by
      by_contra hlayout
      rw [Slots.layoutFault?_eq_none_iff.mpr hlayout] at hfault
      exact absurd hfault (by simp)
    refine Or.inl ⟨Or.inr ⟨by omega, hlayout⟩, fault, ?_⟩
    simp only [Slots.reserve, h.count_eq, h.capacity, hword, hroom, if_false, hwanted, hfault]
  | none =>
    have hlayout := Slots.layoutFault?_eq_none_iff.mp hfault
    have hreserve : slots.reserve additional stride align =
        .ok { slots with capacity := ledger.wanted additional } := by
      simp only [Slots.reserve, h.count_eq, h.capacity, hword, hroom, if_false, hwanted, hfault]
    refine Or.inr ⟨fun hrefuses => hrefuses.elim hword fun hgrow => hlayout hgrow.2, _, hreserve,
      (h.sound.reserve hreserve).1, ?_, ?_⟩
    · rw [items_withRoom, ← h.items]
      rfl
    · rw [withRoom, if_neg hroom]

/-- A use either stops, which leaves the storage as it was, or does what the ledger says. -/
theorem Describes.call (h : ledger.Describes stride align slots) (pos : 0 < stride) (fresh : α)
    (use : StorageUse α) (inRange : use.InRange ledger) :
    (use.Refused stride align ledger ∧
      ∃ fault, (use.call fresh stride align).outcome slots = (.error (.fault fault), slots)) ∨
    (¬ use.Refused stride align ledger ∧
      ∃ after, (use.call fresh stride align).outcome slots = (.ok (), after) ∧
        (use.record stride align ledger).Describes stride align after) := by
  cases use with
  | reserve additional =>
    rw [StorageUse.call, StorageCall.outcome_reserve h.sound pos, StorageUse.record]
    rcases h.reserve additional with ⟨hrefused, fault, herror⟩ | ⟨hrefused, grown, hok, hgrown⟩
    · exact Or.inl ⟨hrefused, fault, by rw [herror]⟩
    · rw [if_neg hrefused]
      exact Or.inr ⟨hrefused, grown, by rw [hok], hgrown⟩
  | add additional content =>
    rw [StorageUse.call, StorageCall.outcome_bind, StorageCall.outcome_add h.sound pos,
      StorageUse.record]
    rcases h.reserve additional with ⟨hrefused, fault, herror⟩ | ⟨hrefused, grown, hok, hgrown⟩
    · rw [Slots.extend_eq_error_of_reserve fresh herror]
      exact Or.inl ⟨hrefused, fault, rfl⟩
    · have hextend := Slots.extend_eq_of_reserve fresh hok
      have hitems := Slots.elements_putFrom_extend h.sound hextend content
      have hsound := (h.sound.extend hextend).putFrom slots.count content
      rw [hextend, if_neg hrefused]
      exact Or.inr ⟨hrefused, _, rfl, hsound, by rw [hitems, h.items], hgrown.capacity⟩
  | remove index =>
    have hi : index < slots.count := h.count_eq ▸ inRange
    refine Or.inr ⟨id, _, StorageCall.outcome_remove h.sound hi, h.sound.removeAt hi, ?_,
      h.capacity⟩
    rw [Slots.elements_removeAt h.sound hi, h.items]
    rfl
  | free =>
    exact Or.inr ⟨id, _, StorageCall.outcome_free h.sound, describes_empty stride align⟩

/-- After a step, whether it stopped or not, the storage is as the ledger says. -/
theorem Describes.step (h : ledger.Describes stride align slots) (pos : 0 < stride) (fresh : α)
    (use : StorageUse α) (inRange : use.InRange ledger) :
    (use.record stride align ledger).Describes stride align
      ((use.call fresh stride align).outcome slots).2 := by
  rcases h.call pos fresh use inRange with ⟨hrefused, fault, hstops⟩ | ⟨-, after, hdone, hafter⟩
  · have hrecord : use.record stride align ledger = ledger := by
      cases use with
      | reserve _ | add _ _ => exact if_pos hrefused
      | remove _ | free => exact hrefused.elim
    rw [hstops, hrecord]
    exact h
  · rw [hdone]
    exact hafter

/-- After a run the storage is as the ledger says. -/
theorem Describes.run (h : ledger.Describes stride align slots) (pos : 0 < stride) (fresh : α)
    {uses : List (StorageUse α)} (inRange : StorageUse.AllInRange stride align ledger uses) :
    (uses.foldl (StorageUse.record stride align) ledger).Describes stride align
      (uses.foldl (fun slots use => ((use.call fresh stride align).outcome slots).2) slots) := by
  induction uses generalizing ledger slots with
  | nil => exact h
  | cons use uses ih => exact ih (h.step pos fresh use inRange.1) inRange.2

/-- Room is never taken away, and if there is more of it, then at least twice as much. -/
theorem capacity_withRoom (ledger : Ledger α) (additional : Nat) :
    (ledger.withRoom additional).capacity = ledger.capacity ∨
      ledger.capacity < (ledger.withRoom additional).capacity ∧
        2 * ledger.capacity ≤ (ledger.withRoom additional).capacity := by
  rw [withRoom]
  split
  · exact Or.inl rfl
  · refine Or.inr ?_
    simp only [wanted]
    omega

/-- What a use makes of the room: nothing is taken away unless all of it is given back, and if there
is more of it, then at least twice as much. -/
theorem capacity_record (ledger : Ledger α) (stride align : Nat) (use : StorageUse α) :
    use = .free ∧ (use.record stride align ledger).capacity = 0 ∨
      (use.record stride align ledger).capacity = ledger.capacity ∨
      ledger.capacity < (use.record stride align ledger).capacity ∧
        2 * ledger.capacity ≤ (use.record stride align ledger).capacity := by
  cases use with
  | reserve additional | add additional content =>
    rw [StorageUse.record]
    split
    · exact Or.inr (Or.inl rfl)
    · exact Or.inr (ledger.capacity_withRoom additional)
  | remove index => exact Or.inr (Or.inl rfl)
  | free => exact Or.inl ⟨rfl, rfl⟩

end Ledger

/-! ### The contract of storage -/

/-- What holds of storage whose items and capacity are known, and of the next use of it. -/
structure StorageContract {α : Type} (fresh : α) (stride align : Nat) (ledger : Ledger α)
    (slots : Slots α) : Prop where
  items : slots.elements stride = ledger.items
  capacity : slots.capacity = ledger.capacity
  /-- Items are compared with all their bytes. -/
  item_size : ∀ item ∈ slots.elements stride, item.size = stride
  count_le : slots.count ≤ slots.capacity
  zero_or_four_le : slots.capacity = 0 ∨ 4 ≤ slots.capacity
  bytes_le : alignUp (slots.capacity * stride) align ≤ maxAllocation
  doubled_lt : slots.capacity * 2 < wordLimit
  /-- A use stops exactly if it is refused. -/
  stops_iff : ∀ use : StorageUse α, use.InRange ledger →
    ((∃ stop, ((use.call fresh stride align).outcome slots).1 = .error stop) ↔
      use.Refused stride align ledger)
  /-- No use gets to a number that is not tested and is too large. -/
  stops_with_fault : ∀ use : StorageUse α, use.InRange ledger → ∀ stop,
    ((use.call fresh stride align).outcome slots).1 = .error stop → ∃ fault, stop = .fault fault
  stops_unchanged : ∀ use : StorageUse α, use.InRange ledger → ∀ stop,
    ((use.call fresh stride align).outcome slots).1 = .error stop →
      ((use.call fresh stride align).outcome slots).2 = slots
  never_shrinks : ∀ use : StorageUse α, use.InRange ledger → use ≠ .free →
    slots.capacity ≤ ((use.call fresh stride align).outcome slots).2.capacity
  doubles : ∀ use : StorageUse α, use.InRange ledger →
    slots.capacity < ((use.call fresh stride align).outcome slots).2.capacity →
      2 * slots.capacity ≤ ((use.call fresh stride align).outcome slots).2.capacity
  free : ((StorageUse.free.call fresh stride align).outcome slots).2 = .empty

theorem Ledger.Describes.storageContract {α : Type} {ledger : Ledger α} {slots : Slots α}
    {stride align : Nat} (h : ledger.Describes stride align slots) (pos : 0 < stride) (fresh : α) :
    StorageContract fresh stride align ledger slots where
  items := h.items
  capacity := h.capacity
  item_size item hitem := by
    obtain ⟨i, hi, rfl⟩ := List.getElem_of_mem hitem
    rw [Slots.getElem_elements]
    exact Slots.size_element h.sound (by simpa using hi)
  count_le := h.sound.count_le
  zero_or_four_le := h.sound.allocated.imp_right And.left
  bytes_le := h.sound.bytes_le
  doubled_lt := h.sound.doubled_lt pos
  stops_iff use inRange := by
    rcases h.call pos fresh use inRange with ⟨hrefused, fault, hstops⟩ | ⟨hrefused, after, hdone, -⟩
    · exact ⟨fun _ => hrefused, fun _ => ⟨_, congrArg Prod.fst hstops⟩⟩
    · refine ⟨fun ⟨stop, hstop⟩ => ?_, fun h => absurd h hrefused⟩
      rw [hdone] at hstop
      exact absurd hstop (by simp)
  stops_with_fault use inRange stop hstop := by
    rcases h.call pos fresh use inRange with ⟨-, fault, hstops⟩ | ⟨-, after, hdone, -⟩
    · rw [hstops] at hstop
      exact ⟨fault, (Except.error.inj hstop).symm⟩
    · rw [hdone] at hstop
      exact absurd hstop (by simp)
  stops_unchanged use inRange stop hstop := by
    rcases h.call pos fresh use inRange with ⟨-, fault, hstops⟩ | ⟨-, after, hdone, -⟩
    · rw [hstops]
    · rw [hdone] at hstop
      exact absurd hstop (by simp)
  never_shrinks use inRange hfree := by
    rw [(h.step pos fresh use inRange).capacity, h.capacity]
    have hroom := (ledger.capacity_record stride align use).resolve_left fun h => hfree h.1
    omega
  doubles use inRange := by
    rw [(h.step pos fresh use inRange).capacity, h.capacity]
    have hroom := ledger.capacity_record stride align use
    omega
  free := by
    rw [StorageUse.call, StorageCall.outcome_free h.sound]
    rfl

namespace StorageUse

variable {α : Type}

/-- After any uses of new storage the contract holds. -/
theorem storageContract_run {stride : Nat} (pos : 1 ≤ stride) (align : Nat) (fresh : α)
    (uses : List (StorageUse α)) (inRange : AllInRange stride align .empty uses) :
    StorageContract fresh stride align (recordAll stride align uses)
      (run fresh stride align uses) :=
  ((Ledger.describes_empty stride align).run pos fresh inRange).storageContract pos fresh

/-- Three items of two bytes are added and two are taken out again.  In between, room is asked for
that cannot be counted, and room for which there is no layout. -/
def someUses : List (StorageUse UInt8) :=
  [.add 3 Nat.toUInt8, .remove 1, .add (2 ^ 64 - 1) fun _ => 7, .reserve (2 ^ 62), .remove 0]

theorem storageContract_run_someUses :
    1 ≤ 2 ∧ AllInRange 2 1 .empty someUses ∧
      StorageContract 0 2 1 (recordAll 2 1 someUses) (run 0 2 1 someUses) ∧
      (run 0 2 1 someUses).elements 2 = [#[4, 5]] ∧ (run 0 2 1 someUses).capacity = 4 := by
  have inRange : AllInRange 2 1 .empty someUses := by decide +kernel
  have contract := storageContract_run (by decide) 1 0 someUses inRange
  refine ⟨by decide, inRange, contract, ?_, ?_⟩
  · rw [contract.items]
    decide +kernel
  · rw [contract.capacity]
    decide +kernel

end StorageUse

end PropertyReflection
