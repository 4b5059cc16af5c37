import Mathlib
import PropertyReflection.Proofs.GuardedCopies
import PropertyReflection.Proofs.MapDictionary

/-!
# The memory contract in containers

The elements of a live array and the keys and values of a live map lie in the storage, aligned and
apart from each other, and the operations on the container pass on no address that breaks the
contract.  A container is also live after each operation, so all this goes on to hold however often
elements are added and removed.

The slot that an element is appended to is the one place that the container did not have before.
That it was allocated is what `Slots.Sound.extend_one` says.

### Outline

* arrays: `ArrayValue.Live.push`, `ArrayValue.Live.remove?`, and `ArrayValue.Live.keepsContract`;
* maps: `MapValue.Live.add`, `MapValue.Live.remove?`, and `MapValue.Live.keepsContract`.
-/

namespace PropertyReflection

/-- A slot that was just taken into use is allocated and has its cells, and the cells before it are
those that were there. -/
theorem Slots.Sound.extend_one {slots grown : Slots Cell} {stride align : Nat}
    (h : slots.Sound stride align) (ok : slots.extend default 1 stride align = .ok grown) :
    grown.Sound stride align ∧ grown.count = slots.count + 1 ∧
      ∃ added : Block, grown.cells = slots.cells ++ added := by
  refine ⟨h.extend ok, ?_⟩
  cases hroom : slots.reserve 1 stride align with
  | error fault =>
    rw [extend_eq_error_of_reserve default hroom] at ok
    exact absurd ok (by simp)
  | ok room =>
    rw [extend_eq_of_reserve default hroom] at ok
    obtain rfl := Except.ok.inj ok
    exact ⟨rfl, _, rfl⟩

/-- All slots in use have their cells. -/
theorem Slots.Sound.slot_le {slots : Slots Cell} {stride align : Nat}
    (h : slots.Sound stride align) {i : Nat} (hi : i < slots.count) :
    Elements.address 0 stride i + stride ≤ slots.cells.size := by
  have hinside := Elements.address_add_le hi 0 stride
  rw [Nat.zero_add, Nat.mul_comm] at hinside
  exact hinside.trans h.cells_size

/-! ### Arrays -/

namespace ArrayValue

variable {buffers : Buffers} {element : Kind} {storage after : Slots Cell}

theorem elementAddress?_eq_some_iff {i x : Nat} :
    elementAddress? element storage i = some x ↔
      i < storage.count ∧ Elements.address 0 element.size i = x := by
  simp [elementAddress?]

/-- After a default value was appended, the slots before it have the cells they had, and the new one
has what construction has made there. -/
theorem push_cells (h : storage.Sound element.size element.align) (sound : element.Sound)
    (ok : push element storage = .ok after) :
    after.Sound element.size element.align ∧ after.count = storage.count + 1 ∧
      (∀ i < storage.count, Block.SameCells after.cells (Elements.address 0 element.size i)
        storage.cells (Elements.address 0 element.size i) element.size) ∧
      ∃ cells : Block,
        Elements.address 0 element.size storage.count + element.size ≤ cells.size ∧
          after.cells =
            element.construct cells (Elements.address 0 element.size storage.count) := by
  rw [push] at ok
  cases hextend : storage.extend default 1 element.size element.align with
  | error fault =>
    rw [hextend] at ok
    exact absurd ok (by simp [Bind.bind, Except.bind])
  | ok grown =>
    rw [hextend, ok_bind] at ok
    obtain rfl := Except.ok.inj ok
    obtain ⟨hsound, hcount, added, hcells⟩ := h.extend_one hextend
    have hchanged := sound.changedOnly_construct grown.cells
      (Elements.address 0 element.size storage.count)
    refine ⟨⟨hsound.count_le, hsound.allocated, hchanged.size_eq.symm ▸ hsound.cells_size⟩, hcount,
      fun i hi j hj => ?_, grown.cells,
      hsound.slot_le (hcount ▸ Nat.lt_succ_self storage.count), rfl⟩
    have hslot := h.slot_le hi
    rw [hchanged.sameCells (Elements.address_apart (by omega) 0 element.size) j hj, hcells]
    exact Block.cell_append_left (by omega)

/-- After an element was removed, the slots before it have the cells they had, and the others those
of the slots behind them. -/
theorem remove?_cells (h : storage.Sound element.size element.align) (sound : element.Sound)
    {i : Nat} (ok : remove? element storage i = some after) :
    i < storage.count ∧ after.Sound element.size element.align ∧
      after.count = storage.count - 1 ∧
      ∀ j < storage.count - 1, Block.SameCells after.cells (Elements.address 0 element.size j)
        storage.cells (Elements.address 0 element.size (if j < i then j else j + 1))
        element.size := by
  rw [remove?, Option.map_eq_some_iff] at ok
  obtain ⟨x, hx, rfl⟩ := ok
  obtain ⟨hi, rfl⟩ := elementAddress?_eq_some_iff.mp hx
  have hchanged := sound.changedOnly_destroy storage.cells (Elements.address 0 element.size i)
  have hstorage : Slots.Sound { storage with
      cells := element.destroy storage.cells (Elements.address 0 element.size i) }
      element.size element.align :=
    ⟨h.count_le, h.allocated, hchanged.size_eq.symm ▸ h.cells_size⟩
  exact ⟨hi, hstorage.removeAt hi, rfl, fun j hj =>
    Slots.sameCells_removeAt hi hstorage.cells_size hchanged hj⟩

/-- An array with a default value appended is live. -/
theorem Live.push (live : Live element storage) (sound : element.Sound)
    (ok : ArrayValue.push element storage = .ok after) : Live element after := by
  obtain ⟨hsound, hcount, hsame, cells, hfits, hcells⟩ := push_cells live.storage sound ok
  refine ⟨hsound, fun i hi => ?_⟩
  rcases Nat.lt_succ_iff_lt_or_eq.mp (hcount ▸ hi) with hi | rfl
  · exact sound.live_congr_cells (hsame i hi) (live.elementLive i hi)
  · rw [hcells]
    exact sound.live_construct hfits

/-- An array from which an element was removed is live. -/
theorem Live.remove? (live : Live element storage) (sound : element.Sound) {i : Nat}
    (ok : ArrayValue.remove? element storage i = some after) : Live element after := by
  obtain ⟨hi, hsound, hcount, hsame⟩ := remove?_cells live.storage sound ok
  refine ⟨hsound, fun j hj => ?_⟩
  rw [hcount] at hj
  refine sound.live_congr_cells (hsame j hj) (live.elementLive _ ?_)
  split <;> omega

/-- What the contract means for an array: where its elements are, and that the operations on it keep
the contract and leave it live. -/
structure KeepsContract (buffers : Buffers) (owner : Nat) (element : Kind) (storage : Slots Cell) :
    Prop where
  element_admits : ∀ i x, elementAddress? element storage i = some x →
    (Region.ofArray buffers owner element storage).Admits element 1 x
  elements_apart : ∀ i j x y, i ≠ j → elementAddress? element storage i = some x →
    elementAddress? element storage j = some y → x + element.size ≤ y ∨ y + element.size ≤ x
  push : guardedPush buffers owner element storage =
    (ArrayValue.push element storage).mapError .storage
  push_live : ∀ after, ArrayValue.push element storage = .ok after → Live element after
  remove? : ∀ i, guardedRemove? buffers owner element storage i =
    .ok (ArrayValue.remove? element storage i)
  remove?_live : ∀ i after, ArrayValue.remove? element storage i = some after → Live element after
  clear : guardedClear buffers owner element storage = .ok (ArrayValue.clear storage)

theorem guardedPush_eq (aligned : buffers.Aligned) (sound : element.Sound) (owner : Nat)
    (live : Live element storage) :
    guardedPush buffers owner element storage = (push element storage).mapError .storage := by
  rw [guardedPush, ArrayValue.push]
  cases hextend : storage.extend default 1 element.size element.align with
  | error fault => rfl
  | ok grown =>
    obtain ⟨hsound, hcount, -⟩ := live.storage.extend_one hextend
    have hindex : storage.count < grown.capacity := by
      have hcapacity := hsound.count_le
      omega
    rw [Except.mapError, ok_bind, ok_bind,
      sound.constructs _ _ _ (Region.ofArray_admits aligned sound hindex)]
    rfl

theorem guardedRemove?_eq (aligned : buffers.Aligned) (sound : element.Sound) (owner : Nat)
    (live : Live element storage) (i : Nat) :
    guardedRemove? buffers owner element storage i = .ok (remove? element storage i) := by
  rw [guardedRemove?, ArrayValue.remove?]
  cases hx : elementAddress? element storage i with
  | none => rfl
  | some x =>
    obtain ⟨hi, rfl⟩ := elementAddress?_eq_some_iff.mp hx
    dsimp only
    rw [sound.destroys aligned _ _ _
      (Region.ofArray_admits aligned sound (hi.trans_le live.storage.count_le))
      (live.elementLive i hi)]
    rfl

/-- Every live array keeps the contract. -/
theorem Live.keepsContract (live : Live element storage) (aligned : buffers.Aligned)
    (sound : element.Sound) (owner : Nat) : KeepsContract buffers owner element storage where
  element_admits i x hx := by
    obtain ⟨hi, rfl⟩ := elementAddress?_eq_some_iff.mp hx
    exact Region.ofArray_admits aligned sound (hi.trans_le live.storage.count_le)
  elements_apart i j x y hne hx hy := by
    obtain ⟨-, rfl⟩ := elementAddress?_eq_some_iff.mp hx
    obtain ⟨-, rfl⟩ := elementAddress?_eq_some_iff.mp hy
    exact Elements.address_apart hne 0 element.size
  push := guardedPush_eq aligned sound owner live
  push_live _ ok := live.push sound ok
  remove? := guardedRemove?_eq aligned sound owner live
  remove?_live _ _ ok := live.remove? sound ok
  clear := guardedClear_eq aligned sound (sound.destroys aligned) owner live

end ArrayValue

/-! ### Maps -/

namespace MapValue

variable {buffers : Buffers} {key value : Kind} {pairs : Slots Cell}

/-- What the contract means for a map: where its keys and values are, and that the operations on it
keep the contract and leave it live. -/
structure KeepsContract (buffers : Buffers) (owner : Nat) (key value : Kind) (pairs : Slots Cell) :
    Prop where
  key_admits : ∀ i x, keyAddress? key value pairs i = some x →
    (Region.ofMap buffers owner key value pairs).Admits key 1 x
  value_admits : ∀ i x, valueAddress? key value pairs i = some x →
    (Region.ofMap buffers owner key value pairs).Admits value 1 x
  found_admits : ∀ m a x, findValue? key value pairs m a = some x →
    (Region.ofMap buffers owner key value pairs).Admits value 1 x
  keys_apart : ∀ i j x y, i ≠ j → keyAddress? key value pairs i = some x →
    keyAddress? key value pairs j = some y → x + key.size ≤ y ∨ y + key.size ≤ x
  values_apart : ∀ i j x y, i ≠ j → valueAddress? key value pairs i = some x →
    valueAddress? key value pairs j = some y → x + value.size ≤ y ∨ y + value.size ≤ x
  /-- A key takes other bytes than a value, of its own pair or of another one. -/
  key_value_apart : ∀ i j x y, keyAddress? key value pairs i = some x →
    valueAddress? key value pairs j = some y → x + key.size ≤ y ∨ y + value.size ≤ x
  find? : ∀ (other : Region) (m : Block) (a : Nat), other.Admits key 1 a → key.Live m a →
    guardedFind? buffers owner key value pairs other m a = .ok (findPair? key value pairs m a)
  add : ∀ (forKey : Region) (m : Block) (a : Nat) (forValue : Region) (n : Block) (b : Nat),
    forKey.Admits key 1 a → key.Live m a → forValue.Admits value 1 b → value.Live n b →
    guardedAdd buffers owner key value pairs forKey m a forValue n b =
      (MapValue.add key value pairs m a n b).mapError .storage
  add_live : ∀ (m : Block) (a : Nat) (n : Block) (b : Nat) (after : Slots Cell),
    key.Live m a → value.Live n b → MapValue.add key value pairs m a n b = .ok after →
    Live key value after
  remove? : ∀ (other : Region) (m : Block) (a : Nat), other.Admits key 1 a → key.Live m a →
    guardedRemove? buffers owner key value pairs other m a =
      .ok (MapValue.remove? key value pairs m a)
  remove?_live : ∀ (m : Block) (a : Nat) (after : Slots Cell),
    MapValue.remove? key value pairs m a = some after → Live key value after
  clear : guardedClear buffers owner key value pairs = .ok (MapValue.clear pairs)

theorem keyAddress?_eq_some_iff {i x : Nat} :
    keyAddress? key value pairs i = some x ↔ i < pairs.count ∧ keyAddress key value i = x := by
  simp [keyAddress?]

theorem valueAddress?_eq_some_iff {i x : Nat} :
    valueAddress? key value pairs i = some x ↔ i < pairs.count ∧ valueAddress key value i = x := by
  simp [valueAddress?]

/-- What a search finds is the value of a pair. -/
theorem of_findValue?_eq_some {m : Block} {a x : Nat}
    (h : findValue? key value pairs m a = some x) :
    ∃ i < pairs.count, valueAddress key value i = x := by
  rw [findValue?, Option.map_eq_some_iff] at h
  obtain ⟨i, hfound, hx⟩ := h
  exact ⟨i, (of_findPair?_eq_some hfound).1, hx⟩

/-- All cells of a key are there. -/
theorem Live.key_le (live : Live key value pairs) (valueSound : value.Sound) {i : Nat}
    (hi : i < pairs.count) : keyAddress key value i + key.size ≤ pairs.cells.size :=
  (Nat.add_le_add_left (Kind.size_le_pairSize valueSound) _).trans (live.pair_le hi)

/-- All cells of a value are there. -/
theorem Live.value_le (live : Live key value pairs) (valueSound : value.Sound) {i : Nat}
    (hi : i < pairs.count) : valueAddress key value i + value.size ≤ pairs.cells.size := by
  have hpair := live.pair_le hi
  have hpairEnd : key.pairValueOffset value + value.size ≤ key.pairSize value :=
    Kind.pairValueOffset_add_size_le valueSound
  rw [valueAddress]
  omega

/-- The keys and the values of a map take separate bytes. -/
theorem key_value_apart (valueSound : value.Sound) (i j : Nat) :
    keyAddress key value i + key.size ≤ valueAddress key value j ∨
      valueAddress key value j + value.size ≤ keyAddress key value i := by
  have hkeyEnd : key.size ≤ key.pairValueOffset value := Kind.size_le_pairValueOffset valueSound
  have hpairEnd : key.pairValueOffset value + value.size ≤ key.pairSize value :=
    Kind.pairValueOffset_add_size_le valueSound
  have hvalue : valueAddress key value j = keyAddress key value j + key.pairValueOffset value := rfl
  by_cases hij : i = j
  · subst hij
    exact Or.inl (by omega)
  · have hpairs : keyAddress key value i + key.pairSize value ≤ keyAddress key value j ∨
        keyAddress key value j + key.pairSize value ≤ keyAddress key value i :=
      Elements.address_apart hij 0 (key.pairSize value)
    omega

/-- What lies at one place in each pair lies apart. -/
theorem keyAddress_apart {i j : Nat} (hij : i ≠ j) {offset size : Nat}
    (h : offset + size ≤ key.pairSize value) :
    keyAddress key value i + offset + size ≤ keyAddress key value j + offset ∨
      keyAddress key value j + offset + size ≤ keyAddress key value i + offset := by
  have hpairs : keyAddress key value i + key.pairSize value ≤ keyAddress key value j ∨
      keyAddress key value j + key.pairSize value ≤ keyAddress key value i :=
    Elements.address_apart hij 0 (key.pairSize value)
  omega

theorem guardedAdd_eq (aligned : buffers.Aligned) (keySound : key.Sound)
    (valueSound : value.Sound) (owner : Nat) (live : Live key value pairs)
    {forKey forValue : Region} {m n : Block} {a b : Nat} (admitsKey : forKey.Admits key 1 a)
    (keyLive : key.Live m a) (admitsValue : forValue.Admits value 1 b)
    (valueLive : value.Live n b) :
    guardedAdd buffers owner key value pairs forKey m a forValue n b =
      (add key value pairs m a n b).mapError .storage := by
  rw [guardedAdd, guardedFind?_eq aligned keySound valueSound (keySound.compares aligned) owner live
    admitsKey keyLive, ok_bind, add, findValue?]
  cases hfound : findPair? key value pairs m a with
  | some i =>
    -- the value is replaced
    obtain ⟨hi, -⟩ := of_findPair?_eq_some hfound
    have hadmits : (Region.ofMap buffers owner key value pairs).Admits value 1
        (valueAddress key value i) :=
      Region.ofMap_admits_value aligned keySound valueSound (hi.trans_le live.storage.count_le)
    dsimp only [Option.map_some]
    rw [valueSound.copies aligned _ _ _ _ _ _ hadmits admitsValue (live.value_le valueSound hi)
      (live.pairLive i hi).2 valueLive]
    cases value.copy pairs.cells (valueAddress key value i) n b <;> rfl
  | none =>
    -- a pair is appended
    dsimp only [Option.map_none]
    cases hextend : pairs.extend default 1 (key.pairSize value) (key.pairAlign value) with
    | error fault => rfl
    | ok taken =>
      obtain ⟨hsound, hcount, -⟩ := live.storage.extend_one hextend
      have hindex : pairs.count < taken.count := hcount ▸ Nat.lt_succ_self pairs.count
      obtain ⟨cells, hplain, hguarded, -⟩ := guardedConstructPair_ok aligned keySound valueSound
        (keySound.copies aligned) (valueSound.copies aligned) owner taken
        (hindex.trans_le hsound.count_le) (hsound.slot_le hindex) admitsKey keyLive admitsValue
        valueLive
      rw [Except.mapError, ok_bind, ok_bind, hguarded, hplain]
      rfl

theorem guardedRemove?_eq (aligned : buffers.Aligned) (keySound : key.Sound)
    (valueSound : value.Sound) (owner : Nat) (live : Live key value pairs) {other : Region}
    {m : Block} {a : Nat} (admits : other.Admits key 1 a) (keyLive : key.Live m a) :
    guardedRemove? buffers owner key value pairs other m a = .ok (remove? key value pairs m a) := by
  rw [guardedRemove?, guardedFind?_eq aligned keySound valueSound (keySound.compares aligned) owner
    live admits keyLive, ok_bind, MapValue.remove?]
  cases hfound : findPair? key value pairs m a with
  | none => rfl
  | some i =>
    obtain ⟨hi, -⟩ := of_findPair?_eq_some hfound
    obtain ⟨hguarded, -⟩ := guarded_destroyPair aligned keySound valueSound
      (keySound.destroys aligned) (valueSound.destroys aligned) owner
      (hi.trans_le live.storage.count_le) (live.pairLive i hi)
    dsimp only
    rw [← bind_assoc, hguarded]
    rfl

/-- A map to which a pair was added is live. -/
theorem Live.add (live : Live key value pairs) (keySound : key.Sound) (valueSound : value.Sound)
    {m n : Block} {a b : Nat} {after : Slots Cell} (keyLive : key.Live m a)
    (valueLive : value.Live n b) (ok : MapValue.add key value pairs m a n b = .ok after) :
    Live key value after := by
  cases hfound : findPair? key value pairs m a with
  | some i =>
    obtain ⟨after', w, hok, hlive, -⟩ := add_of_found keySound valueSound live hfound valueLive
    obtain rfl : after' = after := Except.ok.inj (hok.symm.trans ok)
    exact hlive
  | none =>
    cases hroom : pairs.reserve 1 (key.pairSize value) (key.pairAlign value) with
    | error fault => exact absurd ((add_of_no_room hfound hroom).symm.trans ok) (by simp)
    | ok room =>
      obtain ⟨after', x, w, hok, hlive, -⟩ :=
        add_of_not_found keySound valueSound live hfound hroom keyLive valueLive
      obtain rfl : after' = after := Except.ok.inj (hok.symm.trans ok)
      exact hlive

/-- A map from which a pair was removed is live. -/
theorem Live.remove? (live : Live key value pairs) (keySound : key.Sound)
    (valueSound : value.Sound) {m : Block} {a : Nat} {after : Slots Cell}
    (ok : MapValue.remove? key value pairs m a = some after) : Live key value after := by
  cases hfound : findPair? key value pairs m a with
  | none => exact absurd ((remove?_of_not_found hfound).symm.trans ok) (by simp)
  | some i =>
    obtain ⟨after', hok, hlive, -⟩ := remove?_of_found keySound valueSound live hfound
    obtain rfl : after' = after := Option.some.inj (hok.symm.trans ok)
    exact hlive

/-- Every live map keeps the contract. -/
theorem Live.keepsContract (live : Live key value pairs) (aligned : buffers.Aligned)
    (keySound : key.Sound) (valueSound : value.Sound) (owner : Nat) :
    KeepsContract buffers owner key value pairs where
  key_admits i x hx := by
    obtain ⟨hi, rfl⟩ := keyAddress?_eq_some_iff.mp hx
    exact Region.ofMap_admits_key aligned keySound valueSound (hi.trans_le live.storage.count_le)
  value_admits i x hx := by
    obtain ⟨hi, rfl⟩ := valueAddress?_eq_some_iff.mp hx
    exact Region.ofMap_admits_value aligned keySound valueSound (hi.trans_le live.storage.count_le)
  found_admits m a x hx := by
    obtain ⟨i, hi, rfl⟩ := of_findValue?_eq_some hx
    exact Region.ofMap_admits_value aligned keySound valueSound (hi.trans_le live.storage.count_le)
  keys_apart i j x y hij hx hy := by
    obtain ⟨-, rfl⟩ := keyAddress?_eq_some_iff.mp hx
    obtain ⟨-, rfl⟩ := keyAddress?_eq_some_iff.mp hy
    have hkey : 0 + key.size ≤ key.pairSize value := by
      rw [Nat.zero_add]
      exact Kind.size_le_pairSize valueSound
    exact keyAddress_apart hij hkey
  values_apart i j x y hij hx hy := by
    obtain ⟨-, rfl⟩ := valueAddress?_eq_some_iff.mp hx
    obtain ⟨-, rfl⟩ := valueAddress?_eq_some_iff.mp hy
    exact keyAddress_apart hij (Kind.pairValueOffset_add_size_le valueSound)
  key_value_apart i j x y hx hy := by
    obtain ⟨-, rfl⟩ := keyAddress?_eq_some_iff.mp hx
    obtain ⟨-, rfl⟩ := valueAddress?_eq_some_iff.mp hy
    exact MapValue.key_value_apart valueSound i j
  find? _ _ _ admits keyLive :=
    guardedFind?_eq aligned keySound valueSound (keySound.compares aligned) owner live admits
      keyLive
  add _ _ _ _ _ _ admitsKey keyLive admitsValue valueLive :=
    guardedAdd_eq aligned keySound valueSound owner live admitsKey keyLive admitsValue valueLive
  add_live _ _ _ _ _ keyLive valueLive ok := live.add keySound valueSound keyLive valueLive ok
  remove? _ _ _ admits keyLive :=
    guardedRemove?_eq aligned keySound valueSound owner live admits keyLive
  remove?_live _ _ _ ok := live.remove? keySound valueSound ok
  clear := guardedClear_eq aligned keySound valueSound (keySound.destroys aligned)
    (valueSound.destroys aligned) owner live

end MapValue

end PropertyReflection
