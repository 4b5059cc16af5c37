import Mathlib
import PropertyReflection.Proofs.FaithfulCopy
import PropertyReflection.Proofs.MapHistory

/-!
# Hashes of maps and of their entries

The hash of a map is no fingerprint: maps that have nothing in common may hash alike.  But a change
to the value of one entry that changes the hash of this value always changes the hash of the map.
Three steps take the hash of a value to that of its map, and none of them loses a difference: mixing
is injective in what is mixed in, because the seed is only added and xored to it; a sum of words
changes with one of its summands, however often it overflows; and the last step is mixing again.

### Outline

* `hashCombine_injective`, for the first and the last step, and `foldl_add_ne`, for the sum, by
  induction on the number of entries;
* `MapValue.hash_ne_of_value_hash_ne`, for two maps anywhere in memory;
* `MapValue.HasValueAt`, one map with some value at a position, `MapValue.exists_hasValueAt` and
  `MapValue.HasValueAt.hash_ne`;
* `entryHash_changes_mapHash`, which puts it together.
-/

namespace PropertyReflection

/-- Storage with slots in use lies inside its block. -/
theorem Block.lt_of_lt_count {m : Block} {a i : Nat} (hi : i < (m.slots a).count) : a < m.size := by
  refine Nat.lt_of_not_le fun hle => ?_
  have hempty : m.slots a = .empty := by
    rw [slots, cell, Array.getD_eq_getD_getElem?, Array.getElem?_eq_none hle]
    rfl
  rw [hempty] at hi
  exact absurd hi (Nat.not_lt_zero i)

/-! ### Words -/

/-- Mixing different hashes into a seed gives different results. -/
theorem hashCombine_injective (seed : UInt32) : Function.Injective (hashCombine seed) := by
  intro hash hash' h
  unfold hashCombine at h
  have hsum := (UInt32.xor_right_inj seed).mp h
  exact add_right_cancel (add_right_cancel (add_right_cancel hsum))

/-- A sum changes if exactly one of its summands does, by induction on their number: either the last
summand changes and the sum before it does not, or the other way round. -/
theorem foldl_add_ne {f g : Nat → UInt32} {count i : Nat} (hi : i < count)
    (same : ∀ j < count, j ≠ i → f j = g j) (ne : f i ≠ g i) :
    (List.range count).foldl (fun sum j => sum + f j) 0 ≠
      (List.range count).foldl (fun sum j => sum + g j) 0 := by
  induction count with
  | zero => exact absurd hi (Nat.not_lt_zero i)
  | succ count ih =>
    simp only [List.range_succ, List.foldl_append, List.foldl_cons, List.foldl_nil]
    rcases Nat.lt_succ_iff_lt_or_eq.mp hi with hlt | rfl
    · rw [same count (Nat.lt_succ_self count) (by omega)]
      exact fun h => ih hlt (fun j hj => same j (by omega)) (add_right_cancel h)
    · have hbefore : (List.range i).foldl (fun sum j => sum + f j) 0 =
          (List.range i).foldl (fun sum j => sum + g j) 0 :=
        List.foldl_ext _ _ _ fun sum j hj => by
          have hj := List.mem_range.mp hj
          rw [same j (by omega) (by omega)]
      rw [hbefore]
      exact fun h => ne (add_left_cancel h)

namespace MapValue

variable {key value : Kind}

/-! ### Maps -/

/-- The hash of a map, entry by entry. -/
theorem hash_map_eq (m : Block) (a : Nat) :
    (Kind.map key value).hash m a =
      hashCombine (UInt32.ofNat (m.slots a).count)
        ((List.range (m.slots a).count).foldl
          (fun sum j => sum + hashCombine (key.hash (m.slots a).cells (keyAddress key value j))
            (value.hash (m.slots a).cells (valueAddress key value j))) 0) := by
  rw [Kind.hash]
  rfl

/-- Maps whose entries have the same hashes, but for the value of one entry, have different
hashes. -/
theorem hash_ne_of_value_hash_ne {m n : Block} {a b i : Nat} {pairs others : Slots Cell}
    (hpairs : m.slots a = pairs) (hothers : n.slots b = others)
    (count_eq : pairs.count = others.count) (hi : i < pairs.count)
    (keys : ∀ j < pairs.count, key.hash pairs.cells (keyAddress key value j) =
      key.hash others.cells (keyAddress key value j))
    (values : ∀ j < pairs.count, j ≠ i → value.hash pairs.cells (valueAddress key value j) =
      value.hash others.cells (valueAddress key value j))
    (ne : value.hash pairs.cells (valueAddress key value i) ≠
      value.hash others.cells (valueAddress key value i)) :
    (Kind.map key value).hash m a ≠ (Kind.map key value).hash n b := by
  rw [hash_map_eq, hash_map_eq, hpairs, hothers, ← count_eq]
  refine (hashCombine_injective _).ne (foldl_add_ne hi (fun j hj hji => ?_) ?_)
  · rw [keys j hj, values j hj hji]
  · rw [keys i hi]
    exact (hashCombine_injective _).ne ne

/-! ### Replacing a value -/

/-- The storage of a map with a copy of a value at one position.  All keys and all other values are
those of the map. -/
structure HasValueAt (key value : Kind) (pairs : Slots Cell) (i : Nat) (v : Operand)
    (cells : Block) : Prop where
  copied : value.copy pairs.cells (valueAddress key value i) v.block v.address = .ok cells
  live : Live key value { pairs with cells := cells }
  keys : ∀ j < pairs.count, (entryAt key value cells j).1 = (entryAt key value pairs.cells j).1
  others : ∀ j < pairs.count, j ≠ i →
    (entryAt key value cells j).2 = (entryAt key value pairs.cells j).2
  meaning_eq : (entryAt key value cells i).2.meaning = (v.read value).meaning

variable {pairs : Slots Cell} {i : Nat} {v w : Operand} {cells cells' : Block}

/-- A live value can be copied to every position of a live map. -/
theorem exists_hasValueAt (keySound : key.Sound) (valueSound : value.Sound)
    (live : Live key value pairs) (hi : i < pairs.count) (hv : value.Live v.block v.address) :
    ∃ cells, HasValueAt key value pairs i v cells := by
  obtain ⟨cells, copy, hok, hlive, hentries, hmeaning⟩ :=
    replace_ok keySound valueSound live hi hv
  have hentry : ∀ j < pairs.count, entryAt key value cells j =
      if i = j then ((entryAt key value pairs.cells i).1, copy)
      else entryAt key value pairs.cells j := by
    intro j hj
    have hbefore : j < (entries key value pairs).length := by rwa [length_entries]
    have hafter : j < (entries key value { pairs with cells := cells }).length := by
      rwa [length_entries]
    rw [← getElem_entries { pairs with cells := cells } hafter, ← getElem_entries pairs hbefore]
    simp only [hentries, List.getElem_set]
  refine ⟨cells, hok, hlive, fun j hj => ?_, fun j hj hji => ?_, ?_⟩
  · rw [hentry j hj]
    split
    · next hij => rw [hij]
    · rfl
  · rw [hentry j hj, if_neg (Ne.symm hji)]
  · rw [hentry i hi, if_pos rfl]
    exact hmeaning

/-- The copy hashes like the value. -/
theorem HasValueAt.hash_eq (h : HasValueAt key value pairs i v cells) :
    value.hash cells (valueAddress key value i) = value.hash v.block v.address := by
  rw [Kind.hash_eq, Kind.hash_eq]
  exact Value.hash_eq_of_meaning_eq h.meaning_eq

/-- Two values of different hashes at one position make maps of different hashes. -/
theorem HasValueAt.hash_ne (hv : HasValueAt key value pairs i v cells)
    (hw : HasValueAt key value pairs i w cells') (hi : i < pairs.count)
    (ne : value.hash v.block v.address ≠ value.hash w.block w.address) {m : Block} {a : Nat}
    (ha : a < m.size) :
    (Kind.map key value).hash (m.setCell a (.slots { pairs with cells := cells })) a ≠
      (Kind.map key value).hash (m.setCell a (.slots { pairs with cells := cells' })) a := by
  refine hash_ne_of_value_hash_ne (Block.slots_setCell ha _) (Block.slots_setCell ha _) rfl
    hi (fun j hj => ?_) (fun j hj hji => ?_) (by rwa [hv.hash_eq, hw.hash_eq])
  · rw [Kind.hash_eq, Kind.hash_eq]
    exact congrArg Value.hash ((hv.keys j hj).trans (hw.keys j hj).symm)
  · rw [Kind.hash_eq, Kind.hash_eq]
    exact congrArg Value.hash ((hv.others j hj hji).trans (hw.others j hj hji).symm)

end MapValue

open MapValue

/-- A value that hashes differently makes its map hash differently.  Of two maps with the same
number of entries anywhere in memory, let the keys at all positions hash alike and the values at all
positions but one: then the maps hash differently if the values at this position do.  In particular,
to every position of a live map two values can be copied, all keys and all other values stay, and if
the two values hash differently, then so do the two maps. -/
theorem entryHash_changes_mapHash {property : Property} (described : property.Described)
    {key value : Kind} (h : property.kind = .map key value) :
    (∀ (m n : Block) (a b i : Nat), (m.slots a).count = (n.slots b).count → i < (m.slots a).count →
      (∀ j < (m.slots a).count,
        (Property.ofKey key).hashAll (m.slots a).cells (keyAddress key value j) =
          (Property.ofKey key).hashAll (n.slots b).cells (keyAddress key value j)) →
      (∀ j < (m.slots a).count, j ≠ i →
        (Property.ofValue key value).hashAll (m.slots a).cells (valueAddress key value j) =
          (Property.ofValue key value).hashAll (n.slots b).cells (valueAddress key value j)) →
      (Property.ofValue key value).hashAll (m.slots a).cells (valueAddress key value i) ≠
        (Property.ofValue key value).hashAll (n.slots b).cells (valueAddress key value i) →
      property.hashFirst m a ≠ property.hashFirst n b) ∧
    ∀ (m : Block) (a i : Nat), property.kind.Live m a → i < (m.slots a).count →
      ∀ v w : Operand, value.Live v.block v.address → value.Live w.block w.address →
        (Property.ofValue key value).hashAll v.block v.address ≠
          (Property.ofValue key value).hashAll w.block w.address →
        ∃ cells cells', HasValueAt key value (m.slots a) i v cells ∧
          HasValueAt key value (m.slots a) i w cells' ∧
          property.hashFirst (m.setCell a (.slots { m.slots a with cells := cells })) a ≠
            property.hashFirst (m.setCell a (.slots { m.slots a with cells := cells' })) a := by
  have hsound := described.sound
  rw [h] at hsound
  cases hsound with
  | map keySound valueSound =>
    simp only [Property.hashFirst, h]
    refine ⟨fun m n a b i count_eq hi keys values ne =>
      hash_ne_of_value_hash_ne rfl rfl count_eq hi keys values ne, ?_⟩
    intro m a i live hi v w hv hw ne
    have hlive := live_map_iff.mp live
    obtain ⟨cells, hcells⟩ := exists_hasValueAt keySound valueSound hlive hi hv
    obtain ⟨cells', hcells'⟩ := exists_hasValueAt keySound valueSound hlive hi hw
    have ha : a < m.size := Block.lt_of_lt_count hi
    exact ⟨cells, cells', hcells, hcells', hcells.hash_ne hcells' hi ne ha⟩

/-- Votes that differ in one number hash differently, and so do votes in which two different numbers
were put in place of the second one. -/
theorem entryHash_changes_mapHash_votes :
    ballotVotes.hashFirst (ballotBlock 0 2 [1, 10, 2, 20]) 8 ≠
      ballotVotes.hashFirst (ballotBlock 0 2 [1, 10, 2, 21]) 8 ∧
    ∃ cells cells',
      HasValueAt (.scalar .uint8) (.scalar .uint8) ((ballots "first").slots 8) 1
        (.ofBytes [30]) cells ∧
      HasValueAt (.scalar .uint8) (.scalar .uint8) ((ballots "first").slots 8) 1
        (.ofBytes [31]) cells' ∧
      ballotVotes.hashFirst ((ballots "first").setCell 8
          (.slots { (ballots "first").slots 8 with cells := cells })) 8 ≠
        ballotVotes.hashFirst ((ballots "first").setCell 8
          (.slots { (ballots "first").slots 8 with cells := cells' })) 8 := by
  obtain ⟨hanywhere, hreplaced⟩ := entryHash_changes_mapHash described_ballotVotes rfl
  refine ⟨?_, ?_⟩
  · exact hanywhere (ballotBlock 0 2 [1, 10, 2, 20]) (ballotBlock 0 2 [1, 10, 2, 21]) 8 8 1
      (by decide) (by decide) (by decide +kernel) (by decide +kernel) (by decide +kernel)
  · exact hreplaced _ 8 1 live_firstVotes (by decide) _ _ (.scalar _ _ _) (.scalar _ _ _)
      (by decide +kernel)

end PropertyReflection
