import Mathlib
import PropertyReflection.Proofs.ArrayAsList
import PropertyReflection.Proofs.NestedCalls
import PropertyReflection.Proofs.SiblingIsolation

/-!
# Values that come about

A value comes about by initialization and by operations on it: it is copied over, elements are added
to it and removed from it, and what lies in it is changed, at any depth and in any order.
`Kind.Produced` are the values for which there is such a history, with one constructor for each
operation.  The history of a value that is passed to an operation is part of the history of the
result, and so is that of a value inside another one that was changed in place.

Every operation makes usable values out of usable ones, so all values that come about are usable:
they are live, their kind is sound, and their cells are there.

### Outline

* `Kind.Usable`, with one lemma for each operation, and for going into a value and back;
* `Kind.Produced` and `Kind.Produced.usable`, by induction on the history;
* `Kind.Produced.run`, for a map that is changed again and again.
-/

namespace PropertyReflection

namespace Kind

variable {kind element key value : Kind} {m m' n : Block} {a b i : Nat} {type : TypeDescriptor}
  {p : Property} {storage : Slots Cell} {cells : Block}

/-! ### Usable values -/

/-- A live value of a sound kind, with all its cells. -/
structure Usable (kind : Kind) (m : Block) (a : Nat) : Prop where
  sound : kind.Sound
  live : kind.Live m a
  fits : a + kind.size ≤ m.size

/-- A value that is nothing but its bytes, or a text: neither a struct nor a container. -/
inductive IsLeaf : Kind → Prop where
  | bool (mask : UInt8) : IsLeaf (.bool mask)
  | scalar (s : Scalar) : IsLeaf (.scalar s)
  | string : IsLeaf .string

/-- An initialized value is usable. -/
theorem Sound.usable_construct (sound : kind.Sound) (fits : a + kind.size ≤ m.size) :
    kind.Usable (kind.construct m a) a where
  sound := sound
  live := sound.live_construct fits
  fits := (sound.changedOnly_construct m a).size_eq.symm ▸ fits

namespace Usable

/-- A value stays usable while other memory changes, and where it is moved. -/
theorem congr (usable : kind.Usable n b) (same : kind.SameIn m a n b)
    (fits : a + kind.size ≤ m.size) : kind.Usable m a :=
  ⟨usable.sound, usable.sound.live_congr same usable.live, fits⟩

/-- Whatever is written to a leaf, it is usable. -/
theorem write (usable : kind.Usable m a) (leaf : kind.IsLeaf) (size_eq : m'.size = m.size) :
    kind.Usable m' a := by
  refine ⟨usable.sound, ?_, size_eq.symm ▸ usable.fits⟩
  cases leaf with
  | bool mask => exact .bool mask m' a
  | scalar s => exact .scalar s m' a
  | string => exact .string m' a

/-- A copy is usable. -/
theorem copy (dest : kind.Usable m a) (origin : kind.Usable n b)
    (ok : kind.copy m a n b = .ok m') : kind.Usable m' a := by
  obtain ⟨m'', hok, hchanged, hcopy⟩ :=
    dest.sound.copiesFaithfully m a n b dest.fits origin.live
  obtain rfl : m'' = m' := Except.ok.inj (hok.symm.trans ok)
  exact ⟨dest.sound, hcopy.live, hchanged.size_eq.symm ▸ dest.fits⟩

/-! ### Structs -/

/-- The elements of the properties of a struct are usable. -/
theorem fieldAt (usable : (Kind.struct type).Usable m a) (mem : p ∈ type.allProperties)
    (hi : i < p.dim) : p.kind.Usable m (Elements.address (a + p.offset) p.size i) := by
  have hfits := usable.fits
  have hinside := Elements.address_add_le hi (a + p.offset) p.size
  cases usable.sound with
  | struct layout fieldsSound =>
    have hwithin := layout.within p mem
    cases usable.live with
    | struct fields =>
      refine ⟨fieldsSound p mem, fields p mem i hi, ?_⟩
      rw [Property.totalSize] at hwithin
      rw [Kind.size] at hfits
      change _ + p.size ≤ m.size
      omega

/-- A struct is usable after a change to one of its properties, if this property is. -/
theorem changeField (usable : (Kind.struct type).Usable m a) (mem : p ∈ type.allProperties)
    (confined : p.Confined m m' (a + p.offset))
    (after : ∀ i < p.dim, p.kind.Usable m' (Elements.address (a + p.offset) p.size i)) :
    (Kind.struct type).Usable m' a := by
  have hsound := usable.sound
  refine ⟨hsound, ?_, confined.changedOnly.size_eq.symm ▸ usable.fits⟩
  cases hsound with
  | struct layout fieldsSound =>
    cases usable.live with
    | struct fields =>
      refine .struct fun q hq j hj => ?_
      by_cases hpq : p = q
      · subst hpq
        exact (after j hj).live
      · -- another property has no bit in common with the one that changed
        have hsame := confined.sameIn (layout.apart_of_ne mem hq hpq) hj
        exact (fieldsSound q hq).live_congr hsame (fields q hq j hj)

/-! ### Arrays -/

/-- An array is usable with any storage that is live. -/
theorem setArray (usable : (Kind.array element).Usable m a)
    (live : ArrayValue.Live element storage) :
    (Kind.array element).Usable (m.setCell a (.slots storage)) a := by
  refine ⟨usable.sound, ArrayValue.live_array_iff.mpr ?_, ?_⟩
  · rw [Block.slots_setCell (lt_of_handle_fits usable.fits)]
    exact live
  · rw [Block.size_setCell]
    exact usable.fits

/-- The elements of an array are usable. -/
theorem elementAt (usable : (Kind.array element).Usable m a) (hi : i < (m.slots a).count) :
    element.Usable (m.slots a).cells (Elements.address 0 element.size i) := by
  have hlive := ArrayValue.live_array_iff.mp usable.live
  cases usable.sound with
  | array elementSound => exact ⟨elementSound, hlive.elementLive i hi, hlive.storage.slot_le hi⟩

/-- The storage of an array is live after a change to one of its elements, if this element is. -/
theorem changeElement (usable : (Kind.array element).Usable m a)
    (changed : Block.ChangedOnly (m.slots a).cells cells (Elements.address 0 element.size i)
      element.size)
    (after : element.Usable cells (Elements.address 0 element.size i)) :
    (Kind.array element).Usable (m.setCell a (.slots { m.slots a with cells := cells })) a := by
  have hlive := ArrayValue.live_array_iff.mp usable.live
  refine usable.setArray ⟨⟨hlive.storage.count_le, hlive.storage.allocated, ?_⟩, fun j hj => ?_⟩
  · exact changed.size_eq.symm ▸ hlive.storage.cells_size
  · by_cases hij : i = j
    · subst hij
      exact after.live
    · have hsame := changed.sameCells (Elements.address_apart (Ne.symm hij) 0 element.size)
      exact after.sound.live_congr (.of_sameCells hsame) (hlive.elementLive j hj)

/-- An array is usable after an element was appended. -/
theorem push (usable : (Kind.array element).Usable m a)
    (ok : ArrayValue.push element (m.slots a) = .ok storage) :
    (Kind.array element).Usable (m.setCell a (.slots storage)) a := by
  cases usable.sound with
  | array elementSound =>
    exact usable.setArray ((ArrayValue.live_array_iff.mp usable.live).push elementSound ok)

/-- An array is usable after an element was removed. -/
theorem removeElement (usable : (Kind.array element).Usable m a)
    (ok : ArrayValue.remove? element (m.slots a) i = some storage) :
    (Kind.array element).Usable (m.setCell a (.slots storage)) a := by
  cases usable.sound with
  | array elementSound =>
    exact usable.setArray ((ArrayValue.live_array_iff.mp usable.live).remove? elementSound ok)

/-! ### Maps -/

/-- A map is usable with any storage that is live. -/
theorem setMap (usable : (Kind.map key value).Usable m a)
    (live : MapValue.Live key value storage) :
    (Kind.map key value).Usable (m.setCell a (.slots storage)) a := by
  refine ⟨usable.sound, MapValue.live_map_iff.mpr ?_, ?_⟩
  · rw [Block.slots_setCell (lt_of_handle_fits usable.fits)]
    exact live
  · rw [Block.size_setCell]
    exact usable.fits

/-- The keys of a map are usable. -/
theorem keyAt (usable : (Kind.map key value).Usable m a) (hi : i < (m.slots a).count) :
    key.Usable (m.slots a).cells (MapValue.keyAddress key value i) := by
  have hlive := MapValue.live_map_iff.mp usable.live
  cases usable.sound with
  | map keySound valueSound =>
    exact ⟨keySound, (hlive.pairLive i hi).1, hlive.key_le valueSound hi⟩

/-- The values of a map are usable. -/
theorem valueAt (usable : (Kind.map key value).Usable m a) (hi : i < (m.slots a).count) :
    value.Usable (m.slots a).cells (MapValue.valueAddress key value i) := by
  have hlive := MapValue.live_map_iff.mp usable.live
  cases usable.sound with
  | map keySound valueSound =>
    exact ⟨valueSound, (hlive.pairLive i hi).2, hlive.value_le valueSound hi⟩

/-- The storage of a map is live after a change to one of its pairs, if this pair is. -/
theorem changePair (usable : (Kind.map key value).Usable m a)
    (changed : Block.ChangedOnly (m.slots a).cells cells (MapValue.keyAddress key value i)
      (key.pairSize value))
    (keyAfter : key.Usable cells (MapValue.keyAddress key value i))
    (valueAfter : value.Usable cells (MapValue.valueAddress key value i)) :
    (Kind.map key value).Usable (m.setCell a (.slots { m.slots a with cells := cells })) a := by
  have hlive := MapValue.live_map_iff.mp usable.live
  refine usable.setMap ⟨⟨hlive.storage.count_le, hlive.storage.allocated, ?_⟩, fun j hj => ?_⟩
  · exact changed.size_eq.symm ▸ hlive.storage.cells_size
  · by_cases hij : i = j
    · subst hij
      exact ⟨keyAfter.live, valueAfter.live⟩
    · exact (MapValue.entryAt_congr keyAfter.sound valueAfter.sound
        (MapValue.sameCells_of_changedOnly hij changed)).2 (hlive.pairLive j hj)

/-- A map is usable after a pair was added. -/
theorem addPair {k v : MapValue.Operand} (usable : (Kind.map key value).Usable m a)
    (hk : key.Usable k.block k.address) (hv : value.Usable v.block v.address)
    (ok : MapValue.add key value (m.slots a) k.block k.address v.block v.address = .ok storage) :
    (Kind.map key value).Usable (m.setCell a (.slots storage)) a :=
  usable.setMap
    ((MapValue.live_map_iff.mp usable.live).add hk.sound hv.sound hk.live hv.live ok)

/-- A map is usable after a pair was removed. -/
theorem removePair {k : MapValue.Operand} (usable : (Kind.map key value).Usable m a)
    (ok : MapValue.remove? key value (m.slots a) k.block k.address = some storage) :
    (Kind.map key value).Usable (m.setCell a (.slots storage)) a := by
  cases usable.sound with
  | map keySound valueSound =>
    exact usable.setMap
      ((MapValue.live_map_iff.mp usable.live).remove? keySound valueSound ok)

end Usable

end Kind

/-! ### Values with a history -/

/-- The values that come about, by the last operation of their history. -/
inductive Kind.Produced : Kind → Block → Nat → Prop where
  /-- A value is initialized. -/
  | initialized {property : Property} {m : Block} {a : Nat} (described : property.Described)
    (fits : a + property.size ≤ m.size) :
    Kind.Produced property.kind (property.kind.construct m a) a
  /-- Other memory changes, or the value is moved. -/
  | kept {kind : Kind} {m n : Block} {a b : Nat} (before : kind.Produced n b)
    (same : kind.SameIn m a n b) (fits : a + kind.size ≤ m.size) : Kind.Produced kind m a
  /-- A boolean, a scalar or a text is written. -/
  | written {kind : Kind} {m m' : Block} {a : Nat} (before : kind.Produced m a)
    (leaf : kind.IsLeaf) (size_eq : m'.size = m.size) : Kind.Produced kind m' a
  /-- Another value is copied over a value. -/
  | copied {kind : Kind} {m m' source : Block} {a b : Nat} (before : kind.Produced m a)
    (origin : kind.Produced source b) (ok : kind.copy m a source b = .ok m') :
    Kind.Produced kind m' a
  /-- An element of a property of a struct. -/
  | field {type : TypeDescriptor} {m : Block} {a : Nat} (outer : Kind.Produced (.struct type) m a)
    {p : Property} (mem : p ∈ type.allProperties) {i : Nat} (hi : i < p.dim) :
    Kind.Produced p.kind m (Elements.address (a + p.offset) p.size i)
  /-- A property of a struct changes in place. -/
  | fieldChanged {type : TypeDescriptor} {m m' : Block} {a : Nat}
    (before : Kind.Produced (.struct type) m a) {p : Property} (mem : p ∈ type.allProperties)
    (confined : p.Confined m m' (a + p.offset))
    (after : ∀ i < p.dim, p.kind.Produced m' (Elements.address (a + p.offset) p.size i)) :
    Kind.Produced (.struct type) m' a
  /-- An element of an array. -/
  | element {element : Kind} {m : Block} {a : Nat} (outer : Kind.Produced (.array element) m a)
    {i : Nat} (hi : i < (m.slots a).count) :
    Kind.Produced element (m.slots a).cells (Elements.address 0 element.size i)
  /-- An element of an array changes in place. -/
  | elementChanged {element : Kind} {m : Block} {a : Nat}
    (before : Kind.Produced (.array element) m a) {i : Nat} {cells : Block}
    (changed : Block.ChangedOnly (m.slots a).cells cells (Elements.address 0 element.size i)
      element.size)
    (after : element.Produced cells (Elements.address 0 element.size i)) :
    Kind.Produced (.array element) (m.setCell a (.slots { m.slots a with cells := cells })) a
  /-- A default value is appended to an array. -/
  | elementAdded {element : Kind} {m : Block} {a : Nat}
    (before : Kind.Produced (.array element) m a) {storage : Slots Cell}
    (ok : ArrayValue.push element (m.slots a) = .ok storage) :
    Kind.Produced (.array element) (m.setCell a (.slots storage)) a
  /-- An element is removed from an array. -/
  | elementRemoved {element : Kind} {m : Block} {a : Nat}
    (before : Kind.Produced (.array element) m a) {i : Nat} {storage : Slots Cell}
    (ok : ArrayValue.remove? element (m.slots a) i = some storage) :
    Kind.Produced (.array element) (m.setCell a (.slots storage)) a
  /-- An array is cleared. -/
  | arrayCleared {element : Kind} {m : Block} {a : Nat}
    (before : Kind.Produced (.array element) m a) :
    Kind.Produced (.array element) (m.setCell a (.slots (ArrayValue.clear (m.slots a)))) a
  /-- A key of a map. -/
  | key {key value : Kind} {m : Block} {a : Nat} (outer : Kind.Produced (.map key value) m a)
    {i : Nat} (hi : i < (m.slots a).count) :
    Kind.Produced key (m.slots a).cells (MapValue.keyAddress key value i)
  /-- A value of a map. -/
  | value {key value : Kind} {m : Block} {a : Nat} (outer : Kind.Produced (.map key value) m a)
    {i : Nat} (hi : i < (m.slots a).count) :
    Kind.Produced value (m.slots a).cells (MapValue.valueAddress key value i)
  /-- A pair of a map changes in place. -/
  | pairChanged {key value : Kind} {m : Block} {a : Nat}
    (before : Kind.Produced (.map key value) m a) {i : Nat} {cells : Block}
    (changed : Block.ChangedOnly (m.slots a).cells cells (MapValue.keyAddress key value i)
      (key.pairSize value))
    (keyAfter : key.Produced cells (MapValue.keyAddress key value i))
    (valueAfter : value.Produced cells (MapValue.valueAddress key value i)) :
    Kind.Produced (.map key value) (m.setCell a (.slots { m.slots a with cells := cells })) a
  /-- A value is stored in a map under a key. -/
  | pairAdded {key value : Kind} {m : Block} {a : Nat}
    (before : Kind.Produced (.map key value) m a) {k v : MapValue.Operand}
    (hk : key.Produced k.block k.address) (hv : value.Produced v.block v.address)
    {storage : Slots Cell}
    (ok : MapValue.add key value (m.slots a) k.block k.address v.block v.address =
      .ok storage) :
    Kind.Produced (.map key value) (m.setCell a (.slots storage)) a
  /-- A key is removed from a map, with its value. -/
  | pairRemoved {key value : Kind} {m : Block} {a : Nat}
    (before : Kind.Produced (.map key value) m a) {k : MapValue.Operand} {storage : Slots Cell}
    (ok : MapValue.remove? key value (m.slots a) k.block k.address = some storage) :
    Kind.Produced (.map key value) (m.setCell a (.slots storage)) a
  /-- A map is cleared. -/
  | mapCleared {key value : Kind} {m : Block} {a : Nat}
    (before : Kind.Produced (.map key value) m a) :
    Kind.Produced (.map key value) (m.setCell a (.slots (MapValue.clear (m.slots a)))) a

/-- What comes about is usable, by induction on its history. -/
theorem Kind.Produced.usable {kind : Kind} {m : Block} {a : Nat} (produced : kind.Produced m a) :
    kind.Usable m a := by
  induction produced with
  | initialized described fits => exact described.sound.usable_construct fits
  | kept _ same fits ih => exact ih.congr same fits
  | written _ leaf size_eq ih => exact ih.write leaf size_eq
  | copied _ _ ok ih ihOrigin => exact ih.copy ihOrigin ok
  | field _ mem hi ih => exact ih.fieldAt mem hi
  | fieldChanged _ mem confined _ ih ihAfter => exact ih.changeField mem confined ihAfter
  | element _ hi ih => exact ih.elementAt hi
  | elementChanged _ changed _ ih ihAfter => exact ih.changeElement changed ihAfter
  | elementAdded _ ok ih => exact ih.push ok
  | elementRemoved _ ok ih => exact ih.removeElement ok
  | arrayCleared _ ih => exact ih.setArray (ArrayValue.live_empty _)
  | key _ hi ih => exact ih.keyAt hi
  | value _ hi ih => exact ih.valueAt hi
  | pairChanged _ changed _ _ ih ihKey ihValue => exact ih.changePair changed ihKey ihValue
  | pairAdded _ _ _ ok ih ihKey ihValue => exact ih.addPair ihKey ihValue ok
  | pairRemoved _ ok ih => exact ih.removePair ok
  | mapCleared _ ih => exact ih.setMap (MapValue.live_empty _ _)

/-- What changes leave of a map comes about, if the keys and values that are added do. -/
theorem Kind.Produced.run {key value : Kind} {m : Block} {a : Nat} {changes : List MapValue.Change}
    {after : Slots Cell} (before : Kind.Produced (.map key value) m a)
    (operands : ∀ k v, MapValue.Change.add k v ∈ changes →
      key.Produced k.block k.address ∧ value.Produced v.block v.address)
    (ran : MapValue.run key value (m.slots a) changes = .ok after) :
    ∃ m', Kind.Produced (.map key value) m' a ∧ m'.slots a = after := by
  induction changes generalizing m with
  | nil => exact ⟨m, before, Except.ok.inj ran⟩
  | cons change changes ih =>
    rw [MapValue.run, List.foldlM_cons] at ran
    obtain ⟨storage, happly, hrest⟩ := exists_of_bind_eq_ok ran
    have hoperands := fun k v h => operands k v (List.mem_cons_of_mem change h)
    have hslots : (m.setCell a (.slots storage)).slots a = storage :=
      Block.slots_setCell (lt_of_handle_fits before.usable.fits) storage
    cases change with
    | add k v =>
      obtain ⟨hk, hv⟩ := operands k v List.mem_cons_self
      exact ih (before.pairAdded hk hv happly) hoperands (hslots.symm ▸ hrest)
    | remove k =>
      obtain rfl := Except.ok.inj happly
      cases hremove : MapValue.remove? key value (m.slots a) k.block k.address with
      | none =>
        -- a key that is not there leaves the map as it is, without a step in its history
        rw [hremove] at hrest
        exact ih before hoperands hrest
      | some storage =>
        rw [hremove, Option.getD_some] at hrest hslots
        exact ih (before.pairRemoved hremove) hoperands (hslots.symm ▸ hrest)
    | clear =>
      obtain rfl := Except.ok.inj happly
      exact ih before.mapCleared hoperands (hslots.symm ▸ hrest)

end PropertyReflection
