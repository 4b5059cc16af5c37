import Mathlib
import PropertyReflection.Proofs.LiveValues
import PropertyReflection.Proofs.Meaning

/-!
# Copies mean the same

Copying a live value cannot fail, whatever the destination held before.  It changes nothing outside
the destination, and the destination is a live value of the same meaning afterwards.

A struct is copied property by property.  That the later ones leave the earlier ones alone is what
the layout is sound for; of two booleans in one byte neither knows of the other.  Containers are
built anew in storage of their own.

### Outline

* `Kind.CopiesFaithfully`, which is what there is to prove, and what follows from it for a fresh
  slot, a pair, a property and the properties of an instance;
* `Kind.Sound.copiesFaithfully`, the induction on kinds.
-/

namespace PropertyReflection

/-! ### What a copy is -/

namespace Kind

/-- A value at one address is a live value and means the same as another. -/
structure IsCopy (kind : Kind) (m : Block) (a : Nat) (source : Block) (b : Nat) : Prop where
  live : kind.Live m a
  meaning_eq : (kind.read m a).meaning = (kind.read source b).meaning

/-- A copy stays one as long as nobody touches it. -/
theorem Sound.isCopy_congr {kind : Kind} (sound : kind.Sound) {m m' source : Block} {a b : Nat}
    (h : kind.SameIn m' a m a) (copy : kind.IsCopy m a source b) : kind.IsCopy m' a source b :=
  ⟨sound.live_congr h copy.live, by rw [sound.read_congr h, copy.meaning_eq]⟩

/-- Copying live values succeeds, changes only the destination, and makes it a copy. -/
def CopiesFaithfully (kind : Kind) : Prop :=
  ∀ (m : Block) (a : Nat) (source : Block) (b : Nat), a + kind.size ≤ m.size →
    kind.Live source b → ∃ m', kind.copy m a source b = .ok m' ∧
      m.ChangedOnly m' a kind.size ∧ kind.IsCopy m' a source b

variable {kind key value : Kind} {m source other : Block} {a b c : Nat}

/-- A value can be copied over a default value that was just made. -/
theorem CopiesFaithfully.fresh (faithful : kind.CopiesFaithfully) (sound : kind.Sound)
    (fits : a + kind.size ≤ m.size) (live : kind.Live source b) :
    ∃ m', kind.copy (kind.construct m a) a source b = .ok m' ∧
      m.ChangedOnly m' a kind.size ∧ kind.IsCopy m' a source b := by
  have hconstruct := sound.changedOnly_construct m a
  obtain ⟨m', hok, hchanged, hcopy⟩ :=
    faithful (kind.construct m a) a source b (hconstruct.size_eq.symm ▸ fits) live
  exact ⟨m', hok, hconstruct.trans hchanged, hcopy⟩

/-- A key and a value can be copied to a pair that has not been used before. -/
theorem CopiesFaithfully.pair (keyFaithful : key.CopiesFaithfully) (keySound : key.Sound)
    (valueFaithful : value.CopiesFaithfully) (valueSound : value.Sound)
    (fits : a + key.pairSize value ≤ m.size) (keyLive : key.Live source b)
    (valueLive : value.Live other c) :
    ∃ m', (do
        let cells ← key.copy (key.construct m a) a source b
        value.copy (value.construct cells (a + key.pairValueOffset value))
          (a + key.pairValueOffset value) other c) = Except.ok m' ∧
      m.ChangedOnly m' a (key.pairSize value) ∧ key.IsCopy m' a source b ∧
      value.IsCopy m' (a + key.pairValueOffset value) other c := by
  have hkeyEnd : key.size ≤ key.pairValueOffset value := size_le_pairValueOffset valueSound
  have hpairEnd : key.pairValueOffset value + value.size ≤ key.pairSize value :=
    pairValueOffset_add_size_le valueSound
  have hkeyFits : a + key.size ≤ m.size := by omega
  obtain ⟨m₁, hok₁, hchanged₁, hcopy₁⟩ := keyFaithful.fresh keySound hkeyFits keyLive
  have hvalueFits : a + key.pairValueOffset value + value.size ≤ m₁.size := by
    rw [hchanged₁.size_eq]
    omega
  obtain ⟨m₂, hok₂, hchanged₂, hcopy₂⟩ := valueFaithful.fresh valueSound hvalueFits valueLive
  have hkey : m₂.SameCells a m₁ a key.size := hchanged₂.sameCells (Or.inl (by omega))
  refine ⟨m₂, ?_, ?_, keySound.isCopy_congr (.of_sameCells hkey) hcopy₁, hcopy₂⟩
  · rw [hok₁]
    exact hok₂
  · exact (hchanged₁.mono (le_refl a) (by omega)).trans (hchanged₂.mono (by omega) (by omega))

end Kind

/-! ### Properties -/

namespace Property

variable {p : Property} {m source : Block} {a b : Nat}

/-- All elements of a property can be copied. -/
theorem copyAll_ok (sound : p.kind.Sound) (faithful : p.kind.CopiesFaithfully)
    (fits : a + p.totalSize ≤ m.size)
    (live : ∀ i < p.dim, p.kind.Live source (Elements.address b p.size i)) :
    ∃ m', p.copyAll m a source b = .ok m' ∧ p.Confined m m' a ∧
      ∀ i < p.dim, p.kind.IsCopy m' (Elements.address a p.size i) source
        (Elements.address b p.size i) := by
  have hstep : ∀ i < p.dim, ∀ n : Block, n.size = m.size →
      ∃ n', p.kind.copy n (Elements.address a p.size i) source (Elements.address b p.size i) =
          .ok n' ∧
        n.ChangedOnly n' (Elements.address a p.size i) p.size ∧
        p.kind.IsCopy n' (Elements.address a p.size i) source (Elements.address b p.size i) := by
    intro i hi n hn
    have hinside := Elements.address_add_le hi a p.size
    exact faithful n _ source _ (hn ▸ hinside.trans fits) (live i hi)
  obtain ⟨m', hok, hchanged, hcopied⟩ := Elements.updateFrom_ok
    (fun m x y => p.kind.copy m x source y)
    (fun i m' => p.kind.IsCopy m' (Elements.address a p.size i) source
      (Elements.address b p.size i)) hstep
    (fun i _ n n' hsame => sound.isCopy_congr (.of_sameCells hsame)) rfl
  refine ⟨m', hok, ⟨hchanged, ?_⟩, hcopied⟩
  intro mask hkind hdim
  have hwrite : p.copyAll m a source b = .ok (m.setBool a mask (source.bool b mask)) := by
    rw [copyAll, hdim, hkind, Elements.updateFrom]
    simp [Elements.address, Kind.copy]
  obtain rfl : m.setBool a mask (source.bool b mask) = m' := Except.ok.inj (hwrite.symm.trans hok)
  exact m.byte_setBool_outside a mask _

/-- Properties that lie apart can be copied one after the other. -/
theorem copyEach_ok {properties : List Property}
    (sound : ∀ p ∈ properties, p.kind.Sound)
    (faithful : ∀ p ∈ properties, p.kind.CopiesFaithfully)
    (apart : properties.Pairwise Property.Apart) {size : Nat} (fits : a + size ≤ m.size)
    (within : ∀ p ∈ properties, p.offset + p.totalSize ≤ size)
    (live : ∀ p ∈ properties, ∀ i < p.dim,
      p.kind.Live source (Elements.address (b + p.offset) p.size i)) :
    ∃ m', properties.foldlM
        (fun m p => p.copyAll m (a + p.offset) source (b + p.offset)) m = Except.ok m' ∧
      m.ChangedOnly m' a size ∧
      ∀ p ∈ properties, ∀ i < p.dim,
        p.kind.IsCopy m' (Elements.address (a + p.offset) p.size i) source
          (Elements.address (b + p.offset) p.size i) := by
  have hstep : ∀ p ∈ properties, ∀ n : Block, n.size = m.size →
      ∃ n', p.copyAll n (a + p.offset) source (b + p.offset) = .ok n' ∧
        p.Confined n n' (a + p.offset) ∧
        ∀ i < p.dim, p.kind.IsCopy n' (Elements.address (a + p.offset) p.size i) source
          (Elements.address (b + p.offset) p.size i) := by
    intro p hp n hn
    have hwithin := within p hp
    exact copyAll_ok (sound p hp) (faithful p hp) (by omega) (live p hp)
  obtain ⟨m', hok, hchanged, -, hcopied⟩ := eachApart_ok
    (fun m p => p.copyAll m (a + p.offset) source (b + p.offset))
    (fun p m' => ∀ i < p.dim, p.kind.IsCopy m' (Elements.address (a + p.offset) p.size i) source
      (Elements.address (b + p.offset) p.size i)) apart within hstep
    (fun p hp n n' hsame hcopy i hi => (sound p hp).isCopy_congr (hsame i hi) (hcopy i hi)) rfl
  exact ⟨m', hok, hchanged, hcopied⟩

end Property

/-! ### Containers -/

/-- A container is built again slot by slot, in storage that is sound when it is done. -/
theorem Slots.Sound.rebuild {origin : Slots Cell} {stride align : Nat}
    (storage : origin.Sound stride align) (pos : 0 < stride)
    (f : Block → Nat → Nat → Except StorageFault Block) (Done : Nat → Block → Prop)
    (step : ∀ i < origin.count, ∀ cells : Block,
      Elements.address 0 stride i + stride ≤ cells.size →
      ∃ cells', f cells (Elements.address 0 stride i) (Elements.address 0 stride i) = .ok cells' ∧
        cells.ChangedOnly cells' (Elements.address 0 stride i) stride ∧ Done i cells')
    (stable : ∀ i < origin.count, ∀ cells cells' : Block,
      cells'.SameCells (Elements.address 0 stride i) cells (Elements.address 0 stride i) stride →
      Done i cells → Done i cells') :
    ∃ target rebuilt : Slots Cell,
      (Slots.empty : Slots Cell).extend default origin.count stride align = .ok target ∧
      Elements.updateFrom origin.count stride f target.cells 0 0 = .ok rebuilt.cells ∧
      { target with cells := rebuilt.cells } = rebuilt ∧ rebuilt.Sound stride align ∧
      rebuilt.count = origin.count ∧ ∀ i < origin.count, Done i rebuilt.cells := by
  obtain ⟨target, htarget, hsound, hcount, hsize⟩ := storage.extend_empty pos default
  have hstep : ∀ i < origin.count, ∀ cells : Block, cells.size = origin.count * stride →
      ∃ cells', f cells (Elements.address 0 stride i) (Elements.address 0 stride i) = .ok cells' ∧
        cells.ChangedOnly cells' (Elements.address 0 stride i) stride ∧ Done i cells' := by
    intro i hi cells hcells
    have hinside := Elements.address_add_le hi 0 stride
    rw [Nat.mul_comm, ← hcells, Nat.zero_add] at hinside
    exact step i hi cells hinside
  obtain ⟨cells, hcells, hchanged, hdone⟩ := Elements.updateFrom_ok f Done hstep stable hsize
  refine ⟨target, { target with cells := cells }, htarget, hcells, rfl,
    ⟨hsound.count_le, hsound.allocated, ?_⟩, hcount, hdone⟩
  exact hchanged.size_eq.symm ▸ hsound.cells_size

/-- A cell that leads to storage was written, and the container reads as what is in it. -/
theorem Block.slots_setCell {m : Block} {a : Nat} (h : a < m.size) (storage : Slots Cell) :
    (m.setCell a (.slots storage)).slots a = storage := by
  rw [slots, cell_setCell_self h]

/-- A word that was read is read back where it is written. -/
theorem Block.word_setWord_word {m source : Block} {a b count : Nat} (hcount : count ≤ 8)
    (fits : a + count ≤ m.size) :
    (m.setWord a (source.word b count) count).word a count = source.word b count := by
  apply UInt64.toNat.inj
  rw [toNat_word_setWord hcount fits, Nat.mod_eq_of_lt (toNat_word_lt source b hcount)]

theorem Scalar.size_le (s : Scalar) : s.size ≤ 8 := by
  cases s <;> decide

/-! ### All kinds -/

namespace Kind

/-- Live values of every kind are copied faithfully. -/
theorem Sound.copiesFaithfully {kind : Kind} (sound : kind.Sound) : kind.CopiesFaithfully := by
  induction sound with
  | @bool mask masked =>
    intro m a source b fits _
    have htruth : (m.setBool a mask (source.bool b mask)).bool a mask = source.bool b mask :=
      Block.bool_setBool masked fits _
    refine ⟨_, by rw [copy], m.changedOnly_setBool a mask _, .bool mask _ a, ?_⟩
    rw [read, read]
    exact Value.meaning_bool_eq htruth
  | scalar s =>
    intro m a source b fits _
    refine ⟨_, by rw [copy], m.changedOnly_setWord a _ s.size, .scalar s _ a, ?_⟩
    rw [read, read, Block.word_setWord_word s.size_le fits]
  | string =>
    intro m a source b fits _
    have ha : a < m.size := lt_of_handle_fits fits
    refine ⟨_, by rw [copy], ?_, .string _ a, ?_⟩
    · exact (m.changedOnly_setCell a _).mono (le_refl a) (Nat.add_le_add_left handleSize_pos a)
    · rw [read, read, Block.text, Block.cell_setCell_self ha]
  | @struct type layout fieldsSound ih =>
    intro m a source b fits live
    cases live with
    | struct fields =>
      obtain ⟨m', hok, hchanged, hcopied⟩ := Property.copyEach_ok fieldsSound ih layout.apart fits
        layout.within fields
      refine ⟨m', ?_, hchanged, .struct fun p hp i hi => (hcopied p hp i hi).live, ?_⟩
      · rw [copy, TypeDescriptor.copyFields_eq_foldlM]
        exact hok
      · rw [read, read, Value.meaning, Value.meaning, meaningOfFields_eq_map,
          meaningOfFields_eq_map, TypeDescriptor.readFields_eq_map,
          TypeDescriptor.readFields_eq_map, List.map_map, List.map_map]
        refine congrArg Value.struct (List.map_congr_left fun p hp => congrArg (Prod.mk p.name) ?_)
        change (p.readAll m' (a + p.offset)).meaning = (p.readAll source (b + p.offset)).meaning
        rw [Property.readAll, Property.readAll, Value.meaning_ofElements, Value.meaning_ofElements]
        exact Value.ofElements_congr fun i hi => (hcopied p hp i hi).meaning_eq
  | @array element elementSound ih =>
    intro m a source b fits live
    have ha : a < m.size := lt_of_handle_fits fits
    cases live with
    | array storage elements =>
      obtain ⟨target, rebuilt, htarget, hcells, hrebuilt, hsound, hcount, hcopied⟩ :=
        storage.rebuild elementSound.size_pos
          (fun cells x y => element.copy (element.construct cells x) x (source.slots b).cells y)
          (fun i cells => element.IsCopy cells (Elements.address 0 element.size i)
            (source.slots b).cells (Elements.address 0 element.size i))
          (fun i hi n hn => ih.fresh elementSound hn (elements i hi))
          (fun i _ n n' hsame => elementSound.isCopy_congr (.of_sameCells hsame))
      have hslots := Block.slots_setCell ha rebuilt
      refine ⟨m.setCell a (.slots rebuilt), ?_, ?_, .array ?_ ?_, ?_⟩
      · rw [copy, Slots.release, htarget, ok_bind, hcells, ok_bind, hrebuilt]
        rfl
      · exact (m.changedOnly_setCell a _).mono (le_refl a) (Nat.add_le_add_left handleSize_pos a)
      · rw [hslots]
        exact hsound
      · rw [hslots]
        intro i hi
        exact (hcopied i (hcount ▸ hi)).live
      · rw [read, read, hslots, hcount, Value.meaning, Value.meaning, meaningOfList_eq_map,
          meaningOfList_eq_map, List.map_map, List.map_map]
        exact congrArg Value.list (List.map_congr_left fun i hi =>
          (hcopied i (List.mem_range.mp hi)).meaning_eq)
  | @map key value keySound valueSound ihKey ihValue =>
    intro m a source b fits live
    have ha : a < m.size := lt_of_handle_fits fits
    cases live with
    | map storage keys values =>
      have hkeyEnd : key.size ≤ key.pairValueOffset value := size_le_pairValueOffset valueSound
      have hpairEnd : key.pairValueOffset value + value.size ≤ key.pairSize value :=
        pairValueOffset_add_size_le valueSound
      obtain ⟨target, rebuilt, htarget, hcells, hrebuilt, hsound, hcount, hcopied⟩ :=
        storage.rebuild (pairSize_pos valueSound)
          (fun cells x y => do
            let cells ← key.copy (key.construct cells x) x (source.slots b).cells y
            value.copy (value.construct cells (x + key.pairValueOffset value))
              (x + key.pairValueOffset value) (source.slots b).cells
              (y + key.pairValueOffset value))
          (fun i cells =>
            key.IsCopy cells (Elements.address 0 (key.pairSize value) i) (source.slots b).cells
                (Elements.address 0 (key.pairSize value) i) ∧
              value.IsCopy cells
                (Elements.address 0 (key.pairSize value) i + key.pairValueOffset value)
                (source.slots b).cells
                (Elements.address 0 (key.pairSize value) i + key.pairValueOffset value))
          (fun i hi n hn => ihKey.pair keySound ihValue valueSound hn (keys i hi) (values i hi))
          (fun i _ n n' hsame hcopy => by
            have hkey : n'.SameCells _ n _ key.size := fun j hj => hsame j (by omega)
            have hvalue := hsame.part hpairEnd
            exact ⟨keySound.isCopy_congr (.of_sameCells hkey) hcopy.1,
              valueSound.isCopy_congr (.of_sameCells hvalue) hcopy.2⟩)
      have hslots := Block.slots_setCell ha rebuilt
      refine ⟨m.setCell a (.slots rebuilt), ?_, ?_, .map ?_ ?_ ?_, ?_⟩
      · rw [copy, Slots.release, htarget, ok_bind, hcells, ok_bind, hrebuilt]
        rfl
      · exact (m.changedOnly_setCell a _).mono (le_refl a) (Nat.add_le_add_left handleSize_pos a)
      · rw [hslots]
        exact hsound
      · rw [hslots]
        intro i hi
        exact (hcopied i (hcount ▸ hi)).1.live
      · rw [hslots]
        intro i hi
        exact (hcopied i (hcount ▸ hi)).2.live
      · rw [read, read, hslots, hcount, Value.meaning, Value.meaning, meaningOfPairs_eq_map,
          meaningOfPairs_eq_map, List.map_map, List.map_map]
        refine congrArg Value.map (List.map_congr_left fun i hi => ?_)
        have hcopy := hcopied i (List.mem_range.mp hi)
        exact Prod.ext hcopy.1.meaning_eq hcopy.2.meaning_eq

end Kind

end PropertyReflection
