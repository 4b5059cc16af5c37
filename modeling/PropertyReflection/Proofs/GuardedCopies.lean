import Mathlib
import PropertyReflection.Proofs.MemoryContract

/-!
# The memory contract in copies

Copying a container is three operations in one: what the destination held is destroyed, new slots
are allocated, and in each of them a default value is made and the source copied over it.  So the
addresses lie in three storages, and the new one is known to be aligned and large enough because it
was allocated for as many elements as the source has.

### Outline

* `Kind.Copies.fresh` and `MapValue.guardedConstructPair_ok`, what is done in one new slot;
* `Property.guardedCopy_ok`, the elements of a property;
* `Kind.copies_struct`, `Kind.copies_array` and `Kind.copies_map`, one step of the induction each;
* `Kind.Sound.copies`, by induction on sound kinds.
-/

namespace PropertyReflection

/-- No guard stops copying one live value over another at admitted addresses. -/
def Kind.Copies (buffers : Buffers) (kind : Kind) : Prop :=
  ∀ (region other : Region) (m : Block) (a : Nat) (source : Block) (b : Nat),
    region.Admits kind 1 a → other.Admits kind 1 b → a + kind.size ≤ m.size →
    kind.Live m a → kind.Live source b →
    kind.guardedCopy buffers region other m a source b =
      (kind.copy m a source b).mapError .storage

/-- In a new slot a default value is made and the given one copied over it. -/
theorem Kind.Copies.fresh {buffers : Buffers} {kind : Kind} (copies : kind.Copies buffers)
    (sound : kind.Sound) {region other : Region} {m source : Block} {a b : Nat}
    (admits : region.Admits kind 1 a) (admitsOther : other.Admits kind 1 b)
    (fits : a + kind.size ≤ m.size) (live : kind.Live source b) :
    ∃ m', kind.copy (kind.construct m a) a source b = .ok m' ∧
      (do
        let m ← kind.guardedConstruct region m a
        kind.guardedCopy buffers region other m a source b) = .ok m' ∧
      m.ChangedOnly m' a kind.size := by
  obtain ⟨m', hok, hchanged, -⟩ := sound.copiesFaithfully.fresh sound fits live
  have hfits : a + kind.size ≤ (kind.construct m a).size :=
    (sound.changedOnly_construct m a).size_eq.symm ▸ fits
  refine ⟨m', hok, ?_, hchanged⟩
  rw [sound.constructs region m a admits, ok_bind, copies _ _ _ _ _ _ admits admitsOther hfits
    (sound.live_construct fits) live, hok]
  rfl

/-- A pair that has not been used before gets a copy of a key and a copy of a value. -/
theorem MapValue.guardedConstructPair_ok {buffers : Buffers} (aligned : buffers.Aligned)
    {key value : Kind} (keySound : key.Sound) (valueSound : value.Sound)
    (keyCopies : key.Copies buffers) (valueCopies : value.Copies buffers) (owner : Nat)
    (pairs : Slots Cell) {index : Nat} (hindex : index < pairs.capacity)
    (fits : keyAddress key value index + key.pairSize value ≤ pairs.cells.size)
    {forKey forValue : Region} {m n : Block} {a b : Nat} (admitsKey : forKey.Admits key 1 a)
    (keyLive : key.Live m a) (admitsValue : forValue.Admits value 1 b)
    (valueLive : value.Live n b) :
    ∃ cells : Block, constructPair key value pairs.cells index m a n b = .ok cells ∧
      guardedConstructPair buffers owner key value pairs index forKey m a forValue n b =
        .ok cells ∧
      Block.ChangedOnly pairs.cells cells (keyAddress key value index) (key.pairSize value) := by
  have hkeyEnd : key.size ≤ key.pairValueOffset value := Kind.size_le_pairValueOffset valueSound
  have hpairEnd : key.pairValueOffset value + value.size ≤ key.pairSize value :=
    Kind.pairValueOffset_add_size_le valueSound
  have haddress : valueAddress key value index =
      keyAddress key value index + key.pairValueOffset value := rfl
  have hkeyAdmits : (Region.ofMap buffers owner key value pairs).Admits key 1
      (keyAddress key value index) := Region.ofMap_admits_key aligned keySound valueSound hindex
  have hvalueAdmits : (Region.ofMap buffers owner key value pairs).Admits value 1
      (valueAddress key value index) := Region.ofMap_admits_value aligned keySound valueSound hindex
  have hkeyFits : keyAddress key value index + key.size ≤ pairs.cells.size := by omega
  obtain ⟨middle, hkey, hguardedKey, hkeyChanged⟩ :=
    keyCopies.fresh keySound hkeyAdmits admitsKey hkeyFits keyLive
  have hvalueFits : valueAddress key value index + value.size ≤ middle.size := by
    rw [hkeyChanged.size_eq]
    omega
  obtain ⟨cells, hvalue, hguardedValue, hvalueChanged⟩ :=
    valueCopies.fresh valueSound hvalueAdmits admitsValue hvalueFits valueLive
  refine ⟨cells, ?_, ?_, ?_⟩
  · rw [constructPair, hkey]
    exact hvalue
  · rw [guardedConstructPair, ← bind_assoc, hguardedKey]
    exact hguardedValue
  · exact (hkeyChanged.mono le_rfl (by omega)).trans (hvalueChanged.mono (by omega) (by omega))

/-- All elements of a property are copied. -/
theorem Property.guardedCopy_ok {buffers : Buffers} {p : Property} (sound : p.kind.Sound)
    (copies : p.kind.Copies buffers) {region other : Region} {m source : Block} {x y : Nat}
    (admits : region.Admits p.kind p.dim x) (admitsOther : other.Admits p.kind p.dim y)
    (fits : x + p.totalSize ≤ m.size)
    (live : ∀ i < p.dim, p.kind.Live m (Elements.address x p.size i))
    (liveOther : ∀ i < p.dim, p.kind.Live source (Elements.address y p.size i)) :
    ∃ m', p.copyAll m x source y = .ok m' ∧
      p.guardedCopy buffers region m x other source y = .ok m' ∧ p.Confined m m' x := by
  obtain ⟨m', hok, hconfined, -⟩ := copyAll_ok sound sound.copiesFaithfully fits liveOther
  have hstep : ∀ i < p.dim, ∀ n : Block, n.size = m.size →
      p.kind.Live n (Elements.address x p.size i) →
      ∃ n', p.kind.copy n (Elements.address x p.size i) source (Elements.address y p.size i) =
          .ok n' ∧
        p.kind.guardedCopy buffers (.row region.base p.kind p.dim x)
          (.row other.base p.kind p.dim y) n (Elements.address x p.size i) source
          (Elements.address y p.size i) = .ok n' ∧
        n.ChangedOnly n' (Elements.address x p.size i) p.size := by
    intro i hi n hn hlive
    have hinside : Elements.address x p.size i + p.kind.size ≤ n.size :=
      hn ▸ (Elements.address_add_le hi x p.size).trans fits
    obtain ⟨n', hn', hchanged, -⟩ := sound.copiesFaithfully n (Elements.address x p.size i) source
      (Elements.address y p.size i) hinside (liveOther i hi)
    refine ⟨n', hn', ?_, hchanged⟩
    rw [copies _ _ n _ source _ (element_admits sound admits hi)
      (element_admits sound admitsOther hi) hinside hlive (liveOther i hi), hn']
    rfl
  obtain ⟨m'', hplain, hguarded, -⟩ := Elements.foldlM_guard
    (fun i m => p.kind.Live m (Elements.address x p.size i)) hstep
    (fun i _ n n' hsame => sound.live_congr (.of_sameCells hsame)) rfl live
  obtain rfl : m'' = m' := Except.ok.inj (hplain.symm.trans hok)
  refine ⟨m'', hok, ?_, hconfined⟩
  rw [guardedCopy, guardElementPairs_eq admits admitsOther]
  exact hguarded

/-- A container is built again in new storage.  Each step works on a slot that was allocated and has
its cells. -/
theorem Slots.Sound.rebuild_guard {origin : Slots Cell} {stride align : Nat}
    (storage : origin.Sound stride align) (pos : 0 < stride)
    (f : Slots Cell → Block → Nat → Except CallFault Block)
    (g : Block → Nat → Except StorageFault Block)
    (step : ∀ target : Slots Cell, ∀ i < origin.count, i < target.capacity →
      ∀ cells : Block, Elements.address 0 stride i + stride ≤ cells.size →
      ∃ cells', g cells i = .ok cells' ∧ f target cells i = .ok cells' ∧
        cells.ChangedOnly cells' (Elements.address 0 stride i) stride) :
    ∃ (target : Slots Cell) (cells : Block),
      (Slots.empty : Slots Cell).extend default origin.count stride align = .ok target ∧
      (List.range origin.count).foldlM g target.cells = .ok cells ∧
      (List.range origin.count).foldlM (f target) target.cells = .ok cells := by
  obtain ⟨target, htarget, hsound, hcount, hsize⟩ := storage.extend_empty pos default
  have hstep : ∀ i < origin.count, ∀ cells : Block, cells.size = origin.count * stride → True →
      ∃ cells', g cells i = .ok cells' ∧ f target cells i = .ok cells' ∧
        cells.ChangedOnly cells' (Elements.address 0 stride i) stride := by
    intro i hi cells hcells _
    have hinside := Elements.address_add_le hi 0 stride
    rw [Nat.zero_add, Nat.mul_comm, ← hcells] at hinside
    exact step target i hi ((hcount ▸ hi).trans_le hsound.count_le) cells hinside
  obtain ⟨cells, hplain, hguarded, -⟩ := Elements.foldlM_guard (fun _ _ => True) hstep
    (fun _ _ _ _ _ _ => trivial) hsize (fun _ _ => trivial)
  exact ⟨target, cells, htarget, hplain, hguarded⟩

/-- The properties of a struct are copied by guarded calls. -/
theorem Kind.guardedCopy_struct (buffers : Buffers) (type : TypeDescriptor) (region other : Region)
    (m : Block) (a : Nat) (source : Block) (b : Nat) :
    (Kind.struct type).guardedCopy buffers region other m a source b = (do
      region.require (.struct type) 1 a
      other.require (.struct type) 1 b
      type.allProperties.foldlM (fun m p =>
        p.guardedCopy buffers (.row region.base (.struct type) 1 a) m (a + p.offset)
          (.row other.base (.struct type) 1 b) source (b + p.offset)) m) := by
  rw [guardedCopy, List.foldlM_subtype
    (g := fun m p => p.guardedCopy buffers (.row region.base (.struct type) 1 a) m (a + p.offset)
      (.row other.base (.struct type) 1 b) source (b + p.offset))
    fun _ _ _ => rfl, List.unattach_attach]

/-- The pairs of a map are constructed one after the other. -/
theorem Kind.guardedCopy_map (buffers : Buffers) (key value : Kind) (region other : Region)
    (m : Block) (a : Nat) (source : Block) (b : Nat) :
    (Kind.map key value).guardedCopy buffers region other m a source b = (do
      other.require (.map key value) 1 b
      let _ ← (Kind.map key value).guardedDestroy buffers region m a
      let target ← ((m.slots a).release.extend default (source.slots b).count (key.pairSize value)
        (key.pairAlign value)).mapError .storage
      let cells ← (List.range (source.slots b).count).foldlM (fun cells i =>
        MapValue.guardedConstructPair buffers (region.base + a) key value
          { target with cells := cells } i
          (.ofMap buffers (other.base + b) key value (source.slots b)) (source.slots b).cells
          (MapValue.keyAddress key value i)
          (.ofMap buffers (other.base + b) key value (source.slots b)) (source.slots b).cells
          (MapValue.valueAddress key value i)) target.cells
      return m.setCell a (.slots { target with cells := cells })) := by
  rw [guardedCopy]
  rfl

/-- A struct is copied by calls that keep the contract if its properties are. -/
theorem Kind.copies_struct {buffers : Buffers} {type : TypeDescriptor} (layout : type.SoundLayout)
    (fieldsSound : ∀ p ∈ type.allProperties, p.kind.Sound)
    (copies : ∀ p ∈ type.allProperties, p.kind.Copies buffers) :
    (Kind.struct type).Copies buffers := by
  intro region other m a source b admits admitsOther fits live liveOther
  cases live with
  | struct fields =>
    cases liveOther with
    | struct fieldsOther =>
      obtain ⟨m', hplain, hguarded⟩ := Property.foldlM_guard
        (f := fun m p => p.guardedCopy buffers (.row region.base (.struct type) 1 a) m
          (a + p.offset) (.row other.base (.struct type) 1 b) source (b + p.offset))
        (g := fun m p => p.copyAll m (a + p.offset) source (b + p.offset))
        (fun p m => ∀ i < p.dim, p.kind.Live m (Elements.address (a + p.offset) p.size i))
        layout.apart
        (fun p hp n hn hlive => by
          have hwithin := layout.within p hp
          have hfits : a + type.size ≤ n.size := hn ▸ fits
          exact Property.guardedCopy_ok (fieldsSound p hp) (copies p hp)
            (layout.row_admits admits.1 hp) (layout.row_admits admitsOther.1 hp) (by omega) hlive
            (fieldsOther p hp))
        (fun p hp n n' hsame hlive i hi =>
          (fieldsSound p hp).live_congr (hsame i hi) (hlive i hi)) rfl fields
      rw [guardedCopy_struct, Region.require_eq admits, ok_bind, Region.require_eq admitsOther,
        ok_bind, hguarded, copy, TypeDescriptor.copyFields_eq_foldlM, hplain]
      rfl

/-- An array is copied by calls that keep the contract if its elements are. -/
theorem Kind.copies_array {buffers : Buffers} (aligned : buffers.Aligned) {element : Kind}
    (elementSound : element.Sound) (copies : element.Copies buffers) :
    (Kind.array element).Copies buffers := by
  intro region other m a source b admits admitsOther fits live liveOther
  have hliveOther := ArrayValue.live_array_iff.mp liveOther
  obtain ⟨target, cells, htarget, hplain, hguarded⟩ :=
    hliveOther.storage.rebuild_guard elementSound.size_pos
      (fun target cells i => do
        let cells ← element.guardedConstruct (.ofArray buffers (region.base + a) element target)
          cells (Elements.address 0 element.size i)
        element.guardedCopy buffers (.ofArray buffers (region.base + a) element target)
          (.ofArray buffers (other.base + b) element (source.slots b)) cells
          (Elements.address 0 element.size i) (source.slots b).cells
          (Elements.address 0 element.size i))
      (fun cells i => element.copy
        (element.construct cells (Elements.address 0 element.size i))
        (Elements.address 0 element.size i) (source.slots b).cells
        (Elements.address 0 element.size i))
      (fun target i hi hcapacity n hn => copies.fresh elementSound
        (Region.ofArray_admits aligned elementSound hcapacity)
        (Region.ofArray_admits aligned elementSound (hi.trans_le hliveOther.storage.count_le)) hn
        (hliveOther.elementLive i hi))
  have hupdate : Elements.updateFrom (source.slots b).count element.size
      (fun cells x y => element.copy (element.construct cells x) x (source.slots b).cells y)
      target.cells 0 0 = .ok cells := hplain
  rw [guardedCopy, Region.require_eq admitsOther, ok_bind,
    (Kind.Sound.array elementSound).destroys aligned region m a admits live, ok_bind, copy,
    Slots.release]
  dsimp only
  rw [htarget, ok_bind, hupdate, Except.mapError, ok_bind, hguarded]
  rfl

/-- A map is copied by calls that keep the contract if its keys and values are. -/
theorem Kind.copies_map {buffers : Buffers} (aligned : buffers.Aligned) {key value : Kind}
    (keySound : key.Sound) (valueSound : value.Sound) (keyCopies : key.Copies buffers)
    (valueCopies : value.Copies buffers) : (Kind.map key value).Copies buffers := by
  intro region other m a source b admits admitsOther fits live liveOther
  have hliveOther := MapValue.live_map_iff.mp liveOther
  obtain ⟨target, cells, htarget, hplain, hguarded⟩ :=
    hliveOther.storage.rebuild_guard (pairSize_pos valueSound)
    (fun target cells i => MapValue.guardedConstructPair buffers (region.base + a) key value
      { target with cells := cells } i
      (.ofMap buffers (other.base + b) key value (source.slots b)) (source.slots b).cells
      (MapValue.keyAddress key value i)
      (.ofMap buffers (other.base + b) key value (source.slots b)) (source.slots b).cells
      (MapValue.valueAddress key value i))
    (fun cells i => MapValue.constructPair key value cells i (source.slots b).cells
      (MapValue.keyAddress key value i) (source.slots b).cells
      (MapValue.valueAddress key value i))
    (fun target i hi hcapacity n hn =>
      have hother := hi.trans_le hliveOther.storage.count_le
      MapValue.guardedConstructPair_ok aligned keySound valueSound keyCopies valueCopies
        (region.base + a) { target with cells := n } hcapacity hn
        (Region.ofMap_admits_key aligned keySound valueSound hother)
        (hliveOther.pairLive i hi).1
        (Region.ofMap_admits_value aligned keySound valueSound hother)
        (hliveOther.pairLive i hi).2)
  have hupdate : Elements.updateFrom (source.slots b).count (key.pairSize value)
      (fun cells x y => do
        let cells ← key.copy (key.construct cells x) x (source.slots b).cells y
        value.copy (value.construct cells (x + key.pairValueOffset value))
          (x + key.pairValueOffset value) (source.slots b).cells
          (y + key.pairValueOffset value)) target.cells 0 0 = .ok cells := hplain
  rw [guardedCopy_map, Region.require_eq admitsOther, ok_bind,
    (Kind.Sound.map keySound valueSound).destroys aligned region m a admits live, ok_bind, copy,
    Slots.release, htarget, ok_bind, hupdate, Except.mapError, ok_bind, hguarded]
  rfl

/-- Live values are copied by calls that keep the contract. -/
theorem Kind.Sound.copies {buffers : Buffers} (aligned : buffers.Aligned) {kind : Kind}
    (sound : kind.Sound) : kind.Copies buffers := by
  induction sound with
  | struct layout fieldsSound ih => exact copies_struct layout fieldsSound ih
  | array elementSound ih => exact copies_array aligned elementSound ih
  | map keySound valueSound ihKey ihValue =>
    exact copies_map aligned keySound valueSound ihKey ihValue
  | bool _ | scalar _ | string =>
    intro region other m a source b admits admitsOther _ _ _
    rw [guardedCopy, Region.require_eq admits, ok_bind, Region.require_eq admitsOther]
    · rfl
    all_goals simp

end PropertyReflection
