import Mathlib
import PropertyReflection.Proofs.DeepCopy
import PropertyReflection.Proofs.GuardedCalls
import PropertyReflection.Proofs.MapEntries
import PropertyReflection.Proofs.ReportedExtents

/-!
# The memory contract in nested calls

A value whose address keeps the contract consists of values whose addresses keep it.  For this the
layouts have to be sound, and the size of every kind has to be a multiple of its alignment, or the
second element of a row would not be aligned.  In a container there is also the storage: it starts
where the allocator was asked to start it, and has as many slots as there are elements or more.

What an operation passes on while it works depends on what it has done so far.  A walk through
elements or properties that lie apart leaves those alone that are still to come, which is why the
guard never stops it: `Elements.foldlM_guard` and `Property.foldlM_guard`.

### Outline

* the addresses: `Region.row_admits`, `TypeDescriptor.SoundLayout.row_admits`,
  `Region.ofArray_admits`, `Region.ofMap_admits_key` and `Region.ofMap_admits_value`;
* walks of guarded steps;
* for each operation that no guard stops it, by induction on sound kinds: `Kind.Sound.constructs`,
  `Kind.Sound.destroys`, `Kind.Sound.copies`, `Kind.Sound.compares` and `Kind.Sound.hashes`.
-/

namespace PropertyReflection

/-- Every allocation starts at an address with the alignment that was asked for. -/
def Buffers.Aligned (buffers : Buffers) : Prop :=
  ∀ owner capacity align, align ∣ buffers owner capacity align

/-! ### Addresses -/

/-- A key takes no more than its pair. -/
theorem Kind.size_le_pairSize {key value : Kind} (valueSound : value.Sound) :
    key.size ≤ key.pairSize value :=
  (size_le_pairValueOffset valueSound).trans
    ((Nat.le_add_right _ _).trans (pairValueOffset_add_size_le valueSound))

namespace Region

variable {region : Region} {kind element key value : Kind} {buffers : Buffers}
  {base owner count x i : Nat} {storage pairs : Slots Cell}

theorem require_eq (h : region.Admits kind count x) : region.require kind count x = .ok () :=
  if_pos h

/-- Each element of an aligned row is aligned. -/
theorem row_admits (sound : kind.Sound) (aligned : kind.align ∣ base + x) (hi : i < count) :
    (row base kind count x).Admits kind 1 (Elements.address x kind.size i) := by
  refine ⟨?_, Nat.le_add_right _ _, ?_⟩
  · rw [row, Elements.address, ← Nat.add_assoc]
    exact dvd_add aligned (sound.align_dvd_size.mul_left i)
  · rw [Nat.mul_one]
    exact Elements.address_add_le hi x kind.size

/-- Each element of an array lies in the allocated slots. -/
theorem ofArray_admits (aligned : buffers.Aligned) (sound : element.Sound)
    (hi : i < storage.capacity) :
    (ofArray buffers owner element storage).Admits element 1
      (Elements.address 0 element.size i) := by
  refine ⟨?_, Nat.zero_le _, ?_⟩
  · rw [Elements.address, Nat.zero_add]
    exact dvd_add (aligned _ _ _) (sound.align_dvd_size.mul_left i)
  · have hinside := Elements.address_add_le hi 0 element.size
    rw [Nat.zero_add, Nat.mul_comm element.size storage.capacity] at hinside
    rwa [Nat.mul_one]

/-- A pair of an aligned map begins at an address that suits its key and its value. -/
theorem pairAlign_dvd (aligned : buffers.Aligned) (key value : Kind) (i : Nat) :
    key.pairAlign value ∣ (ofMap buffers owner key value pairs).base
      + MapValue.keyAddress key value i := by
  rw [MapValue.keyAddress, Elements.address, Nat.zero_add]
  exact dvd_add (aligned _ _ _) ((dvd_alignUp _ _).mul_left i)

/-- Each pair of a map lies in the allocated slots. -/
theorem keyAddress_add_le (hi : i < pairs.capacity) :
    MapValue.keyAddress key value i + key.pairSize value ≤
      (ofMap buffers owner key value pairs).stop := by
  have hinside := Elements.address_add_le hi 0 (key.pairSize value)
  rwa [Nat.zero_add, Nat.mul_comm] at hinside

theorem ofMap_admits_key (aligned : buffers.Aligned) (keySound : key.Sound)
    (valueSound : value.Sound) (hi : i < pairs.capacity) :
    (ofMap buffers owner key value pairs).Admits key 1 (MapValue.keyAddress key value i) := by
  have hpair : MapValue.keyAddress key value i + key.pairSize value ≤
      (ofMap buffers owner key value pairs).stop := keyAddress_add_le hi
  have hkeyEnd : key.size ≤ key.pairSize value := Kind.size_le_pairSize valueSound
  refine ⟨?_, Nat.zero_le _, by omega⟩
  exact (dvd_max_of_isPowerOfTwo keySound.align_pow valueSound.align_pow).trans
    (pairAlign_dvd aligned key value i)

theorem ofMap_admits_value (aligned : buffers.Aligned) (keySound : key.Sound)
    (valueSound : value.Sound) (hi : i < pairs.capacity) :
    (ofMap buffers owner key value pairs).Admits value 1 (MapValue.valueAddress key value i) := by
  have hpair : MapValue.keyAddress key value i + key.pairSize value ≤
      (ofMap buffers owner key value pairs).stop := keyAddress_add_le hi
  have hpairEnd : key.pairValueOffset value + value.size ≤ key.pairSize value :=
    Kind.pairValueOffset_add_size_le valueSound
  have haddress : MapValue.valueAddress key value i =
      MapValue.keyAddress key value i + key.pairValueOffset value := rfl
  refine ⟨?_, Nat.zero_le _, by omega⟩
  have hvalue : value.align ∣ key.pairAlign value := by
    rw [Kind.pairAlign, max_comm]
    exact dvd_max_of_isPowerOfTwo valueSound.align_pow keySound.align_pow
  rw [haddress, ← Nat.add_assoc]
  exact dvd_add (hvalue.trans (pairAlign_dvd aligned key value i)) (dvd_alignUp _ _)

end Region

/-- All elements of a property lie in an aligned instance, and are aligned in it. -/
theorem TypeDescriptor.SoundLayout.row_admits {type : TypeDescriptor} (layout : type.SoundLayout)
    {base a : Nat} (aligned : type.align ∣ base + a) {p : Property}
    (hp : p ∈ type.allProperties) :
    (Region.row base (.struct type) 1 a).Admits p.kind p.dim (a + p.offset) := by
  obtain ⟨hoffset, halign⟩ := layout.aligned p hp
  have hwithin := layout.within p hp
  refine ⟨?_, Nat.le_add_right _ _, ?_⟩
  · rw [Region.row, ← Nat.add_assoc]
    exact dvd_add (halign.trans aligned) hoffset
  · change a + p.offset + p.totalSize ≤ a + type.size * 1
    omega

/-! ### Walks -/

section Walks

variable {σ α : Type} {xs : List α}

/-- A walk in which no step is stopped is not stopped. -/
theorem foldlM_eq_ok {f : σ → α → Except CallFault σ} {g : σ → α → σ}
    (step : ∀ x ∈ xs, ∀ s, f s x = .ok (g s x)) (s : σ) : xs.foldlM f s = .ok (xs.foldl g s) := by
  induction xs generalizing s with
  | nil => rfl
  | cons x xs ih =>
    rw [List.foldlM_cons, step x List.mem_cons_self, ok_bind, List.foldl_cons]
    exact ih (fun y hy => step y (List.mem_cons_of_mem _ hy)) (g s x)

/-- A walk that looks whether all of a list have a property finds out. -/
theorem foldlM_and_eq_ok {f : Bool → α → Except CallFault Bool} {g : α → Bool}
    (step : ∀ x ∈ xs, ∀ same, f same x = .ok (same && g x)) (same : Bool) :
    xs.foldlM f same = .ok (same && xs.all g) := by
  rw [foldlM_eq_ok step]
  congr 1
  induction xs generalizing same with
  | nil => simp
  | cons x xs ih =>
    rw [List.foldl_cons, List.all_cons, ← Bool.and_assoc]
    exact ih (fun y hy => step y (List.mem_cons_of_mem _ hy)) _

/-- A walk that remembers the first hit finds it. -/
theorem foldlM_find_eq_ok {f : Option α → α → Except CallFault (Option α)} {g : α → Bool}
    (step : ∀ x ∈ xs, ∀ found, f found x = .ok (found.or (if g x then some x else none)))
    (found : Option α) : xs.foldlM f found = .ok (found.or (xs.find? g)) := by
  rw [foldlM_eq_ok step]
  congr 1
  induction xs generalizing found with
  | nil => simp
  | cons x xs ih =>
    rw [List.foldl_cons, ih fun y hy => step y (List.mem_cons_of_mem _ hy), Option.or_assoc,
      List.find?_cons]
    cases g x <;> rfl

end Walks

/-- A walk through a row, each step of which works on one element, goes through both with guards and
without if the element is ready when its turn comes. -/
theorem Elements.foldlM_guard {count stride base size : Nat}
    {f : Block → Nat → Except CallFault Block} {g : Block → Nat → Except StorageFault Block}
    (Ready : Nat → Block → Prop)
    (step : ∀ i < count, ∀ m : Block, m.size = size → Ready i m →
      ∃ m', g m i = .ok m' ∧ f m i = .ok m' ∧ m.ChangedOnly m' (address base stride i) stride)
    (stable : ∀ i < count, ∀ m m' : Block,
      m'.SameCells (address base stride i) m (address base stride i) stride →
      Ready i m → Ready i m')
    {m : Block} (hsize : m.size = size) (ready : ∀ i < count, Ready i m) :
    ∃ m', (List.range count).foldlM g m = .ok m' ∧ (List.range count).foldlM f m = .ok m' ∧
      m.ChangedOnly m' base (stride * count) := by
  induction count with
  | zero => exact ⟨m, rfl, rfl, .refl m _ _⟩
  | succ count ih =>
    obtain ⟨m₁, hg₁, hf₁, hchanged₁⟩ := ih (fun i hi => step i (by omega))
      (fun i hi => stable i (by omega)) (fun i hi => ready i (by omega))
    have hapart : base + stride * count ≤ address base stride count := by
      rw [address, Nat.mul_comm]
    have hready : Ready count m₁ := stable count (by omega) m m₁
      (hchanged₁.sameCells (Or.inr hapart)) (ready count (by omega))
    obtain ⟨m₂, hg₂, hf₂, hchanged₂⟩ :=
      step count (by omega) m₁ (hchanged₁.size_eq.trans hsize) hready
    have hlast := address_add_le (Nat.lt_succ_self count) base stride
    refine ⟨m₂, ?_, ?_, ?_⟩
    · rw [List.range_succ, List.foldlM_append, hg₁, ok_bind, List.foldlM_cons, hg₂]
      rfl
    · rw [List.range_succ, List.foldlM_append, hf₁, ok_bind, List.foldlM_cons, hf₂]
      rfl
    · have hwider : stride * count ≤ stride * (count + 1) :=
        Nat.mul_le_mul_left stride (Nat.le_succ count)
      exact (hchanged₁.mono (le_refl base) (by omega)).trans
        (hchanged₂.mono (Nat.le_add_right _ _) hlast)

/-- A walk through properties that lie apart, each step of which works on one property, goes through
both with guards and without if the property is ready when its turn comes. -/
theorem Property.foldlM_guard {properties : List Property} {a size : Nat}
    {f : Block → Property → Except CallFault Block}
    {g : Block → Property → Except StorageFault Block} (Ready : Property → Block → Prop)
    (apart : properties.Pairwise Property.Apart)
    (step : ∀ p ∈ properties, ∀ m : Block, m.size = size → Ready p m →
      ∃ m', g m p = .ok m' ∧ f m p = .ok m' ∧ p.Confined m m' (a + p.offset))
    (stable : ∀ p ∈ properties, ∀ m m' : Block,
      (∀ i < p.dim, p.kind.SameIn m' (Elements.address (a + p.offset) p.size i) m
        (Elements.address (a + p.offset) p.size i)) → Ready p m → Ready p m')
    {m : Block} (hsize : m.size = size) (ready : ∀ p ∈ properties, Ready p m) :
    ∃ m', properties.foldlM g m = .ok m' ∧ properties.foldlM f m = .ok m' := by
  induction properties generalizing m with
  | nil => exact ⟨m, rfl, rfl⟩
  | cons p rest ih =>
    obtain ⟨hfirst, hrest⟩ := List.pairwise_cons.mp apart
    obtain ⟨m₁, hg₁, hf₁, hconfined⟩ :=
      step p List.mem_cons_self m hsize (ready p List.mem_cons_self)
    obtain ⟨m₂, hg₂, hf₂⟩ := ih hrest (fun q hq => step q (List.mem_cons_of_mem _ hq))
      (fun q hq => stable q (List.mem_cons_of_mem _ hq))
      (hconfined.changedOnly.size_eq.trans hsize)
      (fun q hq => stable q (List.mem_cons_of_mem _ hq) m m₁
        (fun i hi => hconfined.sameIn (hfirst q hq) hi) (ready q (List.mem_cons_of_mem _ hq)))
    refine ⟨m₂, ?_, ?_⟩
    · rw [List.foldlM_cons, hg₁]
      exact hg₂
    · rw [List.foldlM_cons, hf₁]
      exact hf₂

namespace Property

variable {p : Property} {region other : Region} {x y : Nat}

/-- Each element of an admitted row lies in the row. -/
theorem element_admits (sound : p.kind.Sound) (admits : region.Admits p.kind p.dim x) {i : Nat}
    (hi : i < p.dim) :
    (Region.row region.base p.kind p.dim x).Admits p.kind 1 (Elements.address x p.size i) :=
  Region.row_admits sound admits.1 hi

/-- A row that the region admits is walked through. -/
theorem guardElements_eq {σ : Type} (admits : region.Admits p.kind p.dim x)
    (f : Region → σ → Nat → Except CallFault σ) (s : σ) :
    p.guardElements region x f s = (List.range p.dim).foldlM
      (fun s i => f (.row region.base p.kind p.dim x) s (Elements.address x p.size i)) s := by
  rw [guardElements, Region.require_eq admits, ok_bind]

theorem guardElementPairs_eq {σ : Type} (admits : region.Admits p.kind p.dim x)
    (admitsOther : other.Admits p.kind p.dim y)
    (f : Region → Region → σ → Nat → Nat → Except CallFault σ) (s : σ) :
    p.guardElementPairs region x other y f s = (List.range p.dim).foldlM
      (fun s i => f (.row region.base p.kind p.dim x) (.row other.base p.kind p.dim y) s
        (Elements.address x p.size i) (Elements.address y p.size i)) s := by
  rw [guardElementPairs, Region.require_eq admits, ok_bind, Region.require_eq admitsOther, ok_bind]

end Property

/-! ### Construction -/

/-- No guard stops the construction of a value at an admitted address. -/
def Kind.Constructs (kind : Kind) : Prop :=
  ∀ (region : Region) (m : Block) (a : Nat), region.Admits kind 1 a →
    kind.guardedConstruct region m a = .ok (kind.construct m a)

/-- The elements of a property are constructed if each of them is. -/
theorem Property.guardedConstruct_eq {p : Property} (sound : p.kind.Sound)
    (constructs : p.kind.Constructs) {region : Region} {x : Nat}
    (admits : region.Admits p.kind p.dim x) (m : Block) :
    p.guardedConstruct region m x = .ok (p.construct m x) := by
  rw [guardedConstruct, guardElements_eq admits]
  exact foldlM_eq_ok
    (fun i hi m => constructs _ m _ (element_admits sound admits (List.mem_range.mp hi))) m

/-- The properties of a struct are constructed by guarded calls. -/
theorem Kind.guardedConstruct_struct (type : TypeDescriptor) (region : Region) (m : Block)
    (a : Nat) : (Kind.struct type).guardedConstruct region m a = (do
      region.require (.struct type) 1 a
      type.allProperties.foldlM (fun m p =>
        p.guardedConstruct (.row region.base (.struct type) 1 a) m (a + p.offset))
        (m.clear a type.size)) := by
  rw [guardedConstruct, List.foldlM_subtype
    (g := fun m p => p.guardedConstruct (.row region.base (.struct type) 1 a) m (a + p.offset))
    fun _ _ _ => rfl, List.unattach_attach]

/-- A value is constructed by calls that keep the contract. -/
theorem Kind.Sound.constructs {kind : Kind} (sound : kind.Sound) : kind.Constructs := by
  induction sound with
  | @struct type layout fieldsSound ih =>
    intro region m a admits
    rw [guardedConstruct_struct, Region.require_eq admits, ok_bind, construct,
      TypeDescriptor.constructFields_eq_foldl]
    refine foldlM_eq_ok (fun p hp m => ?_) _
    exact Property.guardedConstruct_eq (fieldsSound p hp) (ih p hp)
      (layout.row_admits admits.1 hp) m
  | bool _ | scalar _ | string | array _ _ | map _ _ _ _ =>
    intro region m a admits
    rw [guardedConstruct, Region.require_eq admits]
    · rfl
    · simp

/-! ### Destruction -/

/-- No guard stops the destruction of a live value at an admitted address. -/
def Kind.Destroys (buffers : Buffers) (kind : Kind) : Prop :=
  ∀ (region : Region) (m : Block) (a : Nat), region.Admits kind 1 a → kind.Live m a →
    kind.guardedDestroy buffers region m a = .ok (kind.destroy m a)

/-- The elements of a row are destroyed one after the other. -/
theorem Kind.Destroys.row {buffers : Buffers} {kind : Kind} (destroys : kind.Destroys buffers)
    (sound : kind.Sound) {region : Region} {count base : Nat} {m : Block}
    (admits : ∀ i < count, region.Admits kind 1 (Elements.address base kind.size i))
    (live : ∀ i < count, kind.Live m (Elements.address base kind.size i)) :
    (List.range count).foldlM
        (fun m i => kind.guardedDestroy buffers region m (Elements.address base kind.size i)) m =
      .ok (Elements.update count kind.size kind.destroy m base) := by
  obtain ⟨m', hplain, hguarded, -⟩ := Elements.foldlM_guard
    (f := fun m i => kind.guardedDestroy buffers region m (Elements.address base kind.size i))
    (g := fun m i => .ok (kind.destroy m (Elements.address base kind.size i)))
    (fun i m => kind.Live m (Elements.address base kind.size i))
    (fun i hi m _ hlive =>
      ⟨_, rfl, destroys region m _ (admits i hi) hlive, sound.changedOnly_destroy m _⟩)
    (fun i _ m m' hsame => sound.live_congr (.of_sameCells hsame)) rfl live
  obtain rfl : _ = m' := Except.ok.inj (List.foldlM_pure.symm.trans hplain)
  exact hguarded

theorem Property.guardedDestroy_eq {buffers : Buffers} {p : Property} (sound : p.kind.Sound)
    (destroys : p.kind.Destroys buffers) {region : Region} {x : Nat} {m : Block}
    (admits : region.Admits p.kind p.dim x)
    (live : ∀ i < p.dim, p.kind.Live m (Elements.address x p.size i)) :
    p.guardedDestroy buffers region m x = .ok (p.destroy m x) := by
  rw [guardedDestroy, guardElements_eq admits]
  exact destroys.row sound (fun i hi => element_admits sound admits hi) live

theorem Kind.guardedDestroy_struct (buffers : Buffers) (type : TypeDescriptor) (region : Region)
    (m : Block) (a : Nat) : (Kind.struct type).guardedDestroy buffers region m a = (do
      region.require (.struct type) 1 a
      type.allProperties.foldlM (fun m p =>
        p.guardedDestroy buffers (.row region.base (.struct type) 1 a) m (a + p.offset)) m) := by
  rw [guardedDestroy, List.foldlM_subtype
    (g := fun m p =>
      p.guardedDestroy buffers (.row region.base (.struct type) 1 a) m (a + p.offset))
    fun _ _ _ => rfl, List.unattach_attach]

/-- The storage of an array is sound, and all its elements are live. -/
structure ArrayValue.Live (element : Kind) (slots : Slots Cell) : Prop where
  storage : slots.Sound element.size element.align
  elementLive : ∀ i < slots.count, element.Live slots.cells (Elements.address 0 element.size i)

theorem ArrayValue.live_array_iff {element : Kind} {m : Block} {a : Nat} :
    (Kind.array element).Live m a ↔ Live element (m.slots a) := by
  constructor
  · intro h
    cases h with
    | array storage elements => exact ⟨storage, elements⟩
  · intro h
    exact .array h.storage h.elementLive

/-- All elements of an array are destroyed before its storage is given back. -/
theorem ArrayValue.guardedClear_eq {buffers : Buffers} (aligned : buffers.Aligned) {element : Kind}
    (sound : element.Sound) (destroys : element.Destroys buffers) (owner : Nat)
    {storage : Slots Cell} (live : Live element storage) :
    guardedClear buffers owner element storage = .ok (clear storage) := by
  have hadmits : ∀ i < storage.count, (Region.ofArray buffers owner element storage).Admits
      element 1 (Elements.address 0 element.size i) :=
    fun i hi => Region.ofArray_admits aligned sound (hi.trans_le live.storage.count_le)
  rw [guardedClear, destroys.row sound hadmits live.elementLive]
  rfl

theorem Kind.guardedDestroy_array (buffers : Buffers) (element : Kind) (region : Region)
    (m : Block) (a : Nat) : (Kind.array element).guardedDestroy buffers region m a = (do
      region.require (.array element) 1 a
      let _ ← ArrayValue.guardedClear buffers (region.base + a) element (m.slots a)
      return (Kind.array element).destroy m a) := by
  simp only [guardedDestroy, ArrayValue.guardedClear, bind_assoc, pure_bind]

namespace MapValue

variable {buffers : Buffers} {key value : Kind} {pairs : Slots Cell}

/-- In a live pair the key is destroyed and then the value, which is still live. -/
theorem guarded_destroyPair (aligned : buffers.Aligned) (keySound : key.Sound)
    (valueSound : value.Sound) (keyDestroys : key.Destroys buffers)
    (valueDestroys : value.Destroys buffers) (owner : Nat) {i : Nat} (hi : i < pairs.capacity)
    {cells : Block} (live : PairLive key value cells i) :
    (do
      let cells ← key.guardedDestroy buffers (.ofMap buffers owner key value pairs) cells
        (keyAddress key value i)
      value.guardedDestroy buffers (.ofMap buffers owner key value pairs) cells
        (valueAddress key value i)) =
      .ok (value.destroy (key.destroy cells (keyAddress key value i)) (valueAddress key value i)) ∧
    cells.ChangedOnly
      (value.destroy (key.destroy cells (keyAddress key value i)) (valueAddress key value i))
      (keyAddress key value i) (key.pairSize value) := by
  have hkeyEnd : key.size ≤ key.pairValueOffset value := Kind.size_le_pairValueOffset valueSound
  have hpairEnd : key.pairValueOffset value + value.size ≤ key.pairSize value :=
    Kind.pairValueOffset_add_size_le valueSound
  have haddress : valueAddress key value i = keyAddress key value i + key.pairValueOffset value :=
    rfl
  have hkeyChanged := keySound.changedOnly_destroy cells (keyAddress key value i)
  have hvalueChanged := valueSound.changedOnly_destroy
    (key.destroy cells (keyAddress key value i)) (valueAddress key value i)
  have hvalueLive :
      value.Live (key.destroy cells (keyAddress key value i)) (valueAddress key value i) :=
    valueSound.live_congr_cells (hkeyChanged.sameCells (Or.inr (by omega))) live.2
  constructor
  · rw [keyDestroys _ _ _ (Region.ofMap_admits_key aligned keySound valueSound hi) live.1, ok_bind]
    exact valueDestroys _ _ _ (Region.ofMap_admits_value aligned keySound valueSound hi) hvalueLive
  · exact (hkeyChanged.mono le_rfl (by omega)).trans (hvalueChanged.mono (by omega) (by omega))

/-- All pairs of a map are destroyed before its storage is given back. -/
theorem guardedClear_eq (aligned : buffers.Aligned) (keySound : key.Sound)
    (valueSound : value.Sound) (keyDestroys : key.Destroys buffers)
    (valueDestroys : value.Destroys buffers) (owner : Nat) (live : Live key value pairs) :
    guardedClear buffers owner key value pairs = .ok (clear pairs) := by
  obtain ⟨cells, -, hguarded, -⟩ := Elements.foldlM_guard
    (g := fun cells i => .ok (value.destroy (key.destroy cells (keyAddress key value i))
      (valueAddress key value i)))
    (fun i cells => PairLive key value cells i)
    (fun i hi cells _ hlive =>
      have hpair := guarded_destroyPair aligned keySound valueSound keyDestroys valueDestroys owner
        (hi.trans_le live.storage.count_le) hlive
      ⟨_, rfl, hpair.1, hpair.2⟩)
    (fun i _ cells cells' hsame => (entryAt_congr keySound valueSound hsame).2) rfl live.pairLive
  rw [guardedClear, hguarded]
  rfl

end MapValue

theorem Kind.guardedDestroy_map (buffers : Buffers) (key value : Kind) (region : Region)
    (m : Block) (a : Nat) : (Kind.map key value).guardedDestroy buffers region m a = (do
      region.require (.map key value) 1 a
      let _ ← MapValue.guardedClear buffers (region.base + a) key value (m.slots a)
      return (Kind.map key value).destroy m a) := by
  simp only [guardedDestroy, MapValue.guardedClear, bind_assoc, pure_bind]

/-- A live value is destroyed by calls that keep the contract. -/
theorem Kind.Sound.destroys {buffers : Buffers} (aligned : buffers.Aligned) {kind : Kind}
    (sound : kind.Sound) : kind.Destroys buffers := by
  induction sound with
  | @struct type layout fieldsSound ih =>
    intro region m a admits live
    cases live with
    | struct fields =>
      rw [guardedDestroy_struct, Region.require_eq admits, ok_bind, destroy,
        TypeDescriptor.destroyFields_eq_foldl]
      obtain ⟨m', hplain, hguarded⟩ := Property.foldlM_guard
        (f := fun m p =>
          p.guardedDestroy buffers (.row region.base (.struct type) 1 a) m (a + p.offset))
        (g := fun m p => .ok (p.destroyIn m a))
        (fun p m => ∀ i < p.dim, p.kind.Live m (Elements.address (a + p.offset) p.size i))
        layout.apart
        (fun p hp m _ hlive => ⟨_, rfl, Property.guardedDestroy_eq (fieldsSound p hp) (ih p hp)
          (layout.row_admits admits.1 hp) hlive, Property.confined_destroy (fieldsSound p hp) m _⟩)
        (fun p hp m m' hsame hlive i hi => (fieldsSound p hp).live_congr (hsame i hi) (hlive i hi))
        rfl fields
      obtain rfl : _ = m' := Except.ok.inj (List.foldlM_pure.symm.trans hplain)
      exact hguarded
  | array elementSound ih =>
    intro region m a admits live
    rw [guardedDestroy_array, Region.require_eq admits, ok_bind, ArrayValue.guardedClear_eq aligned
      elementSound ih (region.base + a) (ArrayValue.live_array_iff.mp live)]
    rfl
  | map keySound valueSound ihKey ihValue =>
    intro region m a admits live
    rw [guardedDestroy_map, Region.require_eq admits, ok_bind, MapValue.guardedClear_eq aligned
      keySound valueSound ihKey ihValue (region.base + a) (MapValue.live_map_iff.mp live)]
    rfl
  | bool _ | scalar _ | string =>
    intro region m a admits _
    rw [guardedDestroy, Region.require_eq admits]
    · rfl
    all_goals simp

/-! ### Comparison -/

/-- No guard stops the comparison of live values at admitted addresses. -/
def Kind.Compares (buffers : Buffers) (kind : Kind) : Prop :=
  ∀ (region other : Region) (m : Block) (a : Nat) (n : Block) (b : Nat),
    region.Admits kind 1 a → other.Admits kind 1 b → kind.Live m a → kind.Live n b →
    kind.guardedIdentical buffers region other m a n b = .ok (kind.identical m a n b)

/-- The elements of two properties are compared. -/
theorem Property.guardElementPairs_identical {buffers : Buffers} {p : Property}
    (sound : p.kind.Sound) (compares : p.kind.Compares buffers) {region other : Region}
    {x y : Nat} {m n : Block} (admits : region.Admits p.kind p.dim x)
    (admitsOther : other.Admits p.kind p.dim y)
    (live : ∀ i < p.dim, p.kind.Live m (Elements.address x p.size i))
    (liveOther : ∀ i < p.dim, p.kind.Live n (Elements.address y p.size i)) (same : Bool) :
    p.guardElementPairs region x other y (fun inside outside same x y => do
        return same && (← p.kind.guardedIdentical buffers inside outside m x n y)) same =
      .ok (same && p.identicalAll m x n y) := by
  rw [guardElementPairs_eq admits admitsOther]
  refine foldlM_and_eq_ok (fun i hi same => ?_) same
  have hi := List.mem_range.mp hi
  rw [compares _ _ m _ n _ (element_admits sound admits hi) (element_admits sound admitsOther hi)
    (live i hi) (liveOther i hi)]
  rfl

theorem Kind.guardedIdentical_struct (buffers : Buffers) (type : TypeDescriptor)
    (region other : Region) (m : Block) (a : Nat) (n : Block) (b : Nat) :
    (Kind.struct type).guardedIdentical buffers region other m a n b = (do
      region.require (.struct type) 1 a
      other.require (.struct type) 1 b
      type.allProperties.foldlM (fun same p =>
        p.guardElementPairs (.row region.base (.struct type) 1 a) (a + p.offset)
          (.row other.base (.struct type) 1 b) (b + p.offset) (fun inside outside same x y => do
            return same && (← p.kind.guardedIdentical buffers inside outside m x n y)) same)
        true) := by
  rw [guardedIdentical, List.foldlM_subtype
    (g := fun same p => p.guardElementPairs (.row region.base (.struct type) 1 a) (a + p.offset)
      (.row other.base (.struct type) 1 b) (b + p.offset) (fun inside outside same x y => do
        return same && (← p.kind.guardedIdentical buffers inside outside m x n y)) same)
    fun _ _ _ => rfl, List.unattach_attach]

/-- A search among live pairs looks at their keys. -/
theorem MapValue.guardedFind?_eq {buffers : Buffers} (aligned : buffers.Aligned) {key value : Kind}
    (keySound : key.Sound) (valueSound : value.Sound) (compares : key.Compares buffers)
    (owner : Nat) {pairs : Slots Cell} (live : Live key value pairs) {other : Region} {m : Block}
    {a : Nat} (admits : other.Admits key 1 a) (keyLive : key.Live m a) :
    guardedFind? buffers owner key value pairs other m a = .ok (findPair? key value pairs m a) := by
  refine foldlM_find_eq_ok (fun j hj found => ?_) none
  have hj := List.mem_range.mp hj
  have hcapacity := hj.trans_le live.storage.count_le
  rw [compares _ _ _ _ m a (Region.ofMap_admits_key aligned keySound valueSound hcapacity) admits
    (live.pairLive j hj).1 keyLive]
  rfl

/-- Each pair of a map is searched for in the other one. -/
theorem Kind.guardedIdentical_map (buffers : Buffers) (key value : Kind) (region other : Region)
    (m : Block) (a : Nat) (n : Block) (b : Nat) :
    (Kind.map key value).guardedIdentical buffers region other m a n b = (do
      region.require (.map key value) 1 a
      other.require (.map key value) 1 b
      if (m.slots a).count == (n.slots b).count then
        (List.range (m.slots a).count).foldlM (fun same i => do
          match ← MapValue.guardedFind? buffers (other.base + b) key value (n.slots b)
              (.ofMap buffers (region.base + a) key value (m.slots a)) (m.slots a).cells
              (MapValue.keyAddress key value i) with
          | some j =>
            return same && (← value.guardedIdentical buffers
              (.ofMap buffers (region.base + a) key value (m.slots a))
              (.ofMap buffers (other.base + b) key value (n.slots b)) (m.slots a).cells
              (MapValue.valueAddress key value i) (n.slots b).cells
              (MapValue.valueAddress key value j))
          | none => return false) true
      else return false) := by
  rw [guardedIdentical]
  rfl

/-- Two maps are identical if each pair of the first is found in the second. -/
theorem Kind.identical_map (key value : Kind) (m : Block) (a : Nat) (n : Block) (b : Nat) :
    (Kind.map key value).identical m a n b = ((m.slots a).count == (n.slots b).count &&
      (List.range (m.slots a).count).all fun i =>
        match findPair? key value (n.slots b) (m.slots a).cells
          (MapValue.keyAddress key value i) with
        | some j => value.identical (m.slots a).cells (MapValue.valueAddress key value i)
            (n.slots b).cells (MapValue.valueAddress key value j)
        | none => false) := by
  rw [identical]
  rfl

/-- Two maps are compared by calls that keep the contract if keys and values are. -/
theorem Kind.compares_map {buffers : Buffers} (aligned : buffers.Aligned) {key value : Kind}
    (keySound : key.Sound) (valueSound : value.Sound) (keyCompares : key.Compares buffers)
    (valueCompares : value.Compares buffers) : (Kind.map key value).Compares buffers := by
  intro region other m a n b admits admitsOther live liveOther
  have hlive := MapValue.live_map_iff.mp live
  have hliveOther := MapValue.live_map_iff.mp liveOther
  rw [guardedIdentical_map, Region.require_eq admits, ok_bind, Region.require_eq admitsOther,
    ok_bind, identical_map]
  cases hcount : (m.slots a).count == (n.slots b).count with
  | false => rfl
  | true =>
    refine foldlM_and_eq_ok (fun i hi same => ?_) true
    have hi := List.mem_range.mp hi
    have hpair := hlive.pairLive i hi
    have hcapacity := hi.trans_le hlive.storage.count_le
    rw [MapValue.guardedFind?_eq aligned keySound valueSound keyCompares _ hliveOther
      (Region.ofMap_admits_key aligned keySound valueSound hcapacity) hpair.1, ok_bind]
    cases hfound : findPair? key value (n.slots b) (m.slots a).cells
        (MapValue.keyAddress key value i) with
    | none => rw [Bool.and_false]; rfl
    | some j =>
      obtain ⟨hj, -⟩ := MapValue.of_findPair?_eq_some hfound
      dsimp only
      rw [valueCompares _ _ _ _ _ _
        (Region.ofMap_admits_value aligned keySound valueSound hcapacity)
        (Region.ofMap_admits_value aligned keySound valueSound
          (hj.trans_le hliveOther.storage.count_le)) hpair.2 (hliveOther.pairLive j hj).2]
      rfl

/-- Live values are compared by calls that keep the contract. -/
theorem Kind.Sound.compares {buffers : Buffers} (aligned : buffers.Aligned) {kind : Kind}
    (sound : kind.Sound) : kind.Compares buffers := by
  induction sound with
  | @struct type layout fieldsSound ih =>
    intro region other m a n b admits admitsOther live liveOther
    cases live with
    | struct fields =>
      cases liveOther with
      | struct fieldsOther =>
        rw [guardedIdentical_struct, Region.require_eq admits, ok_bind,
          Region.require_eq admitsOther, ok_bind, identical, TypeDescriptor.identicalFields_eq_all]
        refine foldlM_and_eq_ok (fun p hp same => ?_) true
        exact Property.guardElementPairs_identical (fieldsSound p hp) (ih p hp)
          (layout.row_admits admits.1 hp) (layout.row_admits admitsOther.1 hp) (fields p hp)
          (fieldsOther p hp) same
  | @array element elementSound ih =>
    intro region other m a n b admits admitsOther live liveOther
    have hlive := ArrayValue.live_array_iff.mp live
    have hliveOther := ArrayValue.live_array_iff.mp liveOther
    rw [guardedIdentical, Region.require_eq admits, ok_bind, Region.require_eq admitsOther, ok_bind,
      identical]
    dsimp only
    cases hcount : (m.slots a).count == (n.slots b).count with
    | false => rfl
    | true =>
      refine foldlM_and_eq_ok (fun i hi same => ?_) true
      have hi := List.mem_range.mp hi
      have hiOther : i < (n.slots b).count := (beq_iff_eq.mp hcount) ▸ hi
      rw [ih _ _ _ _ _ _
        (Region.ofArray_admits aligned elementSound (hi.trans_le hlive.storage.count_le))
        (Region.ofArray_admits aligned elementSound (hiOther.trans_le hliveOther.storage.count_le))
        (hlive.elementLive i hi) (hliveOther.elementLive i hiOther)]
      rfl
  | map keySound valueSound ihKey ihValue =>
    exact compares_map aligned keySound valueSound ihKey ihValue
  | bool _ | scalar _ | string =>
    intro region other m a n b admits admitsOther _ _
    rw [guardedIdentical, Region.require_eq admits, ok_bind, Region.require_eq admitsOther]
    · rfl
    all_goals simp

/-! ### Hashes -/

/-- No guard stops the hash of a live value at an admitted address. -/
def Kind.Hashes (buffers : Buffers) (kind : Kind) : Prop :=
  ∀ (region : Region) (m : Block) (a : Nat), region.Admits kind 1 a → kind.Live m a →
    kind.guardedHash buffers region m a = .ok (kind.hash m a)

theorem Property.guardedHash_eq {buffers : Buffers} {p : Property} (sound : p.kind.Sound)
    (hashes : p.kind.Hashes buffers) {region : Region} {x : Nat} {m : Block}
    (admits : region.Admits p.kind p.dim x)
    (live : ∀ i < p.dim, p.kind.Live m (Elements.address x p.size i)) :
    p.guardedHash buffers region m x = .ok (p.hashAll m x) := by
  have hstep : ∀ i ∈ List.range p.dim, ∀ mixed : UInt32, (do
      let h ← p.kind.guardedHash buffers (.row region.base p.kind p.dim x) m
        (Elements.address x p.size i)
      return if p.dim = 1 then h else hashCombine mixed h) =
        .ok (if p.dim = 1 then p.kind.hash m (Elements.address x p.size i)
          else hashCombine mixed (p.kind.hash m (Elements.address x p.size i))) := by
    intro i hi mixed
    have hi := List.mem_range.mp hi
    rw [hashes _ m _ (element_admits sound admits hi) (live i hi)]
    rfl
  rw [guardedHash, guardElements_eq admits, foldlM_eq_ok hstep, hashAll, Elements.hashAll]
  split
  · next hdim => simp [hdim, Elements.address]
  · rfl

theorem Kind.guardedHash_struct (buffers : Buffers) (type : TypeDescriptor) (region : Region)
    (m : Block) (a : Nat) : (Kind.struct type).guardedHash buffers region m a = (do
      region.require (.struct type) 1 a
      type.allProperties.foldlM (fun seed p => do
        return hashCombine seed
          (← p.guardedHash buffers (.row region.base (.struct type) 1 a) m (a + p.offset))) 0) := by
  rw [guardedHash, List.foldlM_subtype
    (g := fun seed p => do
      return hashCombine seed
        (← p.guardedHash buffers (.row region.base (.struct type) 1 a) m (a + p.offset)))
    fun _ _ _ => rfl, List.unattach_attach]

/-- A live value is hashed by calls that keep the contract. -/
theorem Kind.Sound.hashes {buffers : Buffers} (aligned : buffers.Aligned) {kind : Kind}
    (sound : kind.Sound) : kind.Hashes buffers := by
  induction sound with
  | @struct type layout fieldsSound ih =>
    intro region m a admits live
    cases live with
    | struct fields =>
      rw [guardedHash_struct, Region.require_eq admits, ok_bind, hash,
        TypeDescriptor.hashFields_eq_foldl]
      refine foldlM_eq_ok (fun p hp seed => ?_) 0
      rw [Property.guardedHash_eq (fieldsSound p hp) (ih p hp) (layout.row_admits admits.1 hp)
        (fields p hp)]
      rfl
  | @array element elementSound ih =>
    intro region m a admits live
    have hlive := ArrayValue.live_array_iff.mp live
    rw [guardedHash, Region.require_eq admits, ok_bind, hash]
    refine foldlM_eq_ok (fun i hi seed => ?_) _
    have hi := List.mem_range.mp hi
    rw [ih _ _ _ (Region.ofArray_admits aligned elementSound (hi.trans_le hlive.storage.count_le))
      (hlive.elementLive i hi)]
    rfl
  | @map key value keySound valueSound ihKey ihValue =>
    intro region m a admits live
    have hlive := MapValue.live_map_iff.mp live
    have hstep : ∀ i ∈ List.range (m.slots a).count, ∀ sum : UInt32, (do
        let k ← key.guardedHash buffers (.ofMap buffers (region.base + a) key value (m.slots a))
          (m.slots a).cells (MapValue.keyAddress key value i)
        let v ← value.guardedHash buffers (.ofMap buffers (region.base + a) key value (m.slots a))
          (m.slots a).cells (MapValue.valueAddress key value i)
        return sum + hashCombine k v) =
          .ok (sum + hashCombine
            (key.hash (m.slots a).cells (MapValue.keyAddress key value i))
            (value.hash (m.slots a).cells (MapValue.valueAddress key value i))) := by
      intro i hi sum
      have hpair := hlive.pairLive i (List.mem_range.mp hi)
      have hi := (List.mem_range.mp hi).trans_le hlive.storage.count_le
      rw [ihKey _ _ _ (Region.ofMap_admits_key aligned keySound valueSound hi) hpair.1, ok_bind,
        ihValue _ _ _ (Region.ofMap_admits_value aligned keySound valueSound hi) hpair.2]
      rfl
    rw [guardedHash, Region.require_eq admits, ok_bind, hash]
    dsimp only
    rw [foldlM_eq_ok hstep]
    rfl
  | bool _ | scalar _ | string =>
    intro region m a admits _
    rw [guardedHash, Region.require_eq admits]
    · rfl
    all_goals simp

end PropertyReflection
