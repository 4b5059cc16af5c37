import Mathlib
import PropertyReflection.Proofs.Footprint

/-!
# Live values

A value is live if the storage of every container in it is as the operations on storage leave it:
its slots are allocated, and every element has cells.  `Slots.Sound` says this of one storage and
`Kind.Live` of all containers in a value.

Storage that was allocated once can be allocated again for as many elements or fewer, so a live
value can always be copied.
-/

namespace PropertyReflection

/-! ### Storage -/

theorem alignUp_mono {x y : Nat} (h : x ≤ y) (align : Nat) : alignUp x align ≤ alignUp y align := by
  have hle : (x + align - 1) / align ≤ (y + align - 1) / align :=
    Nat.div_le_div_right (by omega)
  exact Nat.mul_le_mul_right align hle

namespace Slots

variable {α : Type} {slots grown : Slots α} {stride align additional : Nat}

/-- Fewer slots can be allocated too. -/
theorem layoutFault?_eq_none_of_le {capacity fewer : Nat} (h : fewer ≤ capacity)
    (fits : layoutFault? capacity stride align = none) :
    layoutFault? fewer stride align = none := by
  have hbytes : fewer * stride ≤ capacity * stride := Nat.mul_le_mul_right stride h
  have hrounded := alignUp_mono hbytes align
  unfold layoutFault? isAllocatable at fits ⊢
  grind

/-- The slots that can be allocated can be counted in a machine word. -/
theorem lt_wordLimit_of_layoutFault?_eq_none {capacity : Nat} (pos : 0 < stride)
    (fits : layoutFault? capacity stride align = none) : capacity < wordLimit := by
  have hle : capacity ≤ capacity * stride := Nat.le_mul_of_pos_right capacity pos
  unfold layoutFault? at fits
  split at fits
  · exact absurd fits (by simp)
  · omega

/-- Storage as the operations on it leave it. -/
structure Sound (slots : Slots α) (stride align : Nat) : Prop where
  count_le : slots.count ≤ slots.capacity
  /-- Storage without slots has no allocation; the first allocation is for at least four. -/
  allocated : slots.capacity = 0 ∨
    4 ≤ slots.capacity ∧ layoutFault? slots.capacity stride align = none
  /-- Every element has its cells. -/
  cells_size : slots.count * stride ≤ slots.cells.size

theorem sound_empty (stride align : Nat) : (empty : Slots α).Sound stride align :=
  ⟨le_refl 0, Or.inl rfl, by simp [empty]⟩

/-- Making room leaves the storage sound, and there is room. -/
theorem Sound.reserve (h : slots.Sound stride align)
    (ok : slots.reserve additional stride align = .ok grown) :
    grown.Sound stride align ∧ grown.count + additional ≤ grown.capacity := by
  obtain ⟨hcount, hcells⟩ := count_reserve ok
  unfold Slots.reserve at ok
  simp only at ok
  split at ok
  · exact absurd ok (by simp)
  split at ok
  · next hroom =>
    obtain rfl : slots = grown := Except.ok.inj ok
    exact ⟨h, hroom⟩
  split at ok
  · exact absurd ok (by simp)
  · next hfits =>
    obtain rfl := Except.ok.inj ok
    have hfour : 4 ≤ slots.grownCapacity (slots.count + additional) := le_max_right _ _
    have hroom : slots.count + additional ≤ slots.grownCapacity (slots.count + additional) :=
      (le_max_left _ _).trans (le_max_left _ _)
    exact ⟨⟨(Nat.le_add_right _ _).trans hroom, Or.inr ⟨hfour, hfits⟩, h.cells_size⟩, hroom⟩

/-- Taking slots into use is making room, counting them, and cells for them. -/
theorem extend_eq_of_reserve (fresh : α)
    (ok : slots.reserve additional stride align = .ok grown) :
    slots.extend fresh additional stride align = .ok
      { count := slots.count + additional
        capacity := grown.capacity
        cells := slots.cells ++
          Array.replicate ((slots.count + additional) * stride - slots.cells.size) fresh } := by
  obtain ⟨hcount, hcells⟩ := count_reserve ok
  rw [extend, ok, ← hcount, ← hcells]
  rfl

/-- Slots are taken into use only if there is room for them. -/
theorem extend_eq_error_of_reserve (fresh : α) {fault : StorageFault}
    (error : slots.reserve additional stride align = .error fault) :
    slots.extend fresh additional stride align = .error fault := by
  rw [extend, error]
  rfl

/-- Storage stays sound when slots are taken into use. -/
theorem Sound.extend (h : slots.Sound stride align) {fresh : α}
    (ok : slots.extend fresh additional stride align = .ok grown) : grown.Sound stride align := by
  cases hreserve : slots.reserve additional stride align with
  | error fault =>
    rw [extend_eq_error_of_reserve fresh hreserve] at ok
    exact absurd ok (by simp)
  | ok room =>
    rw [extend_eq_of_reserve fresh hreserve] at ok
    obtain rfl := Except.ok.inj ok
    obtain ⟨hsound, hroom⟩ := h.reserve hreserve
    rw [(count_reserve hreserve).1] at hroom
    refine ⟨hroom, hsound.allocated, ?_⟩
    simp only [Array.size_append, Array.size_replicate]
    omega

/-- The cells before a gap stay where they are. -/
theorem getElem?_removeAt_before {index x : Nat} (h : x < index * stride)
    (hindex : index * stride ≤ slots.cells.size) :
    (slots.removeAt index stride).cells[x]? = slots.cells[x]? := by
  have hsize : (slots.cells.extract 0 (index * stride)).size = index * stride := by
    simp [hindex]
  rw [removeAt, Array.append_assoc, Array.getElem?_append_left (by omega),
    Array.getElem?_extract, if_pos (by omega), Nat.zero_add]

/-- The cells behind a gap move down by one slot. -/
theorem getElem?_removeAt_behind {index x : Nat} (h : index * stride ≤ x)
    (hindex : index < slots.count) (hx : x + stride < slots.count * stride)
    (hcells : slots.count * stride ≤ slots.cells.size) :
    (slots.removeAt index stride).cells[x]? = slots.cells[x + stride]? := by
  have hnext : (index + 1) * stride ≤ slots.count * stride := Nat.mul_le_mul_right stride hindex
  have hsucc : (index + 1) * stride = index * stride + stride := Nat.succ_mul index stride
  have hfront : (slots.cells.extract 0 (index * stride)).size = index * stride := by
    simp
    omega
  have hback : (slots.cells.extract ((index + 1) * stride) (slots.count * stride)).size =
      slots.count * stride - (index + 1) * stride := by
    simp
    omega
  rw [removeAt, Array.append_assoc, Array.getElem?_append_right (by omega),
    Array.getElem?_append_left (by omega), Array.getElem?_extract, if_pos (by omega)]
  congr 1
  omega

/-- Closing a gap leaves storage sound. -/
theorem Sound.removeAt {index : Nat} (h : slots.Sound stride align) (hindex : index < slots.count) :
    (slots.removeAt index stride).Sound stride align := by
  have hcount := h.count_le
  have hcells := h.cells_size
  have hnext : (index + 1) * stride ≤ slots.count * stride := Nat.mul_le_mul_right stride hindex
  have hsucc : (index + 1) * stride = index * stride + stride := Nat.succ_mul index stride
  have hpred : (slots.count - 1) * stride = slots.count * stride - stride := Nat.sub_one_mul _ _
  refine ⟨?_, h.allocated, ?_⟩
  · rw [count_removeAt, capacity_removeAt]
    omega
  · rw [count_removeAt]
    simp only [Slots.removeAt, Array.size_append, Array.size_extract]
    omega

/-- New storage can be made for as many elements as some sound storage has. -/
theorem Sound.reserve_empty (h : slots.Sound stride align) (pos : 0 < stride) :
    ∃ room : Slots α, (Slots.empty : Slots α).reserve slots.count stride align = .ok room := by
  have hcount := h.count_le
  by_cases hzero : slots.count = 0
  · exact ⟨.empty, by simp [Slots.reserve, empty, hzero, wordLimit]⟩
  obtain ⟨hfour, hfits⟩ := h.allocated.resolve_left (by omega)
  have hword := lt_wordLimit_of_layoutFault?_eq_none pos hfits
  have hgrown : (Slots.empty : Slots α).grownCapacity slots.count ≤ slots.capacity := by
    simp only [grownCapacity, empty]
    omega
  have hfits' := layoutFault?_eq_none_of_le hgrown hfits
  refine ⟨{ (Slots.empty : Slots α) with
    capacity := (Slots.empty : Slots α).grownCapacity slots.count }, ?_⟩
  have hlimit : ¬ wordLimit ≤ slots.count := by omega
  have hroom : ¬ slots.count ≤ (Slots.empty : Slots α).capacity := by
    simp only [empty]
    omega
  have hcountEmpty : (Slots.empty : Slots α).count + slots.count = slots.count := by simp [empty]
  rw [Slots.reserve, hcountEmpty]
  simp only [hlimit, hroom, if_false, hfits']

/-- New storage for as many elements as some sound storage has consists of fresh cells. -/
theorem Sound.extend_empty (h : slots.Sound stride align) (pos : 0 < stride) (fresh : α) :
    ∃ target : Slots α, (Slots.empty : Slots α).extend fresh slots.count stride align = .ok target ∧
      target.Sound stride align ∧ target.count = slots.count ∧
      target.cells.size = slots.count * stride := by
  obtain ⟨room, hroom⟩ := h.reserve_empty pos
  have ok := extend_eq_of_reserve fresh hroom
  refine ⟨_, ok, (sound_empty stride align).extend ok, ?_, ?_⟩
  · simp [empty]
  · simp [empty]

end Slots

/-! ### Values -/

/-- The storage of every container in the value at an address is sound. -/
inductive Kind.Live : Kind → Block → Nat → Prop where
  | bool (mask : UInt8) (m : Block) (a : Nat) : Kind.Live (.bool mask) m a
  | scalar (s : Scalar) (m : Block) (a : Nat) : Kind.Live (.scalar s) m a
  | string (m : Block) (a : Nat) : Kind.Live .string m a
  | struct {type : TypeDescriptor} {m : Block} {a : Nat}
    (fields : ∀ p ∈ type.allProperties, ∀ i < p.dim,
      p.kind.Live m (Elements.address (a + p.offset) p.size i)) : Kind.Live (.struct type) m a
  | array {element : Kind} {m : Block} {a : Nat}
    (storage : (m.slots a).Sound element.size element.align)
    (elements : ∀ i < (m.slots a).count,
      element.Live (m.slots a).cells (Elements.address 0 element.size i)) :
    Kind.Live (.array element) m a
  | map {key value : Kind} {m : Block} {a : Nat}
    (storage : (m.slots a).Sound (key.pairSize value) (key.pairAlign value))
    (keys : ∀ i < (m.slots a).count,
      key.Live (m.slots a).cells (Elements.address 0 (key.pairSize value) i))
    (values : ∀ i < (m.slots a).count,
      value.Live (m.slots a).cells
        (Elements.address 0 (key.pairSize value) i + key.pairValueOffset value)) :
    Kind.Live (.map key value) m a

namespace Kind

variable {kind : Kind} {m n : Block} {a b : Nat}

/-- Whether a value is live depends on its own cells only. -/
theorem Sound.live_congr_cells (sound : kind.Sound) (h : m.SameCells a n b kind.size)
    (live : kind.Live n b) : kind.Live m a := by
  induction sound generalizing m a n b with
  | bool _ => exact .bool _ m a
  | scalar s => exact .scalar s m a
  | string => exact .string m a
  | struct layout _ ih =>
    cases live with
    | struct fields =>
      exact .struct fun p hp i hi =>
        ih p hp (layout.sameCells_element h hp hi) (fields p hp i hi)
  | array _ _ =>
    have hslots := Block.slots_congr (h.first handleSize_pos)
    cases live with
    | array storage elements => exact .array (hslots ▸ storage) (hslots ▸ elements)
  | map _ _ _ _ =>
    have hslots := Block.slots_congr (h.first handleSize_pos)
    cases live with
    | map storage keys values => exact .map (hslots ▸ storage) (hslots ▸ keys) (hslots ▸ values)

/-- Whether a value is live depends on nothing but what belongs to it. -/
theorem Sound.live_congr (sound : kind.Sound) (h : kind.SameIn m a n b) (live : kind.Live n b) :
    kind.Live m a := by
  cases kind with
  | bool mask => exact .bool mask m a
  | _ => exact sound.live_congr_cells h live

end Kind

/-! ### Default values are live -/

/-- A row in which every step puts something into its element, which stays there as long as nobody
touches the element. -/
theorem Elements.update_done {count stride base size : Nat} (f : Block → Nat → Block)
    (Done : Nat → Block → Prop)
    (step : ∀ i < count, ∀ m : Block, m.size = size →
      m.ChangedOnly (f m (address base stride i)) (address base stride i) stride ∧
        Done i (f m (address base stride i)))
    (stable : ∀ i < count, ∀ m m' : Block,
      m'.SameCells (address base stride i) m (address base stride i) stride → Done i m → Done i m')
    {m : Block} (hsize : m.size = size) :
    ∀ i < count, Done i (Elements.update count stride f m base) := by
  have hstep : ∀ i < count, ∀ m : Block, m.size = size →
      ∃ m', Except.ok (f m (address base stride i)) = (.ok m' : Except StorageFault Block) ∧
        m.ChangedOnly m' (address base stride i) stride ∧ Done i m' :=
    fun i hi m hm => ⟨_, rfl, step i hi m hm⟩
  obtain ⟨m', hok, -, hdone⟩ : ∃ m',
      Elements.updateFrom count stride (fun m x _ => .ok (f m x)) m base 0 = .ok m' ∧
        m.ChangedOnly m' base (stride * count) ∧ ∀ i < count, Done i m' :=
    Elements.updateFrom_ok _ Done hstep stable hsize
  have hupdate : Elements.updateFrom count stride (fun m x _ => .ok (f m x)) m base 0 =
      .ok (Elements.update count stride f m base) := List.foldlM_pure
  obtain rfl : Elements.update count stride f m base = m' := Except.ok.inj (hupdate.symm.trans hok)
  exact hdone

/-- Construction of a row of elements makes of each element what it makes of a single one, if that
depends on nothing but what belongs to the element. -/
theorem Property.construct_done {p : Property} (sound : p.kind.Sound) (Done : Block → Nat → Prop)
    (made : ∀ (m : Block) (a : Nat), a + p.size ≤ m.size → Done (p.kind.construct m a) a)
    (congr : ∀ (m n : Block) (a : Nat), p.kind.SameIn m a n a → Done n a → Done m a)
    {m : Block} {a : Nat} (fits : a + p.totalSize ≤ m.size) :
    ∀ i < p.dim, Done (p.construct m a) (Elements.address a p.size i) := by
  refine Elements.update_done p.kind.construct (fun i n => Done n (Elements.address a p.size i))
    (fun i hi n hn => ⟨sound.changedOnly_construct n _, made n _ ?_⟩)
    (fun i _ n n' hsame => congr n' n _ (.of_sameCells hsame)) rfl
  exact (Elements.address_add_le hi a p.size).trans (hn ▸ fits)

/-- Construction of a struct makes of each element of each property what it makes of a single value:
the properties that come later have no bit in common with it. -/
theorem TypeDescriptor.SoundLayout.construct_done {type : TypeDescriptor}
    (layout : type.SoundLayout) (fieldsSound : ∀ p ∈ type.allProperties, p.kind.Sound)
    (Done : Kind → Block → Nat → Prop)
    (made : ∀ p ∈ type.allProperties, ∀ (m : Block) (a : Nat), a + p.size ≤ m.size →
      Done p.kind (p.kind.construct m a) a)
    (congr : ∀ p ∈ type.allProperties, ∀ (m n : Block) (a : Nat), p.kind.SameIn m a n a →
      Done p.kind n a → Done p.kind m a)
    {m : Block} {a : Nat} (fits : a + type.size ≤ m.size) :
    ∀ p ∈ type.allProperties, ∀ i < p.dim, Done p.kind ((Kind.struct type).construct m a)
      (Elements.address (a + p.offset) p.size i) := by
  have hstep : ∀ p ∈ type.allProperties, ∀ n : Block, n.size = m.size →
      ∃ n', Except.ok (p.constructIn n a) = (.ok n' : Except StorageFault Block) ∧
        p.Confined n n' (a + p.offset) ∧
        ∀ i < p.dim, Done p.kind n' (Elements.address (a + p.offset) p.size i) := by
    intro p hp n hn
    have hwithin := layout.within p hp
    refine ⟨_, rfl, Property.confined_construct (fieldsSound p hp) n _, ?_⟩
    exact Property.construct_done (fieldsSound p hp) (Done p.kind) (made p hp) (congr p hp)
      (by omega)
  obtain ⟨m', hok, -, -, hdone⟩ := Property.eachApart_ok
    (fun n p => .ok (p.constructIn n a))
    (fun p n => ∀ i < p.dim, Done p.kind n (Elements.address (a + p.offset) p.size i))
    layout.apart layout.within hstep
    (fun p hp n n' hsame hmade i hi => congr p hp n' n _ (hsame i hi) (hmade i hi))
    (m.changedOnly_clear a type.size).size_eq
  have hfold : type.allProperties.foldlM (fun n p => Except.ok (p.constructIn n a))
      (m.clear a type.size) =
        (.ok ((Kind.struct type).construct m a) : Except StorageFault Block) := by
    rw [Kind.construct, TypeDescriptor.constructFields_eq_foldl]
    exact List.foldlM_pure
  obtain rfl : (Kind.struct type).construct m a = m' := Except.ok.inj (hfold.symm.trans hok)
  exact hdone

/-- A new array has no storage. -/
theorem Kind.slots_construct_array (element : Kind) {m : Block} {a : Nat}
    (fits : a + handleSize ≤ m.size) :
    ((Kind.array element).construct m a).slots a = .empty := by
  rw [construct]
  exact Block.slots_placeHandle (lt_of_handle_fits fits) .empty

/-- A new map has no storage. -/
theorem Kind.slots_construct_map (key value : Kind) {m : Block} {a : Nat}
    (fits : a + handleSize ≤ m.size) :
    ((Kind.map key value).construct m a).slots a = .empty := by
  rw [construct]
  exact Block.slots_placeHandle (lt_of_handle_fits fits) .empty

/-- A default value is live. -/
theorem Kind.Sound.live_construct {kind : Kind} (sound : kind.Sound) {m : Block} {a : Nat}
    (fits : a + kind.size ≤ m.size) : kind.Live (kind.construct m a) a := by
  induction sound generalizing m a with
  | @bool mask _ => exact .bool mask _ a
  | scalar s => exact .scalar s _ a
  | string => exact .string _ a
  | @struct type layout fieldsSound ih =>
    exact .struct (layout.construct_done fieldsSound Kind.Live (fun p hp _ _ hfits => ih p hp hfits)
      (fun p hp _ _ _ hsame => (fieldsSound p hp).live_congr hsame) fits)
  | @array element _ _ =>
    have hslots := slots_construct_array element fits
    refine .array ?_ ?_ <;> rw [hslots]
    · exact Slots.sound_empty _ _
    · exact fun i hi => absurd hi (Nat.not_lt_zero i)
  | @map key value _ _ _ _ =>
    have hslots := slots_construct_map key value fits
    refine .map ?_ ?_ ?_ <;> rw [hslots]
    · exact Slots.sound_empty _ _
    · exact fun i hi => absurd hi (Nat.not_lt_zero i)
    · exact fun i hi => absurd hi (Nat.not_lt_zero i)

end PropertyReflection
