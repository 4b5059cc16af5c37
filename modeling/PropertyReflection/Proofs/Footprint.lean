import Mathlib
import PropertyReflection.Memory.Frame
import PropertyReflection.Proofs.SoundLayout
import PropertyReflection.Value.Copying
import PropertyReflection.Value.Reading

/-!
# Footprints

Every value has a part of memory to itself: its cells, or a few bits of one cell if it is a boolean.
What a value reads as depends on this part only, and the operations on a value change nothing
outside it.  So values that lie apart cannot disturb each other.

### Outline

* `Block.SameCells` compares ranges, `Block.ChangedOnly` bounds what an operation has changed;
* `Kind.SameIn` is equality of the part that belongs to a value, and `Kind.Sound.read_congr` says
  that the reading depends on nothing else;
* `Property.Confined` bounds what has happened to a property, and `Property.Confined.sameIn` says
  that the properties apart from it are the same;
* `Elements.updateFrom_ok` and `Property.eachApart_ok`, for walks through a row of elements and
  through the properties of an instance;
* construction and destruction are confined.
-/

namespace PropertyReflection

theorem handleSize_pos : 0 < handleSize := by
  decide

/-- A representation that fits begins inside the block. -/
theorem lt_of_handle_fits {a size : Nat} (fits : a + handleSize ≤ size) : a < size :=
  Nat.lt_of_lt_of_le (Nat.lt_add_of_pos_right handleSize_pos) fits

namespace Block

variable {m m' m'' n k : Block} {a b c count : Nat}

/-! ### Equal ranges -/

/-- Two ranges of equally many cells have the same contents. -/
def SameCells (m : Block) (a : Nat) (n : Block) (b count : Nat) : Prop :=
  ∀ i < count, m.cell (a + i) = n.cell (b + i)

theorem SameCells.trans (h : m.SameCells a n b count) (h' : n.SameCells b k c count) :
    m.SameCells a k c count :=
  fun i hi => (h i hi).trans (h' i hi)

/-- Parts of equal ranges are equal. -/
theorem SameCells.part (h : m.SameCells a n b count) {distance length : Nat}
    (fits : distance + length ≤ count) :
    m.SameCells (a + distance) n (b + distance) length := by
  intro i hi
  rw [Nat.add_assoc, Nat.add_assoc]
  exact h (distance + i) (by omega)

theorem SameCells.first (h : m.SameCells a n b count) (pos : 0 < count) :
    m.cell a = n.cell b :=
  h 0 pos

theorem byte_congr (h : m.cell a = n.cell b) : m.byte a = n.byte b := by
  rw [byte, byte, h]

theorem text_congr (h : m.cell a = n.cell b) : m.text a = n.text b := by
  rw [text, text, h]

theorem slots_congr (h : m.cell a = n.cell b) : m.slots a = n.slots b := by
  rw [slots, slots, h]

/-- Words in equal ranges are equal, wherever they lie. -/
theorem SameCells.word_eq (h : m.SameCells a n b count) : m.word a count = n.word b count := by
  induction count generalizing a b with
  | zero => rfl
  | succ count ih =>
    have hrest : m.SameCells (a + 1) n (b + 1) count := h.part (by omega)
    rw [word, word, byte_congr (h.first (by omega)), ih hrest]

/-! ### Bounded changes -/

/-- Nothing outside a range has changed. -/
structure ChangedOnly (m m' : Block) (a count : Nat) : Prop where
  size_eq : m'.size = m.size
  cell_eq : ∀ x, x < a ∨ a + count ≤ x → m'.cell x = m.cell x

namespace ChangedOnly

theorem refl (m : Block) (a count : Nat) : m.ChangedOnly m a count :=
  ⟨rfl, fun _ _ => rfl⟩

theorem trans (h : m.ChangedOnly m' a count) (h' : m'.ChangedOnly m'' a count) :
    m.ChangedOnly m'' a count :=
  ⟨h'.size_eq.trans h.size_eq, fun x hx => (h'.cell_eq x hx).trans (h.cell_eq x hx)⟩

/-- A change inside a range is a change inside a larger one. -/
theorem mono (h : m.ChangedOnly m' a count) {b length : Nat} (hlow : b ≤ a)
    (hhigh : a + count ≤ b + length) : m.ChangedOnly m' b length :=
  ⟨h.size_eq, fun x hx => h.cell_eq x (by omega)⟩

/-- A range that does not meet the changed one is the same. -/
theorem sameCells (h : m.ChangedOnly m' a count) {b length : Nat}
    (apart : b + length ≤ a ∨ a + count ≤ b) : m'.SameCells b m b length :=
  fun i hi => h.cell_eq (b + i) (by omega)

/-- Changes inside a range add up to a change inside it. -/
theorem foldl {α : Type*} {f : Block → α → Block} {xs : List α} (m : Block)
    (step : ∀ x ∈ xs, ∀ m : Block, m.ChangedOnly (f m x) a count) :
    m.ChangedOnly (xs.foldl f m) a count := by
  induction xs generalizing m with
  | nil => exact refl m a count
  | cons x xs ih =>
    have hfirst := step x List.mem_cons_self m
    exact hfirst.trans (ih (f m x) fun y hy => step y (List.mem_cons_of_mem _ hy))

end ChangedOnly

theorem changedOnly_setCell (m : Block) (a : Nat) (c : Cell) :
    m.ChangedOnly (m.setCell a c) a 1 :=
  ⟨size_setCell m a c, fun _ hx => cell_setCell_of_ne (by omega) c⟩

theorem changedOnly_clear (m : Block) (a count : Nat) :
    m.ChangedOnly (m.clear a count) a count :=
  ⟨size_setRange m a _ count, fun _ hx => cell_setRange_of_outside hx _⟩

theorem changedOnly_setWord (m : Block) (a : Nat) (bits : UInt64) (count : Nat) :
    m.ChangedOnly (m.setWord a bits count) a count :=
  ⟨size_setWord m a bits count, fun _ hx => cell_setWord_of_outside hx bits⟩

theorem changedOnly_placeHandle (m : Block) (a : Nat) (c : Cell) :
    m.ChangedOnly (m.placeHandle a c) a handleSize :=
  ⟨size_placeHandle m a c, fun _ hx => cell_placeHandle_of_outside hx c⟩

theorem changedOnly_setBool (m : Block) (a : Nat) (mask : UInt8) (value : Bool) :
    m.ChangedOnly (m.setBool a mask value) a 1 :=
  ⟨size_setBool m a mask value, fun _ hx => cell_setBool_of_ne (by omega) mask value⟩

theorem changedOnly_modifySlots (m : Block) (a : Nat) (f : Slots Cell → Slots Cell) :
    m.ChangedOnly (m.modifySlots a f) a 1 := by
  refine ⟨Array.size_modify, fun x hx => ?_⟩
  have hne : a ≠ x := by omega
  simp [cell, modifySlots, Array.getD_eq_getD_getElem?, Array.getElem?_modify, hne]

/-- The bits of a byte that do not belong to a boolean stay when it is written, whether or not there
is such a byte. -/
theorem byte_setBool_outside (m : Block) (a : Nat) (mask : UInt8) (value : Bool) :
    (m.setBool a mask value).byte a &&& ~~~mask = m.byte a &&& ~~~mask := by
  by_cases hfull : mask = fullMask
  · have hnone : ~~~mask = 0 := by
      rw [hfull]
      decide
    rw [hnone, UInt8.and_zero, UInt8.and_zero]
  · by_cases hin : a < m.size
    · exact byte_setBool_and_not hin value hfull
    · have hsame : m.setBool a mask value = m := by
        rw [setBool, setByte, setCell, Array.setIfInBounds_eq_of_size_le (by omega)]
      rw [hsame]

end Block

/-! ### The part of memory that belongs to a value -/

namespace Kind

/-- What belongs to a value is the same in two places: its cells, or the bits of a boolean. -/
def SameIn : Kind → Block → Nat → Block → Nat → Prop
  | .bool mask, m, a, n, b => m.boolBits a mask = n.boolBits b mask
  | kind, m, a, n, b => m.SameCells a n b kind.size

variable {kind : Kind} {m n k : Block} {a b c : Nat}

/-- Values whose cells are the same are the same. -/
theorem SameIn.of_sameCells (h : m.SameCells a n b kind.size) : kind.SameIn m a n b := by
  cases kind with
  | bool mask => exact congrArg (· &&& mask) (Block.byte_congr (h.first Nat.one_pos))
  | _ => exact h

theorem SameIn.trans (h : kind.SameIn m a n b) (h' : kind.SameIn n b k c) :
    kind.SameIn m a k c := by
  cases kind with
  | bool mask => exact Eq.trans h h'
  | _ => exact Block.SameCells.trans h h'

end Kind

/-- Rows of elements that are the same are the same value. -/
theorem Value.ofElements_congr {dim : Nat} {f g : Nat → Value} (h : ∀ i < dim, f i = g i) :
    Value.ofElements dim f = Value.ofElements dim g := by
  unfold Value.ofElements
  split
  · next hdim => exact h 0 (by omega)
  · congr 1
    exact List.map_congr_left fun i hi => h i (List.mem_range.mp hi)

/-- An element of a row lies inside the row. -/
theorem Elements.address_add_le {count i : Nat} (h : i < count) (base stride : Nat) :
    Elements.address base stride i + stride ≤ base + stride * count := by
  have hle : (i + 1) * stride ≤ count * stride := Nat.mul_le_mul_right stride h
  rw [Elements.address, Nat.mul_comm stride count]
  rw [Nat.add_mul] at hle
  omega

/-- In equal rows the elements with the same index are equal. -/
theorem Block.SameCells.element {m n : Block} {a b stride count : Nat}
    (h : m.SameCells a n b (stride * count)) {i : Nat} (hi : i < count) :
    m.SameCells (Elements.address a stride i) n (Elements.address b stride i) stride := by
  have hinside := Elements.address_add_le hi 0 stride
  rw [Nat.zero_add, Elements.address, Nat.zero_add] at hinside
  exact h.part hinside

/-- An element of a row has its own cells. -/
theorem Elements.address_apart {i j : Nat} (h : i ≠ j) (base stride : Nat) :
    Elements.address base stride i + stride ≤ Elements.address base stride j ∨
      Elements.address base stride j + stride ≤ Elements.address base stride i := by
  rcases Nat.lt_or_gt_of_ne h with h | h
  · have hle : (i + 1) * stride ≤ j * stride := Nat.mul_le_mul_right stride h
    rw [Elements.address, Elements.address]
    rw [Nat.add_mul] at hle
    omega
  · have hle : (j + 1) * stride ≤ i * stride := Nat.mul_le_mul_right stride h
    rw [Elements.address, Elements.address]
    rw [Nat.add_mul] at hle
    omega

namespace TypeDescriptor

variable {type : TypeDescriptor} {m n : Block} {a b : Nat}

/-- In equal instances the elements of every property are equal. -/
theorem SoundLayout.sameCells_element (layout : type.SoundLayout)
    (h : m.SameCells a n b type.size) {p : Property} (hp : p ∈ type.allProperties) {i : Nat}
    (hi : i < p.dim) :
    m.SameCells (Elements.address (a + p.offset) p.size i) n
      (Elements.address (b + p.offset) p.size i) p.size :=
  (h.part (layout.within p hp)).element hi

end TypeDescriptor

/-- What a value reads as depends on its own cells only. -/
theorem Kind.Sound.read_congr_cells {kind : Kind} (sound : kind.Sound) {m n : Block} {a b : Nat}
    (h : m.SameCells a n b kind.size) : kind.read m a = kind.read n b := by
  induction sound generalizing m a n b with
  | bool _ =>
    rw [read, read, Block.boolBits, Block.boolBits, Block.byte_congr (h.first Nat.one_pos)]
  | scalar s => exact congrArg (Value.scalar s) h.word_eq
  | string => rw [read, read, Block.text_congr (h.first handleSize_pos)]
  | @struct type layout _ ih =>
    rw [read, read, TypeDescriptor.readFields_eq_map, TypeDescriptor.readFields_eq_map]
    refine congrArg Value.struct (List.map_congr_left fun p hp => congrArg (Prod.mk p.name) ?_)
    exact Value.ofElements_congr fun i hi => ih p hp (layout.sameCells_element h hp hi)
  | array _ _ | map _ _ _ _ => rw [read, read, Block.slots_congr (h.first handleSize_pos)]

/-- What a value reads as depends on nothing but what belongs to it. -/
theorem Kind.Sound.read_congr {kind : Kind} (sound : kind.Sound) {m n : Block} {a b : Nat}
    (h : kind.SameIn m a n b) : kind.read m a = kind.read n b := by
  cases kind with
  | bool mask => exact congrArg Value.bool h
  | _ => exact sound.read_congr_cells h

/-- A property reads the same where what belongs to its elements is the same. -/
theorem Property.readAll_congr {p : Property} (sound : p.kind.Sound) {m n : Block} {a b : Nat}
    (h : ∀ i < p.dim, p.kind.SameIn m (Elements.address a p.size i) n
      (Elements.address b p.size i)) : p.readAll m a = p.readAll n b := by
  rw [readAll, readAll]
  exact Value.ofElements_congr fun i hi => sound.read_congr (h i hi)

/-! ### Changes to one property -/

/-- A change to the elements of a property, the first of which is at an address.  If the property is
one boolean, the other bits of its byte are as they were. -/
structure Property.Confined (property : Property) (m m' : Block) (a : Nat) : Prop where
  changedOnly : m.ChangedOnly m' a property.totalSize
  bits : ∀ mask, property.kind = .bool mask → property.dim = 1 →
    m'.byte a &&& ~~~mask = m.byte a &&& ~~~mask

/-- Bits that were not changed are the same under every mask that has none of the changed ones. -/
theorem and_eq_of_and_not_eq {x y mask other : UInt8} (h : x &&& ~~~mask = y &&& ~~~mask)
    (apart : mask &&& other = 0) : x &&& other = y &&& other := by
  have hother : ~~~mask &&& other = other := by
    apply UInt8.eq_of_toBitVec_eq
    ext i hi
    have hbit : (mask.toBitVec[i] && other.toBitVec[i]) = false := by
      rw [← BitVec.getElem_and, ← UInt8.toBitVec_and, apart]
      exact BitVec.getElem_zero hi
    rw [UInt8.toBitVec_and, UInt8.toBitVec_not, BitVec.getElem_and, BitVec.getElem_not]
    cases hmask : mask.toBitVec[i] with
    | false => rw [Bool.not_false, Bool.true_and]
    | true =>
      rw [hmask, Bool.true_and] at hbit
      rw [hbit, Bool.and_false]
  rw [← hother, ← UInt8.and_assoc, ← UInt8.and_assoc, h]

namespace Property

variable {p q : Property} {m m' : Block} {a i : Nat}

/-- A change to one property of an instance leaves the elements of those apart from it the same. -/
theorem Confined.sameIn (h : p.Confined m m' (a + p.offset)) (apart : p.Apart q)
    (hi : i < q.dim) :
    q.kind.SameIn m' (Elements.address (a + q.offset) q.size i) m
      (Elements.address (a + q.offset) q.size i) := by
  have hinside : Elements.address (a + q.offset) q.size i + q.size ≤ a + q.offset + q.totalSize :=
    Elements.address_add_le hi (a + q.offset) q.size
  have hbehind : a + q.offset ≤ Elements.address (a + q.offset) q.size i := Nat.le_add_right _ _
  rcases apart with hlow | hhigh | ⟨mask, other, hp, hq, hdim, hdim', hoffset, hmask⟩
  · exact .of_sameCells (h.changedOnly.sameCells (Or.inr (by omega)))
  · refine .of_sameCells (h.changedOnly.sameCells (Or.inl ?_))
    rw [← size]
    omega
  · obtain rfl : i = 0 := by omega
    have hbits := h.bits mask hp hdim
    rw [hq, Elements.address, Nat.zero_mul, Nat.add_zero, ← hoffset]
    exact and_eq_of_and_not_eq hbits hmask

end Property

/-! ### Step by step -/

theorem ok_bind {ε α β : Type} (a : α) (f : α → Except ε β) : (Except.ok a >>= f) = f a :=
  rfl

/-- What a sequence of two steps that succeeds has gone through. -/
theorem exists_of_bind_eq_ok {ε α β : Type} {x : Except ε α} {f : α → Except ε β} {b : β}
    (h : (x >>= f) = .ok b) : ∃ a, x = .ok a ∧ f a = .ok b := by
  cases x with
  | error fault => exact absurd h (by simp [bind, Except.bind])
  | ok a => exact ⟨a, rfl, h⟩

/-- A loop over a row in which every step succeeds, keeps to its element and does something there
that nobody undoes by keeping off the element. -/
theorem Elements.updateFrom_ok {count stride base source size : Nat}
    (f : Block → Nat → Nat → Except StorageFault Block) (Done : Nat → Block → Prop)
    (step : ∀ i < count, ∀ m : Block, m.size = size →
      ∃ m', f m (address base stride i) (address source stride i) = .ok m' ∧
        m.ChangedOnly m' (address base stride i) stride ∧ Done i m')
    (stable : ∀ i < count, ∀ m m' : Block,
      m'.SameCells (address base stride i) m (address base stride i) stride → Done i m → Done i m')
    {m : Block} (hsize : m.size = size) :
    ∃ m', Elements.updateFrom count stride f m base source = .ok m' ∧
      m.ChangedOnly m' base (stride * count) ∧ ∀ i < count, Done i m' := by
  induction count with
  | zero => exact ⟨m, rfl, .refl m _ _, fun i hi => absurd hi (Nat.not_lt_zero i)⟩
  | succ count ih =>
    obtain ⟨m₁, hok₁, hchanged₁, hdone₁⟩ :=
      ih (fun i hi => step i (by omega)) (fun i hi => stable i (by omega))
    obtain ⟨m₂, hok₂, hchanged₂, hdone₂⟩ :=
      step count (by omega) m₁ (hchanged₁.size_eq.trans hsize)
    have hlast := address_add_le (Nat.lt_succ_self count) base stride
    refine ⟨m₂, ?_, ?_, ?_⟩
    · have hfront : (List.range count).foldlM
          (fun m i => f m (address base stride i) (address source stride i)) m = .ok m₁ := hok₁
      rw [updateFrom, List.range_succ, List.foldlM_append, hfront, ok_bind, List.foldlM_cons, hok₂]
      rfl
    · have hwider : stride * count ≤ stride * (count + 1) :=
        Nat.mul_le_mul_left stride (Nat.le_succ count)
      exact (hchanged₁.mono (le_refl base) (by omega)).trans
        (hchanged₂.mono (Nat.le_add_right _ _) hlast)
    · intro i hi
      rcases Nat.lt_succ_iff_lt_or_eq.mp hi with hi | rfl
      · exact stable i (by omega) m₁ m₂
          (hchanged₂.sameCells (address_apart (by omega) base stride)) (hdone₁ i hi)
      · exact hdone₂

/-- A walk through properties that lie apart, in which every step succeeds, keeps to its property
and does something there that nobody undoes by keeping off the property.  A property apart from all
of them stays the same. -/
theorem Property.eachApart_ok {properties : List Property}
    (f : Block → Property → Except StorageFault Block) (Done : Property → Block → Prop)
    {a size total : Nat} (apart : properties.Pairwise Property.Apart)
    (within : ∀ p ∈ properties, p.offset + p.totalSize ≤ size)
    (step : ∀ p ∈ properties, ∀ m : Block, m.size = total →
      ∃ m', f m p = .ok m' ∧ p.Confined m m' (a + p.offset) ∧ Done p m')
    (stable : ∀ p ∈ properties, ∀ m m' : Block,
      (∀ i < p.dim, p.kind.SameIn m' (Elements.address (a + p.offset) p.size i) m
        (Elements.address (a + p.offset) p.size i)) → Done p m → Done p m')
    {m : Block} (hsize : m.size = total) :
    ∃ m', properties.foldlM f m = Except.ok m' ∧ m.ChangedOnly m' a size ∧
      (∀ q : Property, (∀ p ∈ properties, p.Apart q) → ∀ i < q.dim,
        q.kind.SameIn m' (Elements.address (a + q.offset) q.size i) m
          (Elements.address (a + q.offset) q.size i)) ∧
      ∀ p ∈ properties, Done p m' := by
  induction properties generalizing m with
  | nil =>
    refine ⟨m, rfl, .refl m a size, fun q _ i _ => .of_sameCells fun _ _ => rfl, ?_⟩
    intro p hp
    exact absurd hp List.not_mem_nil
  | cons p rest ih =>
    obtain ⟨hfirst, hrest⟩ := List.pairwise_cons.mp apart
    have hwithin := within p List.mem_cons_self
    obtain ⟨m₁, hok₁, hconfined, hdone⟩ := step p List.mem_cons_self m hsize
    have hchanged : m.ChangedOnly m₁ a size :=
      hconfined.changedOnly.mono (Nat.le_add_right _ _) (by omega)
    obtain ⟨m₂, hok₂, hchanged₂, hsame₂, hdone₂⟩ := ih hrest
      (fun q hq => within q (List.mem_cons_of_mem _ hq))
      (fun q hq => step q (List.mem_cons_of_mem _ hq))
      (fun q hq => stable q (List.mem_cons_of_mem _ hq)) (hchanged.size_eq.trans hsize)
    refine ⟨m₂, ?_, hchanged.trans hchanged₂, ?_, ?_⟩
    · rw [List.foldlM_cons, hok₁]
      exact hok₂
    · intro q hq i hi
      exact (hsame₂ q (fun r hr => hq r (List.mem_cons_of_mem _ hr)) i hi).trans
        (hconfined.sameIn (hq p List.mem_cons_self) hi)
    · intro q hq
      rcases List.mem_cons.mp hq with rfl | hq
      · exact stable q List.mem_cons_self m₁ m₂
          (fun i hi => hsame₂ q (fun r hr => (hfirst r hr).symm) i hi) hdone
      · exact hdone₂ q hq

/-! ### Construction and destruction are confined -/

/-- A row changes where its elements do. -/
theorem Elements.changedOnly_update {count stride : Nat} {f : Block → Nat → Block}
    (step : ∀ (m : Block) (x : Nat), m.ChangedOnly (f m x) x stride) (m : Block) (base : Nat) :
    m.ChangedOnly (Elements.update count stride f m base) base (stride * count) := by
  refine Block.ChangedOnly.foldl m fun i hi m => ?_
  have hinside := Elements.address_add_le (List.mem_range.mp hi) base stride
  exact (step m (Elements.address base stride i)).mono (Nat.le_add_right _ _) hinside

namespace TypeDescriptor

variable {type : TypeDescriptor}

/-- An instance changes where its properties do. -/
theorem SoundLayout.changedOnly_foldl (layout : type.SoundLayout) {f : Block → Property → Block}
    {a : Nat} (step : ∀ p ∈ type.allProperties, ∀ m : Block,
      m.ChangedOnly (f m p) (a + p.offset) p.totalSize) (m : Block) :
    m.ChangedOnly (type.allProperties.foldl f m) a type.size := by
  refine Block.ChangedOnly.foldl m fun p hp m => ?_
  have hwithin := layout.within p hp
  exact (step p hp m).mono (Nat.le_add_right _ _) (by omega)

end TypeDescriptor

namespace Kind

variable {kind : Kind}

/-- Construction changes only the cells of the value. -/
theorem Sound.changedOnly_construct (sound : kind.Sound) (m : Block) (a : Nat) :
    m.ChangedOnly (kind.construct m a) a kind.size := by
  induction sound generalizing m a with
  | bool _ => exact m.changedOnly_setBool a _ false
  | scalar s => exact m.changedOnly_setWord a 0 s.size
  | string => exact m.changedOnly_placeHandle a _
  | @struct type layout _ ih =>
    rw [construct, TypeDescriptor.constructFields_eq_foldl]
    refine (m.changedOnly_clear a type.size).trans (layout.changedOnly_foldl (fun p hp m => ?_) _)
    exact Elements.changedOnly_update (ih p hp) m (a + p.offset)
  | array _ _ | map _ _ _ _ => exact m.changedOnly_placeHandle a _

/-- Destruction changes only the cells of the value. -/
theorem Sound.changedOnly_destroy (sound : kind.Sound) (m : Block) (a : Nat) :
    m.ChangedOnly (kind.destroy m a) a kind.size := by
  induction sound generalizing m a with
  | bool _ => exact .refl m a _
  | scalar s => exact .refl m a _
  | string =>
    exact (m.changedOnly_setCell a .sealed).mono (le_refl a)
      (Nat.add_le_add_left handleSize_pos a)
  | @struct type layout _ ih =>
    rw [destroy, TypeDescriptor.destroyFields_eq_foldl]
    refine layout.changedOnly_foldl (fun p hp m => ?_) m
    exact Elements.changedOnly_update (ih p hp) m (a + p.offset)
  | array _ _ | map _ _ _ _ =>
    exact (m.changedOnly_modifySlots a _).mono (le_refl a) (Nat.add_le_add_left handleSize_pos a)

end Kind

namespace Property

variable {property : Property}

theorem confined_construct (sound : property.kind.Sound) (m : Block) (a : Nat) :
    property.Confined m (property.construct m a) a where
  changedOnly := Elements.changedOnly_update sound.changedOnly_construct m a
  bits := by
    intro mask hkind hdim
    have hwrite : property.construct m a = m.setBool a mask false := by
      rw [construct, hdim, hkind, Elements.update]
      simp [Elements.address, Kind.construct]
    rw [hwrite]
    exact m.byte_setBool_outside a mask false

theorem confined_destroy (sound : property.kind.Sound) (m : Block) (a : Nat) :
    property.Confined m (property.destroy m a) a where
  changedOnly := Elements.changedOnly_update sound.changedOnly_destroy m a
  bits := by
    intro mask hkind hdim
    have hnothing : property.destroy m a = m := by
      rw [destroy, hdim, hkind, Elements.update]
      simp [Kind.destroy]
    rw [hnothing]

end Property

end PropertyReflection
