import Mathlib
import PropertyReflection.Proofs.DefaultValues

/-!
# Plain old data byte by byte

Values of a kind that is plain old data consist of bytes: there is no representation in them, and
every boolean in them has its byte to itself.  So two of them agree in all leaves if their bytes are
the same, and a default value is a row of zeros.  `Block.overwrite` writes the bytes of one range
over another one, which is what a host does that does not know of kinds.

### Outline

* `Block.SameBytes` and `Block.overwrite`;
* plain old data: `Kind.Sound.sameLeaves_of_sameBytes`, `Kind.Sound.live_of_isPlainOldData` and
  `Kind.Sound.cell_construct_of_isPlainOldData`;
* what owns nothing: `Kind.destroy_eq_self`.
-/

namespace PropertyReflection

/-! ### Bytes of blocks -/

namespace Block

variable {m n : Block} {a b count : Nat}

/-- Two ranges of equally many cells have the same bytes. -/
def SameBytes (m : Block) (a : Nat) (n : Block) (b count : Nat) : Prop :=
  ∀ i < count, m.byte (a + i) = n.byte (b + i)

/-- Parts of ranges with the same bytes have the same bytes. -/
theorem SameBytes.part (h : m.SameBytes a n b count) {distance length : Nat}
    (fits : distance + length ≤ count) :
    m.SameBytes (a + distance) n (b + distance) length := by
  intro i hi
  rw [Nat.add_assoc, Nat.add_assoc]
  exact h (distance + i) (by omega)

/-- In rows with the same bytes the elements with the same index have the same bytes. -/
theorem SameBytes.element {stride : Nat} (h : m.SameBytes a n b (stride * count)) {i : Nat}
    (hi : i < count) :
    m.SameBytes (Elements.address a stride i) n (Elements.address b stride i) stride := by
  have hinside := Elements.address_add_le hi 0 stride
  rw [Nat.zero_add, Elements.address, Nat.zero_add] at hinside
  exact h.part hinside

theorem SameBytes.word_eq (h : m.SameBytes a n b count) : m.word a count = n.word b count := by
  induction count generalizing a b with
  | zero => rfl
  | succ count ih =>
    have hfirst : m.byte a = n.byte b := h 0 (Nat.succ_pos count)
    have hrest : m.SameBytes (a + 1) n (b + 1) count := h.part (Nat.add_comm 1 count).le
    rw [word, word, hfirst, ih hrest]

/-- Write the bytes of a range over another one, one byte after the other. -/
def overwrite (m : Block) (a : Nat) (source : Block) (b : Nat) : Nat → Block
  | 0 => m
  | count + 1 => (m.setByte a (source.byte b)).overwrite (a + 1) source (b + 1) count

theorem changedOnly_overwrite (m : Block) (a : Nat) (source : Block) (b count : Nat) :
    m.ChangedOnly (m.overwrite a source b count) a count := by
  induction count generalizing m a b with
  | zero => exact .refl m a 0
  | succ count ih =>
    have hfirst : m.ChangedOnly (m.setByte a (source.byte b)) a 1 := m.changedOnly_setCell a _
    exact (hfirst.mono (le_refl a) (by omega)).trans ((ih _ _ _).mono (by omega) (by omega))

/-- What was overwritten has the bytes of the source. -/
theorem sameBytes_overwrite {source : Block} (fits : a + count ≤ m.size) :
    (m.overwrite a source b count).SameBytes a source b count := by
  induction count generalizing m a b with
  | zero => exact fun i hi => absurd hi (Nat.not_lt_zero i)
  | succ count ih =>
    intro i hi
    cases i with
    | zero =>
      -- the later bytes are written behind the first one
      have hkept := (changedOnly_overwrite (m.setByte a (source.byte b)) (a + 1) source (b + 1)
        count).cell_eq a (Or.inl (Nat.lt_succ_self a))
      exact (byte_congr hkept).trans (byte_setByte_self (by omega) _)
    | succ i =>
      have hrest := ih (m := m.setByte a (source.byte b)) (a := a + 1) (b := b + 1)
        (by rw [size_setByte]; omega) i (by omega)
      rw [overwrite, Nat.add_comm i 1, ← Nat.add_assoc, ← Nat.add_assoc]
      exact hrest

/-- All cells of a word of zeros are zero. -/
theorem cell_setWord_zero_of_inside {x : Nat} (hlow : a ≤ x) (hhigh : x < a + count)
    (fits : a + count ≤ m.size) : (m.setWord a 0 count).cell x = .byte 0 := by
  induction count generalizing m a with
  | zero => omega
  | succ count ih =>
    rw [setWord]
    rcases Nat.eq_or_lt_of_le hlow with rfl | hlow
    · exact cell_setWord_zero (cell_setCell_self (by omega) _) (a + 1) count
    · exact ih hlow (by omega) (by rw [size_setByte]; omega)

end Block

/-! ### Plain old data -/

namespace Kind

variable {kind : Kind} {type : TypeDescriptor} {m n : Block} {a b : Nat}

/-- A struct is plain old data if all its properties are. -/
theorem isPlainOldData_struct_iff :
    (Kind.struct type).isPlainOldData = true ↔
      ∀ p ∈ type.allProperties, p.kind.isPlainOldData = true := by
  rw [isPlainOldData, TypeDescriptor.isPlainOldData_eq_all, List.all_eq_true]

/-- A struct owns nothing if no property of it owns something. -/
theorem needsDestroy_struct_eq_false_iff :
    (Kind.struct type).needsDestroy = false ↔
      ∀ p ∈ type.allProperties, p.kind.needsDestroy = false := by
  rw [needsDestroy, TypeDescriptor.needsDestroy_eq_any, List.any_eq_false]
  simp only [Bool.not_eq_true]

/-- Plain old data owns nothing. -/
theorem needsDestroy_eq_false_of_isPlainOldData (pod : kind.isPlainOldData = true) :
    kind.needsDestroy = false := by
  induction kind using Kind.inductionOn with
  | bool _ | scalar _ => rfl
  | struct type ih =>
    rw [isPlainOldData_struct_iff] at pod
    exact needsDestroy_struct_eq_false_iff.mpr fun p hp => ih p hp (pod p hp)
  | string | array _ _ | map _ _ _ _ => exact absurd pod Bool.false_ne_true

/-- Destruction of what owns nothing changes nothing. -/
theorem destroy_eq_self (owns : kind.needsDestroy = false) (m : Block) (a : Nat) :
    kind.destroy m a = m := by
  induction kind using Kind.inductionOn generalizing m a with
  | bool _ | scalar _ => rfl
  | struct type ih =>
    rw [needsDestroy_struct_eq_false_iff] at owns
    have hfield : ∀ p ∈ type.allProperties, p.destroyIn m a = m := fun p hp =>
      List.foldlRecOn (motive := fun n : Block => n = m) _ _ rfl
        fun n hn i _ => hn ▸ ih p hp (owns p hp) n _
    rw [destroy, TypeDescriptor.destroyFields_eq_foldl]
    exact List.foldlRecOn (motive := fun n : Block => n = m) _ _ rfl
      fun n hn p hp => hn ▸ hfield p hp
  | string | array _ _ | map _ _ _ _ => exact absurd owns Bool.false_ne_true.symm

/-- There is no representation in plain old data. -/
theorem handles_eq_nil_of_isPlainOldData (pod : kind.isPlainOldData = true) :
    kind.handles = [] := by
  induction kind using Kind.inductionOn with
  | bool _ | scalar _ => rfl
  | struct type ih =>
    rw [isPlainOldData_struct_iff] at pod
    refine List.eq_nil_iff_forall_not_mem.mpr fun h hh => ?_
    obtain ⟨p, hp, -, -, inside, hinside, -⟩ := TypeDescriptor.mem_handles_iff.mp hh
    rw [ih p hp (pod p hp)] at hinside
    exact absurd hinside List.not_mem_nil
  | string | array _ _ | map _ _ _ _ => exact absurd pod Bool.false_ne_true

/-- Plain old data is live whatever is in the memory. -/
theorem live_of_isPlainOldData (pod : kind.isPlainOldData = true) (m : Block) (a : Nat) :
    kind.Live m a := by
  induction kind using Kind.inductionOn generalizing a with
  | bool mask => exact .bool mask m a
  | scalar s => exact .scalar s m a
  | struct type ih =>
    rw [isPlainOldData_struct_iff] at pod
    exact .struct fun p hp i _ => ih p hp (pod p hp) _
  | string | array _ _ | map _ _ _ _ => exact absurd pod Bool.false_ne_true

/-- The leaves of plain old data agree if the bytes do. -/
theorem Sound.sameLeaves_of_sameBytes (sound : kind.Sound) (pod : kind.isPlainOldData = true)
    (h : m.SameBytes a n b kind.size) : kind.SameLeaves m a n b := by
  induction sound generalizing a b with
  | @bool mask _ =>
    have hbyte : m.byte a = n.byte b := h 0 Nat.one_pos
    exact .bool (by rw [Block.bool, Block.bool, Block.boolBits, Block.boolBits, hbyte])
  | scalar s => exact .scalar h.word_eq
  | struct layout _ ih =>
    rw [isPlainOldData_struct_iff] at pod
    exact .struct fun p hp i hi => ih p hp (pod p hp) ((h.part (layout.within p hp)).element hi)
  | string | array _ _ | map _ _ _ _ => exact absurd pod Bool.false_ne_true

/-- A default value of plain old data is a row of zeros, whatever was there before. -/
theorem Sound.cell_construct_of_isPlainOldData (sound : kind.Sound)
    (pod : kind.isPlainOldData = true) (fits : a + kind.size ≤ m.size) {distance : Nat}
    (hdistance : distance < kind.size) : (kind.construct m a).cell (a + distance) = .byte 0 := by
  cases sound with
  | @bool mask _ =>
    obtain rfl : mask = fullMask := by simpa [isPlainOldData] using pod
    obtain rfl : distance = 0 := Nat.lt_one_iff.mp hdistance
    have hbits : (m.byte a &&& ~~~fullMask) ||| Block.truthBits fullMask false = 0 := by
      have hnone : ~~~fullMask = 0 := by decide
      rw [hnone, UInt8.and_zero]
      rfl
    rw [construct, Block.setBool, hbits, Nat.add_zero]
    exact Block.cell_setCell_self fits _
  | scalar s =>
    exact Block.cell_setWord_zero_of_inside (Nat.le_add_right a distance)
      (Nat.add_lt_add_left hdistance a) fits
  | struct layout _ =>
    refine cell_construct_struct fits hdistance ?_
    rw [Plain, handles_eq_nil_of_isPlainOldData pod]
    exact fun h hh => absurd hh List.not_mem_nil
  | string | array _ | map _ _ => exact absurd pod Bool.false_ne_true

end Kind

end PropertyReflection
