import Mathlib
import PropertyReflection.Layout.Build
import PropertyReflection.Proofs.SoundLayout

/-!
# What placing properties preserves

`Placement.Sound` relates the state of a layout in progress to the properties placed so far, those
of the parent first.  Its core is that every placed property is covered by a taken range, so that a
range that meets none of the taken ones meets none of the properties, and that the bytes set aside
for bitfields are used by bitfields only, whose bits are among the recorded ones.

### Outline

* what each step of a placement does when it succeeds: `occupy_ok`, `openBitByte_ok`,
  `placeBitfield_ok`, `placeField_ok`, `place_ok`;
* each step preserves `Placement.Sound`, up to `Sound.placeAll` for a whole list of declarations.
-/

namespace PropertyReflection

/-- Rounding up inside a machine word gives the exact rounding, if it gives anything. -/
theorem alignUpWord_ok {value align rounded : Nat} (h : alignUpWord value align = .ok rounded) :
    rounded = alignUp value align := by
  unfold alignUpWord at h
  split at h
  · contradiction
  · split at h
    · contradiction
    · exact (Except.ok.inj h).symm

/-! ### The lowest free bit -/

/-- The lowest free bit is free. -/
theorem lowestFreeBit_and (used : UInt8) : lowestFreeBit used &&& used = 0 := by
  unfold lowestFreeBit
  apply UInt8.eq_of_toBitVec_eq
  ext i
  simp
  grind

/-- A byte with a free bit has a lowest one. -/
theorem lowestFreeBit_ne_zero {used : UInt8} (h : used ≠ 0xff) : lowestFreeBit used ≠ 0 := by
  have hall : ∀ x : Fin 256, UInt8.ofNat x ≠ 0xff → lowestFreeBit (UInt8.ofNat x) ≠ 0 := by
    decide +kernel
  have hused : UInt8.ofNat (⟨used.toNat, used.toNat_lt⟩ : Fin 256) = used := UInt8.ofNat_toNat
  have := hall ⟨used.toNat, used.toNat_lt⟩
  rw [hused] at this
  exact this h

/-- Two bytes have no bit in common if no position has a bit in both. -/
theorem and_eq_zero_iff {x y : UInt8} :
    x &&& y = 0 ↔ ∀ i (_ : i < 8), x.toBitVec[i] = true → y.toBitVec[i] = false := by
  constructor
  · intro h i hi hx
    have := congrArg (fun z : UInt8 => z.toBitVec[i]) h
    simpa [hx] using this
  · intro h
    apply UInt8.eq_of_toBitVec_eq
    ext i hi
    have := h i hi
    simp
    grind

/-- Bits that are all in use have nothing in common with bits that are free. -/
theorem and_eq_zero_of_free {mask bits used : UInt8} (hmask : mask &&& ~~~used = 0)
    (hbits : bits &&& used = 0) : mask &&& bits = 0 := by
  rw [and_eq_zero_iff] at *
  intro i hi hm
  have hused := hmask i hi hm
  have hfree := hbits i hi
  simp at hused
  grind

/-- Bits that are all in use stay so when more bits are used. -/
theorem and_not_or_eq_zero {mask used : UInt8} (more : UInt8) (h : mask &&& ~~~used = 0) :
    mask &&& ~~~(used ||| more) = 0 := by
  rw [and_eq_zero_iff] at *
  intro i hi hm
  have := h i hi hm
  simp at this
  simp [this]

/-- The bits that were added are in use. -/
theorem and_not_or_self (used mask : UInt8) : mask &&& ~~~(used ||| mask) = 0 := by
  rw [and_eq_zero_iff]
  intro i hi hm
  simp [hm]

/-- Only a boolean without bits is changed before it is sound. -/
theorem Kind.Sound.of_unpacked {kind : Kind} (h : kind.unpacked.Sound) (hmask : kind ≠ .bool 0) :
    kind.Sound := by
  unfold Kind.unpacked at h
  split at h
  · next mask =>
    have hne : mask ≠ 0 := fun hzero => hmask (by rw [hzero])
    simpa [hne] using h
  · exact h

/-- The property has no bit of a byte other than those that are in use: it lies elsewhere, or it is
a bitfield in this byte. -/
def Property.KeepsTo (property : Property) (byte : Nat) (used : UInt8) : Prop :=
  property.offset + property.totalSize ≤ byte ∨ byte + 1 ≤ property.offset ∨
    ∃ mask, property.kind = .bool mask ∧ property.dim = 1 ∧ property.offset = byte ∧
      mask &&& ~~~used = 0

namespace Placement

variable {p q : Placement} {start stop byte : Nat} {owner : String}

/-! ### What the steps do -/

theorem usedBits?_setUsedBits (p : Placement) (byte other : Nat) (used : UInt8) :
    (p.setUsedBits byte used).usedBits? other =
      if other = byte then some used else p.usedBits? other := by
  unfold usedBits? setUsedBits
  by_cases h : other = byte
  · simp [h]
  · have hne : (byte == other) = false := by simpa using Ne.symm h
    have hfilter : (p.bitBytes.filter (·.1 != byte)).find? (·.1 == other) =
        p.bitBytes.find? (·.1 == other) := by
      rw [List.find?_filter]
      congr 1
      funext entry
      grind
    simp [h, hne, hfilter]

/-- A range is taken exactly if it meets none of the ranges taken before. -/
theorem occupy_eq_ok_iff :
    p.occupy start stop owner = .ok q ↔
      (∀ s ∈ p.taken, Span.meets ⟨start, stop, owner⟩ s = false) ∧
        q = { p with cursor := max p.cursor stop, taken := p.taken ++ [⟨start, stop, owner⟩] } := by
  unfold occupy
  simp only
  split
  · next s hfound =>
    have hmeets := List.find?_some hfound
    have htaken := List.mem_of_find?_eq_some hfound
    constructor
    · intro h
      exact absurd h (by simp)
    · intro h
      exact absurd (h.1 s htaken) (by simp [hmeets])
  · next hnone =>
    have hfree : ∀ s ∈ p.taken, Span.meets ⟨start, stop, owner⟩ s = false :=
      fun s hs => Bool.not_eq_true _ ▸ List.find?_eq_none.mp hnone s hs
    rw [Except.ok.injEq, eq_comm]
    exact (and_iff_right hfree).symm

/-- A range that is taken meets none of the ranges taken before. -/
theorem occupy_ok (h : p.occupy start stop owner = .ok q) :
    (∀ s ∈ p.taken, s.stop ≤ start ∨ stop ≤ s.start) ∧
      q = { p with cursor := max p.cursor stop, taken := p.taken ++ [⟨start, stop, owner⟩] } := by
  obtain ⟨hfree, hq⟩ := occupy_eq_ok_iff.mp h
  refine ⟨fun s hs => ?_, hq⟩
  have hmeets := hfree s hs
  rw [Span.meets, Bool.and_eq_false_iff, decide_eq_false_iff_not, decide_eq_false_iff_not] at hmeets
  change ¬ start < s.stop ∨ ¬ s.start < stop at hmeets
  omega

/-- A byte is set aside for bitfields either already, or by taking it now, if it has an address. -/
theorem openBitByte_ok (h : p.openBitByte byte owner = .ok q) :
    (∃ used, p.usedBits? byte = some used ∧ q = p) ∨
      ∃ r, byte + 1 < wordLimit ∧ p.occupy byte (byte + 1) owner = .ok r ∧
        q = r.setUsedBits byte 0 := by
  unfold openBitByte at h
  split at h
  · next used hused =>
    cases h
    exact Or.inl ⟨used, hused, rfl⟩
  · split at h
    · contradiction
    · next hlimit =>
      cases hr : p.occupy byte (byte + 1) owner with
      | error fault => simp [hr, bind, Except.bind] at h
      | ok r =>
        simp only [hr, bind, Except.bind, pure, Except.pure, Except.ok.injEq] at h
        exact Or.inr ⟨r, Nat.not_le.mp hlimit, rfl, h.symm⟩

/-- A bitfield is placed on the lowest free bit of a byte that is set aside for bitfields. -/
theorem placeBitfield_ok {spec : PropertySpec} {property : Property}
    (h : p.placeBitfield spec = .ok (q, property)) :
    ∃ r used, p.openBitByte (p.bitfieldByte spec.offset) spec.name = .ok r ∧
      used = (r.usedBits? (p.bitfieldByte spec.offset)).getD 0 ∧ used ≠ 0xff ∧
      q = { r.setUsedBits (p.bitfieldByte spec.offset) (used ||| lowestFreeBit used) with
        openByte := some (p.bitfieldByte spec.offset) } ∧
      property = .ofKind spec.name (.bool (lowestFreeBit used)) (p.bitfieldByte spec.offset) 1
        spec.flags := by
  unfold placeBitfield at h
  by_cases hdim : spec.dim = 1
  · cases hr : p.openBitByte (p.bitfieldByte spec.offset) spec.name with
    | error fault => simp [hdim, hr, bind, Except.bind] at h
    | ok r =>
      by_cases hfull : (r.usedBits? (p.bitfieldByte spec.offset)).getD 0 = 0xff
      · simp [hdim, hr, hfull, bind, Except.bind, throw, throwThe, MonadExceptOf.throw] at h
      · simp only [hdim, hr, hfull, bind, Except.bind, pure, Except.pure, ne_eq, not_true_eq_false,
          if_false, Except.ok.injEq, Prod.mk.injEq] at h
        exact ⟨r, _, rfl, rfl, hfull, h.1.symm, h.2.symm⟩
  · simp [hdim, bind, Except.bind, throw, throwThe, MonadExceptOf.throw] at h

/-- The offset of a field suits its alignment, whether it is pinned or not. -/
theorem dvd_of_fieldOffset_ok {name : String} {align offset : Nat} {pinned : Option Nat}
    (h : p.fieldOffset name align pinned = .ok offset) : align ∣ offset := by
  unfold fieldOffset at h
  cases pinned with
  | some pinned =>
    by_cases hmod : pinned % align = 0
    · simp only [hmod, if_true, Except.ok.injEq] at h
      exact h ▸ Nat.dvd_of_mod_eq_zero hmod
    · simp [hmod] at h
  | none =>
    cases hword : alignUpWord p.cursor align with
    | error fault => cases fault <;> simp [hword] at h
    | ok rounded =>
      simp only [hword, Except.ok.injEq] at h
      rw [← h, alignUpWord_ok hword]
      exact dvd_alignUp _ _

/-- A field takes the bytes of all its elements, which have to have addresses. -/
theorem placeField_ok {spec : PropertySpec} {kind : Kind} {property : Property}
    (h : p.placeField spec kind = .ok (q, property)) :
    ∃ offset r, kind ≠ .bool 0 ∧ p.fieldOffset spec.name kind.align spec.offset = .ok offset ∧
      offset + kind.size * spec.dim < wordLimit ∧
      p.occupy offset (offset + kind.size * spec.dim) spec.name = .ok r ∧
      q = { r with align := max r.align kind.align, openByte := none } ∧
      property = .ofKind spec.name kind offset spec.dim (fieldFlags spec.flags spec.dim) := by
  unfold placeField at h
  split at h
  · simp [bind, Except.bind, throw, throwThe, MonadExceptOf.throw] at h
  · next hmask =>
    simp only [bind, Except.bind, pure, Except.pure] at h
    split at h
    · simp [throw, throwThe, MonadExceptOf.throw] at h
    · cases hoffset : p.fieldOffset spec.name kind.align spec.offset with
      | error fault => simp [hoffset] at h
      | ok offset =>
        simp only [hoffset] at h
        split at h
        · simp [throw, throwThe, MonadExceptOf.throw] at h
        · next hlimit =>
          cases hr : p.occupy offset (offset + kind.size * spec.dim) spec.name with
          | error fault => simp [hr, throw, throwThe, MonadExceptOf.throw] at h
          | ok r =>
            simp only [hr, Except.ok.injEq, Prod.mk.injEq] at h
            exact ⟨offset, r, fun hkind => hmask hkind, rfl, Nat.not_le.mp hlimit, hr, h.1.symm,
              h.2.symm⟩

/-- A property is placed as a bitfield or as a field. -/
theorem place_ok {spec : PropertySpec} {property : Property}
    (h : p.place spec = .ok (q, property)) :
    (spec.body = .bitfield ∧ p.placeBitfield spec = .ok (q, property)) ∨
      ∃ kind, spec.body = .field kind ∧ p.placeField spec kind = .ok (q, property) := by
  unfold place at h
  split at h
  · next hbody =>
    refine Or.inl ⟨hbody, ?_⟩
    cases hbit : p.placeBitfield spec with
    | error fault => simp [hbit, Except.mapError] at h
    | ok result =>
      simp only [hbit, Except.mapError, Except.ok.injEq] at h
      rw [h]
  · next kind hbody => exact Or.inr ⟨kind, hbody, h⟩

/-! ### The invariant -/

/-- Some taken range contains all bytes from `start` up to `stop`. -/
def Covers (p : Placement) (start stop : Nat) : Prop :=
  ∃ s ∈ p.taken, s.start ≤ start ∧ stop ≤ s.stop

/-- The state of a layout in progress fits the properties placed so far, inherited ones included. -/
structure Sound (p : Placement) (placed : List Property) : Prop where
  align_pow : Nat.isPowerOfTwo p.align
  /-- What is taken lies before the cursor. -/
  below : ∀ s ∈ p.taken, s.stop ≤ p.cursor
  covered : ∀ x ∈ placed, p.Covers x.offset (x.offset + x.totalSize)
  /-- The bytes of bitfields are taken. -/
  bitCovered : ∀ byte used, p.usedBits? byte = some used → p.Covers byte (byte + 1)
  /-- The byte of a bitfield has nothing but bitfields in it, and their bits are recorded. -/
  keepsTo : ∀ byte used, p.usedBits? byte = some used → ∀ x ∈ placed, x.KeepsTo byte used
  aligned : ∀ x ∈ placed, x.align ∣ x.offset ∧ x.align ∣ p.align
  apart : placed.Pairwise Property.Apart
  kindSound : ∀ x ∈ placed, x.kind.Sound

variable {placed : List Property}

/-- A layout without a parent begins with nothing. -/
theorem sound_start_none : (Placement.start none).Sound [] where
  align_pow := ⟨0, rfl⟩
  below := by simp [Placement.start]
  covered := by simp
  bitCovered := by simp [Placement.start, usedBits?]
  keepsTo := by simp
  aligned := by simp
  apart := List.Pairwise.nil
  kindSound := by simp

/-- A layout begins with all of its parent. -/
theorem sound_start_some {parent : TypeDescriptor} (h : (Kind.struct parent).Sound) :
    (Placement.start (some parent)).Sound parent.allProperties := by
  cases h with
  | struct layout fields =>
    refine ⟨layout.align_pow, by simp [Placement.start], fun x hx => ?_,
      by simp [Placement.start, usedBits?], by simp [Placement.start, usedBits?], layout.aligned,
      layout.apart, fields⟩
    exact ⟨⟨0, parent.size, parent.name⟩, by simp [Placement.start], Nat.zero_le _,
      layout.within x hx⟩

/-- A range that is taken now contains no byte of a property or of a bitfield placed before. -/
theorem Sound.occupy (h : p.Sound placed) (ok : p.occupy start stop owner = .ok q) :
    q.Sound placed ∧ q.Covers start stop ∧
      (∀ x ∈ placed, x.offset + x.totalSize ≤ start ∨ stop ≤ x.offset) ∧
      ∀ byte used, q.usedBits? byte = some used → byte + 1 ≤ start ∨ stop ≤ byte := by
  obtain ⟨hfree, rfl⟩ := occupy_ok ok
  have hcovers : ∀ a b, p.Covers a b →
      Covers { p with cursor := max p.cursor stop, taken := p.taken ++ [⟨start, stop, owner⟩] }
        a b := by
    rintro a b ⟨s, hs, hle⟩
    exact ⟨s, List.mem_append_left _ hs, hle⟩
  refine ⟨⟨h.align_pow, ?_, fun x hx => hcovers _ _ (h.covered x hx),
    fun byte used hused => hcovers _ _ (h.bitCovered byte used hused), h.keepsTo, h.aligned,
    h.apart, h.kindSound⟩, ⟨⟨start, stop, owner⟩, by simp, le_rfl, le_rfl⟩, ?_, ?_⟩
  · intro s hs
    rcases List.mem_append.mp hs with hs | hs
    · exact le_trans (h.below s hs) (le_max_left _ _)
    · rw [List.mem_singleton.mp hs]
      exact le_max_right _ _
  · intro x hx
    obtain ⟨s, hs, hstart, hstop⟩ := h.covered x hx
    have := hfree s hs
    omega
  · intro byte used hused
    obtain ⟨s, hs, hstart, hstop⟩ := h.bitCovered byte used hused
    have := hfree s hs
    omega

/-- The bits of a byte can be recorded if the byte is taken and its properties keep to them. -/
theorem Sound.setUsedBits (h : p.Sound placed) {used : UInt8} (hcovers : p.Covers byte (byte + 1))
    (hkeeps : ∀ x ∈ placed, x.KeepsTo byte used) : (p.setUsedBits byte used).Sound placed := by
  refine ⟨h.align_pow, h.below, h.covered, ?_, ?_, h.aligned, h.apart, h.kindSound⟩
  · intro other bits hbits
    rw [usedBits?_setUsedBits] at hbits
    split at hbits
    · next heq => exact heq ▸ hcovers
    · exact h.bitCovered other bits hbits
  · intro other bits hbits
    rw [usedBits?_setUsedBits] at hbits
    split at hbits
    · next heq =>
      cases hbits
      exact heq ▸ hkeeps
    · exact h.keepsTo other bits hbits

/-- Setting a byte aside for bitfields is no harm to what is placed. -/
theorem Sound.openBitByte (h : p.Sound placed) (ok : p.openBitByte byte owner = .ok q) :
    q.Sound placed ∧ ∃ used, q.usedBits? byte = some used := by
  rcases openBitByte_ok ok with ⟨used, hused, rfl⟩ | ⟨r, -, hr, rfl⟩
  · exact ⟨h, used, hused⟩
  · obtain ⟨hsound, hcovers, hfree, -⟩ := h.occupy hr
    refine ⟨hsound.setUsedBits hcovers fun x hx => ?_, 0, by simp [usedBits?_setUsedBits]⟩
    rcases hfree x hx with hx | hx
    · exact Or.inl hx
    · exact Or.inr (Or.inl hx)

/-- A property can be added if it has a place of its own. -/
theorem Sound.append (h : p.Sound placed) {x : Property}
    (hcovers : p.Covers x.offset (x.offset + x.totalSize))
    (hkeeps : ∀ byte used, p.usedBits? byte = some used → x.KeepsTo byte used)
    (haligned : x.align ∣ x.offset ∧ x.align ∣ p.align) (hapart : ∀ y ∈ placed, y.Apart x)
    (hkind : x.kind.Sound) : p.Sound (placed ++ [x]) := by
  have hall : ∀ {P : Property → Prop}, (∀ y ∈ placed, P y) → P x → ∀ y ∈ placed ++ [x], P y := by
    intro P hplaced hx y hy
    rcases List.mem_append.mp hy with hy | hy
    · exact hplaced y hy
    · exact List.mem_singleton.mp hy ▸ hx
  exact ⟨h.align_pow, h.below, hall h.covered hcovers, h.bitCovered,
    fun byte used hused => hall (h.keepsTo byte used hused) (hkeeps byte used hused),
    hall h.aligned haligned,
    List.pairwise_append.mpr ⟨h.apart, List.pairwise_singleton _ _, fun y hy z hz =>
      List.mem_singleton.mp hz ▸ hapart y hy⟩,
    hall h.kindSound hkind⟩

/-- Placing a bitfield preserves the invariant: its bit was free, so it belongs to none of the
bitfields that share the byte. -/
theorem Sound.placeBitfield (h : p.Sound placed) {spec : PropertySpec} {property : Property}
    (ok : p.placeBitfield spec = .ok (q, property)) : q.Sound (placed ++ [property]) := by
  obtain ⟨r, used, hr, hget, hfull, rfl, rfl⟩ := placeBitfield_ok ok
  obtain ⟨hsound, recorded, hrecorded⟩ := h.openBitByte hr
  obtain rfl : used = recorded := by simpa [hrecorded] using hget
  have hcovers := hsound.bitCovered _ _ hrecorded
  have hnext : (r.setUsedBits (p.bitfieldByte spec.offset)
      (used ||| lowestFreeBit used)).Sound placed := by
    refine hsound.setUsedBits hcovers fun x hx => ?_
    rcases hsound.keepsTo _ _ hrecorded x hx with hx | hx | ⟨mask, hkind, hdim, hoffset, hmask⟩
    · exact Or.inl hx
    · exact Or.inr (Or.inl hx)
    · exact Or.inr (Or.inr ⟨mask, hkind, hdim, hoffset, and_not_or_eq_zero _ hmask⟩)
  -- Only the open byte differs from here on, and the invariant does not mention it.
  have hopen : Sound { r.setUsedBits (p.bitfieldByte spec.offset) (used ||| lowestFreeBit used) with
      openByte := some (p.bitfieldByte spec.offset) } placed :=
    ⟨hnext.align_pow, hnext.below, hnext.covered, hnext.bitCovered, hnext.keepsTo, hnext.aligned,
      hnext.apart, hnext.kindSound⟩
  refine hopen.append hcovers ?_ ⟨one_dvd _, one_dvd _⟩ ?_ (.bool (lowestFreeBit_ne_zero hfull))
  · intro byte bits hbits
    have hbits : (r.setUsedBits (p.bitfieldByte spec.offset)
      (used ||| lowestFreeBit used)).usedBits? byte = some bits := hbits
    rw [usedBits?_setUsedBits] at hbits
    split at hbits
    · next heq =>
      cases hbits
      exact Or.inr (Or.inr ⟨_, rfl, rfl, heq.symm, and_not_or_self _ _⟩)
    · next hne =>
      show p.bitfieldByte spec.offset + 1 ≤ byte ∨ byte + 1 ≤ p.bitfieldByte spec.offset ∨ _
      omega
  · intro x hx
    rcases hsound.keepsTo _ _ hrecorded x hx with hx | hx | ⟨mask, hkind, hdim, hoffset, hmask⟩
    · exact Or.inl hx
    · exact Or.inr (Or.inl hx)
    · exact Or.inr (Or.inr ⟨mask, _, hkind, rfl, hdim, rfl, hoffset,
        and_eq_zero_of_free hmask (lowestFreeBit_and used)⟩)

/-- Placing a field preserves the invariant: its bytes were free. -/
theorem Sound.placeField (h : p.Sound placed) {spec : PropertySpec} {kind : Kind}
    {property : Property} (hkind : kind.unpacked.Sound)
    (ok : p.placeField spec kind = .ok (q, property)) : q.Sound (placed ++ [property]) := by
  obtain ⟨offset, r, hmask, hoffset, -, hr, rfl, rfl⟩ := placeField_ok ok
  obtain ⟨hsound, hcovers, hfree, hbits⟩ := h.occupy hr
  have hkind : kind.Sound := hkind.of_unpacked hmask
  have hdvd := dvd_max_of_isPowerOfTwo hsound.align_pow hkind.align_pow
  have hnext : Sound { r with align := max r.align kind.align, openByte := none } placed :=
    ⟨isPowerOfTwo_max hsound.align_pow hkind.align_pow, hsound.below, hsound.covered,
      hsound.bitCovered, hsound.keepsTo,
      fun x hx => ⟨(hsound.aligned x hx).1, (hsound.aligned x hx).2.trans hdvd⟩, hsound.apart,
      hsound.kindSound⟩
  refine hnext.append hcovers ?_ ⟨dvd_of_fieldOffset_ok hoffset, ?_⟩ ?_ hkind
  · intro byte used hused
    rcases hbits byte used hused with hb | hb
    · exact Or.inr (Or.inl hb)
    · exact Or.inl hb
  · rw [max_comm]
    exact dvd_max_of_isPowerOfTwo hkind.align_pow hsound.align_pow
  · intro x hx
    rcases hfree x hx with hx | hx
    · exact Or.inl hx
    · exact Or.inr (Or.inl hx)

/-- Placing a property of either sort preserves the invariant. -/
theorem Sound.place (h : p.Sound placed) {spec : PropertySpec} {property : Property}
    (hspec : ∀ kind, spec.body = .field kind → kind.unpacked.Sound)
    (ok : p.place spec = .ok (q, property)) : q.Sound (placed ++ [property]) := by
  rcases place_ok ok with ⟨-, hbit⟩ | ⟨kind, hbody, hfield⟩
  · exact h.placeBitfield hbit
  · exact h.placeField (hspec kind hbody) hfield

end Placement

/-- Declarations are placed one after the other. -/
theorem TypeDescriptor.placeAll_cons_ok {parent : Option TypeDescriptor} {spec : PropertySpec}
    {rest : List PropertySpec} {p q : Placement} {own properties : List Property}
    (h : placeAll parent (spec :: rest) p own = .ok (q, properties)) :
    ∃ r property, p.place spec = .ok (r, property) ∧
      placeAll parent rest r (own ++ [property]) = .ok (q, properties) := by
  unfold placeAll at h
  simp only [bind, Except.bind, throw, throwThe, MonadExceptOf.throw] at h
  split at h
  · simp at h
  · split at h
    · simp at h
    · split at h
      · simp at h
      · next result hplace => exact ⟨result.1, result.2, hplace, h⟩

/-- Placing all declared properties preserves the invariant, by induction on the declarations. -/
theorem Placement.Sound.placeAll {parent : Option TypeDescriptor} {specs : List PropertySpec}
    {p q : Placement} {inherited own properties : List Property}
    (h : p.Sound (inherited ++ own))
    (hspecs : ∀ spec ∈ specs, ∀ kind, spec.body = .field kind → kind.unpacked.Sound)
    (ok : TypeDescriptor.placeAll parent specs p own = .ok (q, properties)) :
    q.Sound (inherited ++ properties) := by
  induction specs generalizing p own with
  | nil =>
    cases ok
    exact h
  | cons spec rest ih =>
    obtain ⟨r, property, hplace, hrest⟩ := TypeDescriptor.placeAll_cons_ok ok
    have hnext := h.place (hspecs spec (by simp)) hplace
    rw [List.append_assoc] at hnext
    exact ih hnext (fun other hother => hspecs other (List.mem_cons_of_mem _ hother)) hrest

end PropertyReflection
