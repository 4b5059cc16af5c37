import Mathlib
import PropertyReflection.Proofs.LayoutRuns
import PropertyReflection.Proofs.ReportedExtents

/-!
# Layouts that reach the end of the address space

A layout adds and multiplies sizes and offsets of any magnitude.  It looks at every sum and product
before it goes on, and reports a type as too large where one is not an address-sized word.  Only
when a value is rounded up, the sum that is looked at is `value + (align - 1)`, and the one that is
formed is `value + align`.  The two differ where `value + align` is the number of words itself: the
test passes, and the sum overflows.

`build_overflow` says that this is the only way to overflow, that what does not fit is reported as
too large otherwise, and that where the sum overflows the layout does not fit either.

### Outline

* `alignUpWord_eq_overflow_iff`, for one rounding;
* `Placement.exactEnd`, the end of a property in an address space without an end, and
  `Placement.MeetsWordEnd`, the state in which a placement overflows;
* `Placement.place_of_exactEnd`, for one placement, and `TypeDescriptor.Reaches.inWords`, the
  invariant of the run that it needs.
-/

namespace PropertyReflection

/-! ### Rounding up -/

/-- Rounding up overflows exactly if value and alignment add up to the number of words. -/
theorem alignUpWord_eq_overflow_iff {value align : Nat} (pos : 0 < align) :
    alignUpWord value align = .error .overflow ↔ value + align = wordLimit := by
  unfold alignUpWord
  constructor
  · intro h
    split at h
    · exact absurd h (by simp)
    split at h
    · omega
    · exact absurd h (by simp)
  · intro h
    rw [if_neg (by omega), if_pos (by omega)]

namespace PropertySpec

/-- Nothing is wrong with a declaration itself, wherever the property goes. -/
def Regular (spec : PropertySpec) : Prop :=
  match spec.body with
  | .bitfield => spec.dim = 1
  | .field kind => kind ≠ .bool 0 ∧ ∀ offset, spec.offset = some offset → offset % kind.align = 0

end PropertySpec

namespace Placement

variable {p q : Placement} {spec : PropertySpec} {kind : Kind} {placed : List Property}

/-! ### One placement -/

/-- Where a property ends if the address space does not. -/
def exactEnd (p : Placement) (spec : PropertySpec) : Nat :=
  match spec.body with
  | .bitfield => p.bitfieldByte spec.offset + 1
  | .field kind => spec.offset.getD (alignUp p.cursor kind.align) + kind.size * spec.dim

/-- A field that is not pinned is to be placed where cursor and alignment add up to the number of
words. -/
def MeetsWordEnd (p : Placement) (spec : PropertySpec) : Prop :=
  ∃ kind, spec.body = .field kind ∧ kind ≠ .bool 0 ∧ kind.size * spec.dim < wordLimit ∧
    spec.offset = none ∧ p.cursor + kind.align = wordLimit

/-- What placing a field comes to, if its elements have a total size. -/
theorem placeField_eq (hmask : kind ≠ .bool 0) (htotal : kind.size * spec.dim < wordLimit) :
    p.placeField spec kind =
      (p.fieldOffset spec.name kind.align spec.offset >>= fun offset =>
        if wordLimit ≤ offset + kind.size * spec.dim then .error (.rejected .typeTooLarge)
        else match p.occupy offset (offset + kind.size * spec.dim) spec.name with
          | .error fault => .error (.rejected fault)
          | .ok p => .ok ({ p with align := max p.align kind.align, openByte := none },
              .ofKind spec.name kind offset spec.dim (fieldFlags spec.flags spec.dim))) := by
  unfold placeField
  split
  · exact absurd rfl hmask
  · rw [if_neg (Nat.not_le.mpr htotal)]
    rfl

/-- A field without total size is too large. -/
theorem placeField_eq_tooLarge (hmask : kind ≠ .bool 0)
    (htotal : wordLimit ≤ kind.size * spec.dim) :
    p.placeField spec kind = .error (.rejected .typeTooLarge) := by
  unfold placeField
  split
  · exact absurd rfl hmask
  · rw [if_pos htotal]
    rfl

/-- The offset of a field overflows where rounding up the cursor does. -/
theorem fieldOffset_eq_overflow_iff (p : Placement) (name : String) {align : Nat}
    (pinned : Option Nat) (pos : 0 < align) :
    p.fieldOffset name align pinned = .error .overflow ↔
      pinned = none ∧ p.cursor + align = wordLimit := by
  unfold fieldOffset
  cases pinned with
  | some offset =>
    constructor
    · intro h
      by_cases hmod : offset % align = 0
      · exact absurd h (by simp [hmod])
      · exact absurd h (by simp [hmod])
    · rintro ⟨h, -⟩
      exact absurd h (by simp)
  | none =>
    rw [← alignUpWord_eq_overflow_iff pos]
    cases hword : alignUpWord p.cursor align with
    | ok offset => simp
    | error fault => cases fault <;> simp

/-- Placing a property overflows in one state only. -/
theorem place_eq_overflow_iff (sound : ∀ kind, spec.body = .field kind → kind.unpacked.Sound) :
    p.place spec = .error .overflow ↔ p.MeetsWordEnd spec := by
  unfold place MeetsWordEnd
  cases hbody : spec.body with
  | bitfield =>
    constructor
    · intro h
      cases hplace : p.placeBitfield spec with
      | error fault => simp [hplace, Except.mapError] at h
      | ok result => simp [hplace, Except.mapError] at h
    · rintro ⟨kind, h, -⟩
      exact absurd h (by simp)
  | field kind =>
    simp only [SpecBody.field.injEq, exists_eq_left']
    by_cases hmask : kind = .bool 0
    · constructor
      · intro h
        rw [hmask] at h
        exact absurd h
          (by simp [placeField, throw, throwThe, MonadExceptOf.throw, bind, Except.bind])
      · exact fun h => absurd hmask h.1
    have hpos := (Kind.Sound.of_unpacked (sound kind hbody) hmask).align_pos
    by_cases htotal : wordLimit ≤ kind.size * spec.dim
    · rw [placeField_eq_tooLarge hmask htotal]
      constructor
      · intro h
        exact absurd h (by simp)
      · intro h
        exact absurd h.2.1 (Nat.not_lt.mpr htotal)
    rw [placeField_eq hmask (Nat.not_le.mp htotal)]
    have hoffset := fieldOffset_eq_overflow_iff p spec.name spec.offset hpos
    constructor
    · intro h
      refine ⟨hmask, Nat.not_le.mp htotal, hoffset.mp ?_⟩
      cases hplaced : p.fieldOffset spec.name kind.align spec.offset with
      | error failure =>
        rw [hplaced] at h
        exact congrArg Except.error (Except.error.inj h)
      | ok offset =>
        rw [hplaced, ok_bind] at h
        split at h
        · exact absurd h (by simp)
        · split at h <;> exact absurd h (by simp)
    · intro h
      rw [hoffset.mpr h.2.2]
      rfl

/-- What the sums of a layout rely on: everything before the cursor has an address, alignments
divide the number of words, and bitfields lie before the cursor. -/
structure InWords (p : Placement) : Prop where
  cursor_lt : p.cursor < wordLimit
  align_dvd : p.align ∣ maxExtent + 1
  bits_lt : ∀ byte used, p.usedBits? byte = some used → byte < p.cursor

/-- A bitfield whose byte has no address is too large. -/
theorem placeBitfield_of_exactEnd (words : p.InWords) (hdim : spec.dim = 1)
    (far : wordLimit ≤ p.bitfieldByte spec.offset + 1) :
    p.placeBitfield spec = .error .typeTooLarge := by
  have hnone : p.usedBits? (p.bitfieldByte spec.offset) = none := by
    cases hused : p.usedBits? (p.bitfieldByte spec.offset) with
    | none => rfl
    | some used =>
      have hbyte := words.bits_lt _ _ hused
      have hcursor := words.cursor_lt
      omega
  have hopen : p.openBitByte (p.bitfieldByte spec.offset) spec.name = .error .typeTooLarge := by
    rw [openBitByte, hnone]
    exact if_pos far
  rw [placeBitfield, if_neg (not_not_intro hdim)]
  exact congrArg (· >>= _) hopen

/-- A field that does not fit into the address space is too large, or the sum overflows. -/
theorem placeField_of_exactEnd (sound : kind.Sound) (hmask : kind ≠ .bool 0)
    (hpinned : ∀ offset, spec.offset = some offset → offset % kind.align = 0)
    (far : wordLimit ≤ spec.offset.getD (alignUp p.cursor kind.align) + kind.size * spec.dim) :
    p.placeField spec kind = .error (.rejected .typeTooLarge) ∨
      spec.offset = none ∧ kind.size * spec.dim < wordLimit ∧
        p.cursor + kind.align = wordLimit := by
  by_cases htotal : wordLimit ≤ kind.size * spec.dim
  · exact Or.inl (placeField_eq_tooLarge hmask htotal)
  rw [placeField_eq hmask (Nat.not_le.mp htotal)]
  cases hoffset : spec.offset with
  | some offset =>
    rw [hoffset, Option.getD_some] at far
    have hok : p.fieldOffset spec.name kind.align (some offset) = .ok offset := by
      rw [fieldOffset]
      exact if_pos (hpinned offset hoffset)
    left
    rw [hok, ok_bind, if_pos far]
  | none =>
    rw [hoffset, Option.getD_none] at far
    by_cases hmeets : p.cursor + kind.align = wordLimit
    · exact Or.inr ⟨rfl, Nat.not_le.mp htotal, hmeets⟩
    left
    have hround : p.fieldOffset spec.name kind.align none =
        if wordLimit ≤ p.cursor + (kind.align - 1) then .error (.rejected .typeTooLarge)
        else .ok (alignUp p.cursor kind.align) := by
      have hpos := sound.align_pos
      rw [fieldOffset, alignUpWord]
      by_cases hroom : wordLimit ≤ p.cursor + (kind.align - 1)
      · rw [if_pos hroom, if_pos hroom]
      · rw [if_neg hroom, if_neg hroom, if_neg (by omega)]
    rw [hround]
    by_cases hroom : wordLimit ≤ p.cursor + (kind.align - 1)
    · rw [if_pos hroom]
      rfl
    · rw [if_neg hroom, ok_bind, if_pos far]

/-- A property that does not fit into the address space is too large, or the sum overflows. -/
theorem place_of_exactEnd (sound : ∀ kind, spec.body = .field kind → kind.unpacked.Sound)
    (words : p.InWords) (regular : spec.Regular) (far : wordLimit ≤ p.exactEnd spec) :
    p.place spec = .error (.rejected .typeTooLarge) ∨ p.MeetsWordEnd spec := by
  unfold PropertySpec.Regular at regular
  unfold exactEnd at far
  unfold place
  cases hbody : spec.body with
  | bitfield =>
    rw [hbody] at regular far
    left
    rw [placeBitfield_of_exactEnd words regular far]
    rfl
  | field kind =>
    rw [hbody] at regular far
    obtain ⟨hmask, hpinned⟩ := regular
    have hkind := (sound kind hbody).of_unpacked hmask
    rcases placeField_of_exactEnd hkind hmask hpinned far with h | ⟨hoffset, htotal, hmeets⟩
    · exact Or.inl h
    · exact Or.inr ⟨kind, hbody, hmask, htotal, hoffset, hmeets⟩

/-- Where the sum overflows, the property does not fit either. -/
theorem MeetsWordEnd.regular_and_far
    (sound : ∀ kind, spec.body = .field kind → kind.unpacked.Sound) (dim_pos : 0 < spec.dim)
    (h : p.MeetsWordEnd spec) : spec.Regular ∧ wordLimit ≤ p.exactEnd spec := by
  obtain ⟨kind, hbody, hmask, -, hoffset, hmeets⟩ := h
  have hkind := (sound kind hbody).of_unpacked hmask
  have hround : p.cursor ≤ alignUp p.cursor kind.align := le_alignUp hkind.align_pos
  have halign : kind.align ≤ kind.size := Nat.le_of_dvd hkind.size_pos hkind.align_dvd_size
  have hsize : kind.size ≤ kind.size * spec.dim := Nat.le_mul_of_pos_right _ dim_pos
  unfold PropertySpec.Regular exactEnd
  rw [hbody, hoffset]
  refine ⟨⟨hmask, by simp⟩, ?_⟩
  change wordLimit ≤ alignUp p.cursor kind.align + kind.size * spec.dim
  omega

/-! ### The words of a run -/

/-- Taking bytes that have addresses keeps the invariant. -/
theorem InWords.occupy (words : p.InWords) {start stop : Nat} {owner : String}
    (hstop : stop < wordLimit) (ok : p.occupy start stop owner = .ok q) :
    q.InWords ∧ stop ≤ q.cursor := by
  obtain ⟨-, rfl⟩ := occupy_ok ok
  refine ⟨⟨max_lt words.cursor_lt hstop, words.align_dvd, fun byte used hused => ?_⟩,
    le_max_right _ _⟩
  exact lt_of_lt_of_le (words.bits_lt byte used hused) (le_max_left _ _)

/-- Recording bits of a byte before the cursor keeps the invariant. -/
theorem InWords.setUsedBits (words : p.InWords) {byte : Nat} (hbyte : byte < p.cursor)
    (used : UInt8) : (p.setUsedBits byte used).InWords := by
  refine ⟨words.cursor_lt, words.align_dvd, fun other bits hbits => ?_⟩
  rw [usedBits?_setUsedBits] at hbits
  split at hbits
  · next heq => exact heq ▸ hbyte
  · exact words.bits_lt other bits hbits

/-- A byte is set aside for bitfields only if it has an address. -/
theorem InWords.openBitByte (words : p.InWords) {byte : Nat} {owner : String}
    (ok : p.openBitByte byte owner = .ok q) : q.InWords ∧ byte < q.cursor := by
  rcases openBitByte_ok ok with ⟨used, hused, rfl⟩ | ⟨r, hstop, hr, rfl⟩
  · exact ⟨words, words.bits_lt byte used hused⟩
  · obtain ⟨hwords, hle⟩ := words.occupy hstop hr
    exact ⟨hwords.setUsedBits hle 0, hle⟩

/-- Placing a property keeps the invariant. -/
theorem InWords.place (words : p.InWords) {x : Property}
    (sound : ∀ kind, spec.body = .field kind → kind.unpacked.Sound)
    (ok : p.place spec = .ok (q, x)) : q.InWords := by
  rcases place_ok ok with ⟨-, hbit⟩ | ⟨kind, hbody, hfield⟩
  · obtain ⟨r, used, hr, -, -, rfl, -⟩ := placeBitfield_ok hbit
    obtain ⟨hwords, hbyte⟩ := words.openBitByte hr
    have hnext := hwords.setUsedBits hbyte (used ||| lowestFreeBit used)
    exact ⟨hnext.cursor_lt, hnext.align_dvd, hnext.bits_lt⟩
  · obtain ⟨offset, r, hmask, -, hstop, hr, rfl, -⟩ := placeField_ok hfield
    obtain ⟨hwords, -⟩ := words.occupy hstop hr
    have hdvd := ((sound kind hbody).of_unpacked hmask).align_dvd_limit
    refine ⟨hwords.cursor_lt, ?_, hwords.bits_lt⟩
    change max r.align kind.align ∣ maxExtent + 1
    rcases max_choice r.align kind.align with h | h
    · rw [h]
      exact hwords.align_dvd
    · rw [h]
      exact hdvd

/-- A layout begins with an address. -/
theorem inWords_start {parent : Option TypeDescriptor}
    (sound : ∀ t, parent = some t → (Kind.struct t).Sound) :
    (Placement.start parent).InWords := by
  cases parent with
  | none => exact ⟨by decide, one_dvd _, by simp [Placement.start, usedBits?]⟩
  | some t =>
    have hsize : t.size ≤ maxExtent := (sound t rfl).size_le_maxExtent
    exact ⟨lt_of_le_of_lt hsize (by decide), (sound t rfl).align_dvd_limit,
      by simp [Placement.start, usedBits?]⟩

end Placement

namespace TypeDescriptor

variable {parent : Option TypeDescriptor} {specs : List PropertySpec} {p : Placement}
  {spec : PropertySpec} {placed : List Property}

/-! ### Builds -/

/-- In every state of a layout the cursor is a word. -/
theorem inWords_of_placeAll (parentSound : ∀ t, parent = some t → (Kind.struct t).Sound)
    (specsSound : ∀ spec ∈ specs, ∀ kind, spec.body = .field kind → kind.unpacked.Sound)
    (ok : placeAll parent specs (.start parent) [] = .ok (p, placed)) : p.InWords := by
  refine placeAll_invariant (fun p _ => p.InWords) ?_ (Placement.inWords_start parentSound) ok
  intro spec hspec p _ words _ q x hplace
  exact words.place (specsSound spec hspec) hplace

/-- The declaration that a build gets to is one of those it was given, and the cursor is a word. -/
theorem Reaches.inWords (h : Reaches parent specs p spec)
    (parentSound : ∀ t, parent = some t → (Kind.struct t).Sound)
    (specsSound : ∀ spec ∈ specs, ∀ kind, spec.body = .field kind → kind.unpacked.Sound) :
    spec ∈ specs ∧ 0 < spec.dim ∧ p.InWords := by
  obtain ⟨before, after, placed, rfl, hbefore, hadmits⟩ := h
  refine ⟨by simp, hadmits.dim_pos, inWords_of_placeAll parentSound ?_ hbefore⟩
  exact fun other hother => specsSound other (List.mem_append_left _ hother)

/-- A layout does not fit: a property ends where there are no addresses any more, or the rounded
size is beyond the limit. -/
def DoesNotFit (parent : Option TypeDescriptor) (specs : List PropertySpec) : Prop :=
  (∃ p spec, Reaches parent specs p spec ∧ spec.Regular ∧ wordLimit ≤ p.exactEnd spec) ∨
    ∃ p, Completes parent specs p ∧ maxExtent < alignUp (max p.cursor 1) p.align

/-- A layout rounds up where value and alignment add up to the number of words. -/
def MeetsWordEnd (parent : Option TypeDescriptor) (specs : List PropertySpec) : Prop :=
  (∃ p spec, Reaches parent specs p spec ∧ p.MeetsWordEnd spec) ∨
    ∃ p, Completes parent specs p ∧ max p.cursor 1 + p.align = wordLimit

/-- The size of a type overflows exactly if its rounding does. -/
theorem finalSize_eq_overflow_iff {cursor align : Nat} (pos : 0 < align) :
    finalSize cursor align = .error .overflow ↔ max cursor 1 + align = wordLimit := by
  rw [← alignUpWord_eq_overflow_iff pos, finalSize]
  cases hword : alignUpWord (max cursor 1) align with
  | ok size =>
    constructor
    · intro h
      by_cases hle : size ≤ maxExtent
      · exact absurd h (by simp [hle])
      · exact absurd h (by simp [hle])
    · intro h
      exact absurd h (by simp)
  | error fault => cases fault <;> simp

/-- A rounded size beyond the limit is too large, unless its rounding overflows. -/
theorem finalSize_eq_tooLarge {cursor align : Nat} (far : maxExtent < alignUp (max cursor 1) align)
    (not_meets : max cursor 1 + align ≠ wordLimit) :
    finalSize cursor align = .error (.rejected .typeTooLarge) := by
  rw [finalSize, alignUpWord]
  by_cases hroom : wordLimit ≤ max cursor 1 + (align - 1)
  · rw [if_pos hroom]
  · have hsum : ¬ wordLimit ≤ max cursor 1 + align := by omega
    rw [if_neg hroom, if_neg hsum]
    exact if_neg (Nat.not_le.mpr far)

section Outcomes

variable {serial : Nat} {name : String}
  (parentSound : ∀ t, parent = some t → (Kind.struct t).Sound)
  (specsSound : ∀ spec ∈ specs, ∀ kind, spec.body = .field kind → kind.unpacked.Sound)
include parentSound specsSound

/-- When all declarations are placed, cursor and alignment are words. -/
theorem Completes.inWords (h : Completes parent specs p) : p.InWords :=
  h.elim fun _ hplace => inWords_of_placeAll parentSound specsSound hplace

theorem Completes.align_pos (h : Completes parent specs p) : 0 < p.align :=
  Nat.pos_of_dvd_of_pos (h.inWords parentSound specsSound).align_dvd (Nat.succ_pos _)

/-- A build overflows at the rounding of a cursor or of the size, and nowhere else. -/
theorem build_eq_overflow_iff :
    build serial name parent specs = .error .overflow ↔ MeetsWordEnd parent specs := by
  constructor
  · intro h
    rcases exists_of_build_error h with ⟨-, -, fault, -, hfault⟩ | ⟨p, spec, hreach, hplace⟩ |
      ⟨p, hcomplete, hsize⟩
    · exact absurd hfault (by simp)
    · have hspec := specsSound spec (hreach.inWords parentSound specsSound).1
      exact Or.inl ⟨p, spec, hreach, (Placement.place_eq_overflow_iff hspec).mp hplace⟩
    · have hpos := hcomplete.align_pos parentSound specsSound
      exact Or.inr ⟨p, hcomplete, (finalSize_eq_overflow_iff hpos).mp hsize⟩
  · rintro (⟨p, spec, hreach, hmeets⟩ | ⟨p, hcomplete, hmeets⟩)
    · have hspec := specsSound spec (hreach.inWords parentSound specsSound).1
      exact build_eq_error_of_reaches hreach ((Placement.place_eq_overflow_iff hspec).mpr hmeets)
    · have hpos := hcomplete.align_pos parentSound specsSound
      exact build_eq_error_of_completes hcomplete ((finalSize_eq_overflow_iff hpos).mpr hmeets)

/-- What does not fit is too large, if nothing overflows. -/
theorem build_eq_tooLarge (far : DoesNotFit parent specs)
    (not_meets : ¬ MeetsWordEnd parent specs) :
    build serial name parent specs = .error (.rejected .typeTooLarge) := by
  rcases far with ⟨p, spec, hreach, hregular, hfar⟩ | ⟨p, hcomplete, hfar⟩
  · obtain ⟨hmem, -, hwords⟩ := hreach.inWords parentSound specsSound
    rcases Placement.place_of_exactEnd (specsSound spec hmem) hwords hregular hfar with
      hplace | hmeets
    · exact build_eq_error_of_reaches hreach hplace
    · exact absurd (Or.inl ⟨p, spec, hreach, hmeets⟩) not_meets
  · refine build_eq_error_of_completes hcomplete (finalSize_eq_tooLarge hfar fun hmeets => ?_)
    exact not_meets (Or.inr ⟨p, hcomplete, hmeets⟩)

/-- What overflows does not fit. -/
theorem MeetsWordEnd.doesNotFit (meets : MeetsWordEnd parent specs) :
    DoesNotFit parent specs := by
  rcases meets with ⟨p, spec, hreach, hmeets⟩ | ⟨p, hcomplete, hmeets⟩
  · obtain ⟨hmem, hdim, -⟩ := hreach.inWords parentSound specsSound
    exact Or.inl ⟨p, spec, hreach, hmeets.regular_and_far (specsSound spec hmem) hdim⟩
  · -- the alignment is far below the number of words, so the size is far beyond the limit
    have hdvd := (hcomplete.inWords parentSound specsSound).align_dvd
    have halign : p.align ≤ maxExtent + 1 := Nat.le_of_dvd (Nat.succ_pos _) hdvd
    have hround : max p.cursor 1 ≤ alignUp (max p.cursor 1) p.align :=
      le_alignUp (hcomplete.align_pos parentSound specsSound)
    have hlimit : maxExtent + (maxExtent + 1) < wordLimit := by decide
    exact Or.inr ⟨p, hcomplete, by omega⟩

end Outcomes

/-- A build overflows exactly where it rounds up a value that is one alignment below the number of
words.  Such a layout does not fit, and any other one that does not fit is reported as too large. -/
theorem build_overflow (parentBuilt : ∀ t, parent = some t → t.Built)
    (specsMade : ∀ spec ∈ specs, ∀ kind, spec.body = .field kind → kind.Made) (serial : Nat)
    (name : String) :
    (build serial name parent specs = .error .overflow ↔ MeetsWordEnd parent specs) ∧
      (DoesNotFit parent specs → ¬ MeetsWordEnd parent specs →
        build serial name parent specs = .error (.rejected .typeTooLarge)) ∧
      (MeetsWordEnd parent specs → DoesNotFit parent specs) ∧
      ∀ p spec, Reaches parent specs p spec → p.cursor < wordLimit := by
  have parentSound : ∀ t, parent = some t → (Kind.struct t).Sound :=
    fun t ht => (parentBuilt t ht).sound
  have specsSound : ∀ spec ∈ specs, ∀ kind, spec.body = .field kind → kind.unpacked.Sound :=
    fun spec hspec kind hbody => (specsMade spec hspec kind hbody).sound
  refine ⟨build_eq_overflow_iff parentSound specsSound,
    build_eq_tooLarge parentSound specsSound, MeetsWordEnd.doesNotFit parentSound specsSound, ?_⟩
  intro p spec hreach
  exact (hreach.inWords parentSound specsSound).2.2.cursor_lt

/-- A byte that is pinned near the end of the address space, and a field behind it. -/
def farSpecs : List PropertySpec :=
  [{ name := "Last", body := .field (.scalar .uint8), offset := some (wordLimit - 9) },
    { name := "Next", body := .field (.scalar .int64) }]

theorem made_farSpecs : ∀ spec ∈ farSpecs, ∀ kind, spec.body = .field kind → kind.Made := by
  simp only [farSpecs, List.mem_cons, List.not_mem_nil, or_false, forall_eq_or_imp, forall_eq,
    SpecBody.field.injEq]
  exact ⟨fun _ h => h ▸ .scalar _, fun _ h => h ▸ .scalar _⟩

/-- The field behind the byte begins eight bytes before the end and has alignment eight. -/
theorem build_overflow_farSpecs :
    build 0 "Huge" none farSpecs = .error .overflow ∧ DoesNotFit none farSpecs := by
  have hparent : ∀ t, (none : Option TypeDescriptor) = some t → t.Built := by simp
  obtain ⟨hoverflow, -, hfar, -⟩ := build_overflow hparent made_farSpecs 0 "Huge"
  have hmeets : MeetsWordEnd none farSpecs := by
    refine Or.inl ⟨_, { name := "Next", body := .field (.scalar .int64) },
      ⟨farSpecs.take 1, [], _, rfl, rfl, ⟨rfl, ?_, Nat.one_pos⟩⟩, .scalar .int64, rfl, ?_, ?_⟩
    · simp [Property.ofKind]
    · simp
    · decide
  exact ⟨hoverflow.mpr hmeets, hfar hmeets⟩

/-- Not every layout is either given or refused. -/
theorem exists_overflowing_build :
    ¬ ∀ (serial : Nat) (name : String) (parent : Option TypeDescriptor)
      (specs : List PropertySpec), (∀ t, parent = some t → t.Built) →
      (∀ spec ∈ specs, ∀ kind, spec.body = .field kind → kind.Made) →
      build serial name parent specs ≠ .error .overflow := by
  intro h
  exact h 0 "Huge" none farSpecs (by simp) made_farSpecs rfl

end TypeDescriptor

end PropertyReflection
