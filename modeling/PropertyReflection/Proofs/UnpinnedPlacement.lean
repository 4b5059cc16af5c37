import Mathlib
import PropertyReflection.Proofs.Ancestors
import PropertyReflection.Proofs.WordEnd

/-!
# Declarations without an offset

A declaration that is pinned to an offset can be at odds with what is there already.  One that is
not pinned never is, whatever was pinned before it: everything that is taken lies before the cursor,
so the bytes behind the cursor are free, and a bitfield goes on in the open byte only while a bit of
it is left.

That the open byte is one of bitfields is the invariant that this needs, `Placement.OpenRecorded`.
The rest is part of `Placement.Sound`.

### Outline

* `Placement.Sound.occupy_ahead` and `Placement.bitfieldByte_unpinned`, for the bytes that unpinned
  properties get;
* `Placement.Sound.placeBitfield_unpinned` and `Placement.Sound.placeField_unpinned`, which say what
  placing such a property comes to;
* `Placement.property?_of_place_error`, for the property that a fault names;
* `TypeDescriptor.collisions_are_pinned`, for a whole build.
-/

namespace PropertyReflection

namespace LayoutFault

/-- The property that a fault names. -/
def property? : LayoutFault → Option String
  | .duplicateProperty property | .zeroArrayDim property | .bitfieldArray property _
  | .misaligned property _ _ | .overlapping property _ | .bitfieldByteFull property _
  | .zeroFieldMask property => some property
  | .typeTooLarge => none

/-- True if a property is at fault for where it is: its bytes are taken, its alignment does not suit
them, or no bit is left. -/
def isCollision : LayoutFault → Bool
  | .overlapping .. | .misaligned .. | .bitfieldByteFull .. => true
  | _ => false

end LayoutFault

namespace Placement

variable {p q r : Placement} {placed : List Property} {spec : PropertySpec} {kind : Kind}
  {x : Property} {start byte : Nat} {used : UInt8} {fault : LayoutFault}

theorem place_bitfield (h : spec.body = .bitfield) :
    p.place spec = (p.placeBitfield spec).mapError .rejected := by
  simp only [place, h]

theorem place_field (h : spec.body = .field kind) : p.place spec = p.placeField spec kind := by
  simp only [place, h]

/-! ### The bytes ahead -/

/-- The open byte holds bitfields, and their bits are recorded. -/
def OpenRecorded (p : Placement) : Prop :=
  ∀ byte, p.openByte = some byte → ∃ used, p.usedBits? byte = some used

/-- At first no byte is open. -/
theorem openRecorded_start (parent : Option TypeDescriptor) :
    (Placement.start parent).OpenRecorded := by
  cases parent <;> simp [OpenRecorded, Placement.start]

/-- Placing a bitfield opens its byte, and placing a field closes whatever was open. -/
theorem openRecorded_of_place (ok : p.place spec = .ok (q, x)) : q.OpenRecorded := by
  rcases place_ok ok with ⟨-, hbit⟩ | ⟨kind, -, hfield⟩
  · obtain ⟨r, used, -, -, -, rfl, -⟩ := placeBitfield_ok hbit
    rintro byte ⟨rfl⟩
    exact ⟨_, (usedBits?_setUsedBits r _ _ _).trans (if_pos rfl)⟩
  · obtain ⟨offset, r, -, -, -, -, rfl, -⟩ := placeField_ok hfield
    exact fun byte h => absurd h (by simp)

/-- Everything that is taken lies before the cursor, so what lies behind it can be taken. -/
theorem Sound.occupy_ahead (h : p.Sound placed) (ahead : p.cursor ≤ start) (stop : Nat)
    (owner : String) :
    p.occupy start stop owner =
      .ok { p with cursor := max p.cursor stop, taken := p.taken ++ [⟨start, stop, owner⟩] } := by
  refine occupy_eq_ok_iff.mpr ⟨fun s hs => ?_, rfl⟩
  have hbelow := h.below s hs
  have hapart : ¬ start < s.stop := by omega
  rw [Span.meets, decide_eq_false hapart, Bool.false_and]

/-- No byte behind the cursor holds bitfields. -/
theorem Sound.usedBits?_ahead (h : p.Sound placed) (ahead : p.cursor ≤ byte) :
    p.usedBits? byte = none := by
  cases hused : p.usedBits? byte with
  | none => rfl
  | some used =>
    obtain ⟨s, hs, -, hstop⟩ := h.bitCovered byte used hused
    have hbelow := h.below s hs
    omega

/-- A byte that no bitfield has used is set aside by taking it. -/
theorem openBitByte_of_unused {owner : String} (unused : p.usedBits? byte = none)
    (room : byte + 1 < wordLimit) (ok : p.occupy byte (byte + 1) owner = .ok r) :
    p.openBitByte byte owner = .ok (r.setUsedBits byte 0) := by
  simp [openBitByte, unused, Nat.not_le.mpr room, ok, bind, Except.bind, pure, Except.pure]

/-! ### Unpinned bitfields -/

/-- A bitfield that is not pinned goes to a byte of bitfields that has a bit left, or to the byte at
the cursor. -/
theorem bitfieldByte_unpinned (recorded : p.OpenRecorded) :
    (∃ used, p.usedBits? (p.bitfieldByte none) = some used ∧ used ≠ 0xff) ∨
      p.bitfieldByte none = p.cursor := by
  cases hopen : p.openByte with
  | none => exact Or.inr (by simp only [bitfieldByte, hopen])
  | some byte =>
    obtain ⟨used, hused⟩ := recorded byte hopen
    have hbyte : p.bitfieldByte none = if p.usedBits? byte = some 0xff then p.cursor else byte := by
      simp only [bitfieldByte, hopen]
    by_cases hfull : used = 0xff
    · right
      rw [hbyte, if_pos (hfull ▸ hused)]
    · left
      rw [hbyte, if_neg (by simpa [hused] using hfull)]
      exact ⟨used, hused, hfull⟩

/-- A bitfield is placed if its byte can be set aside and has a bit left. -/
theorem placeBitfield_eq (hdim : spec.dim = 1)
    (ok : p.openBitByte (p.bitfieldByte spec.offset) spec.name = .ok r)
    (hused : r.usedBits? (p.bitfieldByte spec.offset) = some used) (free : used ≠ 0xff) :
    p.placeBitfield spec =
      .ok ({ r.setUsedBits (p.bitfieldByte spec.offset) (used ||| lowestFreeBit used) with
          openByte := some (p.bitfieldByte spec.offset) },
        .ofKind spec.name (.bool (lowestFreeBit used)) (p.bitfieldByte spec.offset) 1
          spec.flags) := by
  simp [placeBitfield, hdim, ok, hused, free, bind, Except.bind, pure, Except.pure]

/-- A bitfield that is not pinned is placed, unless it has several elements, or its byte has no
address. -/
theorem Sound.placeBitfield_unpinned (h : p.Sound placed) (recorded : p.OpenRecorded)
    (unpinned : spec.offset = none) :
    (p.placeBitfield spec = .error (.bitfieldArray spec.name spec.dim) ∧ spec.dim ≠ 1) ∨
      (p.placeBitfield spec = .error .typeTooLarge ∧ wordLimit ≤ p.bitfieldByte none + 1) ∨
      ∃ next, p.placeBitfield spec = .ok next := by
  by_cases hdim : spec.dim = 1
  case neg =>
    left
    exact ⟨by simp [Placement.placeBitfield, hdim, bind, Except.bind, throw, throwThe,
      MonadExceptOf.throw], hdim⟩
  right
  rcases bitfieldByte_unpinned recorded with ⟨used, hused, hfree⟩ | hcursor
  · right
    have hopen : p.openBitByte (p.bitfieldByte none) spec.name = .ok p := by
      simp only [Placement.openBitByte, hused]
    rw [← unpinned] at hopen hused
    exact ⟨_, placeBitfield_eq hdim hopen hused hfree⟩
  have hnone : p.usedBits? (p.bitfieldByte none) = none := h.usedBits?_ahead hcursor.ge
  by_cases hroom : wordLimit ≤ p.bitfieldByte none + 1
  · left
    have hopen : p.openBitByte (p.bitfieldByte spec.offset) spec.name = .error .typeTooLarge := by
      rw [unpinned]
      simp only [Placement.openBitByte, hnone, if_pos hroom]
    rw [Placement.placeBitfield, if_neg (not_not_intro hdim)]
    exact ⟨congrArg (· >>= _) hopen, hroom⟩
  · right
    have hopen := openBitByte_of_unused hnone (Nat.not_le.mp hroom)
      (h.occupy_ahead hcursor.ge (p.bitfieldByte none + 1) spec.name)
    rw [← unpinned] at hopen
    have hfree : (0 : UInt8) ≠ 0xff := by decide
    refine ⟨_, placeBitfield_eq hdim hopen ?_ hfree⟩
    exact (usedBits?_setUsedBits _ _ _ _).trans (if_pos rfl)

/-! ### Unpinned fields -/

/-- The offset of a field that is not pinned is the cursor rounded up, if there is such an
address. -/
theorem eq_alignUp_of_fieldOffset_ok {name : String} {align offset : Nat}
    (ok : p.fieldOffset name align none = .ok offset) : offset = alignUp p.cursor align := by
  unfold fieldOffset at ok
  cases hword : alignUpWord p.cursor align with
  | error fault => cases fault <;> simp [hword] at ok
  | ok rounded =>
    simp only [hword, Except.ok.injEq] at ok
    rw [← ok, alignUpWord_ok hword]

/-- The only fault of such an offset is that there is no such address. -/
theorem eq_tooLarge_of_fieldOffset_error {name : String} {align : Nat}
    (fails : p.fieldOffset name align none = .error (.rejected fault)) : fault = .typeTooLarge := by
  unfold fieldOffset at fails
  cases hword : alignUpWord p.cursor align with
  | ok rounded => simp [hword] at fails
  | error fault => cases fault <;> simp_all

/-- A field that is not pinned takes the bytes from its offset on, if they all have addresses. -/
theorem Sound.placeField_unpinned (h : p.Sound placed) (pos : 0 < kind.align)
    (hmask : kind ≠ .bool 0) (htotal : kind.size * spec.dim < wordLimit)
    (unpinned : spec.offset = none) :
    p.placeField spec kind =
      (p.fieldOffset spec.name kind.align none >>= fun offset =>
        if wordLimit ≤ offset + kind.size * spec.dim then .error (.rejected .typeTooLarge)
        else .ok ({ p with
            cursor := max p.cursor (offset + kind.size * spec.dim)
            align := max p.align kind.align
            taken := p.taken ++ [⟨offset, offset + kind.size * spec.dim, spec.name⟩]
            openByte := none },
          .ofKind spec.name kind offset spec.dim (fieldFlags spec.flags spec.dim))) := by
  rw [placeField_eq hmask htotal, unpinned]
  cases hoffset : p.fieldOffset spec.name kind.align none with
  | error failure => rfl
  | ok offset =>
    have hahead : p.cursor ≤ offset := by
      rw [eq_alignUp_of_fieldOffset_ok hoffset]
      exact le_alignUp pos
    rw [ok_bind, ok_bind, h.occupy_ahead hahead]

/-! ### Unpinned properties -/

/-- If nothing is wrong with a declaration itself, the property is placed as long as there are
addresses for it. -/
theorem Sound.exists_place (h : p.Sound placed) (recorded : p.OpenRecorded)
    (sound : ∀ kind, spec.body = .field kind → kind.unpacked.Sound) (dim_pos : 0 < spec.dim)
    (unpinned : spec.offset = none) (regular : spec.Regular)
    (fits : p.exactEnd spec < wordLimit) : ∃ next, p.place spec = .ok next := by
  unfold PropertySpec.Regular at regular
  unfold exactEnd at fits
  cases hbody : spec.body with
  | bitfield =>
    rw [hbody] at regular fits
    rcases h.placeBitfield_unpinned recorded unpinned with ⟨-, hdim⟩ | ⟨-, hfar⟩ | ⟨next, hnext⟩
    · exact absurd regular hdim
    · rw [← unpinned] at hfar
      exact absurd fits (Nat.not_lt.mpr hfar)
    · refine ⟨next, ?_⟩
      rw [place_bitfield hbody, hnext]
      rfl
  | field kind =>
    rw [hbody] at regular fits
    obtain ⟨hmask, -⟩ := regular
    have hkind := (sound kind hbody).of_unpacked hmask
    rw [unpinned] at fits
    change alignUp p.cursor kind.align + kind.size * spec.dim < wordLimit at fits
    -- the cursor can be rounded up, because an element is at least as large as its alignment
    have hround : p.cursor ≤ alignUp p.cursor kind.align := le_alignUp hkind.align_pos
    have halign : kind.align ≤ kind.size := Nat.le_of_dvd hkind.size_pos hkind.align_dvd_size
    have hsize : kind.size ≤ kind.size * spec.dim := Nat.le_mul_of_pos_right _ dim_pos
    have hoffset : p.fieldOffset spec.name kind.align none = .ok (alignUp p.cursor kind.align) := by
      simp only [fieldOffset, alignUpWord]
      rw [if_neg (by omega), if_neg (by omega)]
    have hplace := h.placeField_unpinned hkind.align_pos hmask (by omega) unpinned
    rw [hoffset, ok_bind, if_neg (Nat.not_le.mpr fits)] at hplace
    exact ⟨_, (place_field hbody).trans hplace⟩

/-- A declaration that is not pinned is never blamed for its offset. -/
theorem Sound.isCollision_of_place_unpinned (h : p.Sound placed) (recorded : p.OpenRecorded)
    (sound : ∀ kind, spec.body = .field kind → kind.unpacked.Sound) (unpinned : spec.offset = none)
    (fails : p.place spec = .error (.rejected fault)) : fault.isCollision = false := by
  cases hbody : spec.body with
  | bitfield =>
    rw [place_bitfield hbody] at fails
    rcases h.placeBitfield_unpinned recorded unpinned with ⟨hdim, -⟩ | ⟨hfar, -⟩ | ⟨next, hnext⟩
    · rw [hdim] at fails
      cases fails
      rfl
    · rw [hfar] at fails
      cases fails
      rfl
    · rw [hnext] at fails
      cases fails
  | field kind =>
    rw [place_field hbody] at fails
    by_cases hmask : kind = .bool 0
    · subst hmask
      cases fails
      rfl
    by_cases htotal : kind.size * spec.dim < wordLimit
    case neg =>
      rw [placeField_eq_tooLarge hmask (Nat.not_lt.mp htotal)] at fails
      cases fails
      rfl
    have hpos := ((sound kind hbody).of_unpacked hmask).align_pos
    rw [h.placeField_unpinned hpos hmask htotal unpinned] at fails
    cases hoffset : p.fieldOffset spec.name kind.align none with
    | error failure =>
      rw [hoffset] at fails
      obtain rfl : failure = .rejected fault := Except.error.inj fails
      rw [eq_tooLarge_of_fieldOffset_error hoffset]
      rfl
    | ok offset =>
      rw [hoffset, ok_bind] at fails
      split at fails
      · cases fails
        rfl
      · cases fails

/-! ### Faults -/

/-- Taken bytes are reported with the property that wants them. -/
theorem property?_of_occupy_error {stop : Nat} {owner : String}
    (fails : p.occupy start stop owner = .error fault) : fault.property? = some owner := by
  unfold occupy at fails
  simp only at fails
  split at fails
  · cases fails
    rfl
  · cases fails

/-- A byte that cannot be set aside is taken, or has no address. -/
theorem property?_of_openBitByte_error {owner : String}
    (fails : p.openBitByte byte owner = .error fault) :
    fault.property? = some owner ∨ fault = .typeTooLarge := by
  unfold openBitByte at fails
  split at fails
  · cases fails
  split at fails
  · cases fails
    exact Or.inr rfl
  · left
    cases hr : p.occupy byte (byte + 1) owner with
    | ok r => simp [hr, bind, Except.bind, pure, Except.pure] at fails
    | error other =>
      rw [hr] at fails
      cases fails
      exact property?_of_occupy_error hr

/-- A fault of a bitfield names the bitfield, unless its byte has no address. -/
theorem property?_of_placeBitfield_error (fails : p.placeBitfield spec = .error fault) :
    fault.property? = some spec.name ∨ fault = .typeTooLarge := by
  unfold placeBitfield at fails
  by_cases hdim : spec.dim = 1
  case neg =>
    left
    simp only [hdim, ne_eq, not_false_eq_true, if_true, bind, Except.bind, throw, throwThe,
      MonadExceptOf.throw, Except.error.injEq] at fails
    rw [← fails]
    rfl
  cases hr : p.openBitByte (p.bitfieldByte spec.offset) spec.name with
  | error other =>
    simp only [hdim, hr, ne_eq, not_true_eq_false, if_false, bind, Except.bind,
      Except.error.injEq] at fails
    exact fails ▸ property?_of_openBitByte_error hr
  | ok r =>
    by_cases hfull : (r.usedBits? (p.bitfieldByte spec.offset)).getD 0 = 0xff
    · left
      simp only [hdim, hr, hfull, ne_eq, not_true_eq_false, if_false, if_true, bind, Except.bind,
        pure, Except.pure, throw, throwThe, MonadExceptOf.throw, Except.error.injEq] at fails
      rw [← fails]
      rfl
    · simp [hdim, hr, hfull, bind, Except.bind, pure, Except.pure] at fails

/-- An offset that does not suit a field is reported with the field. -/
theorem property?_of_fieldOffset_error {name : String} {align : Nat} {pinned : Option Nat}
    (fails : p.fieldOffset name align pinned = .error (.rejected fault)) :
    fault.property? = some name ∨ fault = .typeTooLarge := by
  cases pinned with
  | none => exact Or.inr (eq_tooLarge_of_fieldOffset_error fails)
  | some offset =>
    left
    by_cases hmod : offset % align = 0
    · simp [fieldOffset, hmod] at fails
    · simp only [fieldOffset, hmod, if_false, Except.error.injEq, BuildFailure.rejected.injEq]
        at fails
      rw [← fails]
      rfl

/-- A fault of a field names the field, unless it has too few addresses. -/
theorem property?_of_placeField_error
    (fails : p.placeField spec kind = .error (.rejected fault)) :
    fault.property? = some spec.name ∨ fault = .typeTooLarge := by
  by_cases hmask : kind = .bool 0
  · left
    subst hmask
    cases fails
    rfl
  by_cases htotal : kind.size * spec.dim < wordLimit
  case neg =>
    right
    rw [placeField_eq_tooLarge hmask (Nat.not_lt.mp htotal)] at fails
    cases fails
    rfl
  rw [placeField_eq hmask htotal] at fails
  cases hoffset : p.fieldOffset spec.name kind.align spec.offset with
  | error failure =>
    rw [hoffset] at fails
    obtain rfl : failure = .rejected fault := Except.error.inj fails
    exact property?_of_fieldOffset_error hoffset
  | ok offset =>
    rw [hoffset, ok_bind] at fails
    split at fails
    · cases fails
      exact Or.inr rfl
    · split at fails
      · next other hoccupy =>
        cases fails
        exact Or.inl (property?_of_occupy_error hoccupy)
      · cases fails

/-- A fault of a placement names the declaration, unless there are too few addresses. -/
theorem property?_of_place_error (fails : p.place spec = .error (.rejected fault)) :
    fault.property? = some spec.name ∨ fault = .typeTooLarge := by
  cases hbody : spec.body with
  | field kind =>
    rw [place_field hbody] at fails
    exact property?_of_placeField_error fails
  | bitfield =>
    rw [place_bitfield hbody] at fails
    cases hplace : p.placeBitfield spec with
    | ok next => simp [hplace, Except.mapError] at fails
    | error other =>
      rw [hplace] at fails
      cases fails
      exact property?_of_placeBitfield_error hplace

end Placement

namespace TypeDescriptor

variable {parent : Option TypeDescriptor} {specs : List PropertySpec} {p q : Placement}
  {placed properties : List Property} {spec : PropertySpec} {fault : LayoutFault}

/-! ### Builds -/

/-- In every state of a layout the open byte is one of bitfields. -/
theorem openRecorded_of_placeAll
    (ok : placeAll parent specs (.start parent) [] = .ok (p, placed)) : p.OpenRecorded := by
  refine placeAll_invariant (fun p _ => p.OpenRecorded) ?_ (Placement.openRecorded_start parent) ok
  exact fun _ _ _ _ _ _ _ _ hplace => Placement.openRecorded_of_place hplace

/-- The properties are placed in the order of their declarations and have their names. -/
theorem names_of_placeAll (ok : placeAll parent specs p placed = .ok (q, properties)) :
    properties.map (·.name) = placed.map (·.name) ++ specs.map (·.name) := by
  induction specs generalizing p placed with
  | nil =>
    cases ok
    simp
  | cons spec rest ih =>
    obtain ⟨r, x, hplace, hrest⟩ := placeAll_cons_ok ok
    rw [ih hrest]
    simp [Placement.name_of_place hplace]

/-- What is refused before it is placed is not refused for where it is. -/
theorem isCollision_of_refusal? (h : refusal? parent placed spec = some fault) :
    fault.isCollision = false := by
  unfold refusal? at h
  split at h
  · cases h
    rfl
  split at h
  · cases h
    rfl
  · cases h

/-- Nor is a type that is complete. -/
theorem isCollision_of_finalSize {cursor align : Nat}
    (h : finalSize cursor align = .error (.rejected fault)) : fault.isCollision = false := by
  unfold finalSize at h
  split at h
  · cases h
  · cases h
    rfl
  · split at h
    · cases h
    · cases h
      rfl

/-- The declaration that a build gets to is the first one of its name. -/
theorem Reaches.find?_eq (h : Reaches parent specs p spec) :
    specs.find? (·.name == spec.name) = some spec := by
  obtain ⟨before, after, placed, rfl, hbefore, hadmits⟩ := h
  have hnames := names_of_placeAll hbefore
  have hnone : before.find? (·.name == spec.name) = none := by
    refine List.find?_eq_none.mpr fun other hother heq => ?_
    have hmem : other.name ∈ placed.map (·.name) := by
      rw [hnames]
      exact List.mem_append_right _ (List.mem_map_of_mem hother)
    obtain ⟨x, hx, hxname⟩ := List.mem_map.mp hmem
    exact hadmits.notPlaced x hx (hxname.trans (by simpa using heq))
  rw [List.find?_append, hnone]
  simp

/-- A declaration that is at fault for where it is, is pinned, and it is the first one of its
name. -/
theorem exists_pinned_of_collision (parentSound : ∀ t, parent = some t → (Kind.struct t).Sound)
    (specsSound : ∀ spec ∈ specs, ∀ kind, spec.body = .field kind → kind.unpacked.Sound)
    {serial : Nat} {name : String} (fails : build serial name parent specs = .error (.rejected fault))
    (collision : fault.isCollision = true) :
    ∃ spec, fault.property? = some spec.name ∧
      specs.find? (·.name == spec.name) = some spec ∧ spec.offset.isSome = true := by
  rcases exists_of_build_error fails with ⟨own, spec, other, hrefusal, hfault⟩ |
    ⟨p, spec, hreach, hplace⟩ | ⟨p, hcomplete, hsize⟩
  · cases hfault
    exact absurd collision (by simp [isCollision_of_refusal? hrefusal])
  · refine ⟨spec, ?_, hreach.find?_eq, ?_⟩
    · rcases Placement.property?_of_place_error hplace with hname | rfl
      · exact hname
      · exact absurd collision (by simp [LayoutFault.isCollision])
    · by_contra hpinned
      obtain ⟨before, after, placed, rfl, hbefore, -⟩ := hreach
      have hsound := sound_of_placeAll parentSound
        (fun other hother => specsSound other (List.mem_append_left _ hother)) hbefore
      have hfree := hsound.isCollision_of_place_unpinned (openRecorded_of_placeAll hbefore)
        (specsSound spec (by simp)) (by simpa using hpinned) hplace
      exact absurd collision (by simp [hfree])
  · exact absurd collision (by simp [isCollision_of_finalSize hsize])

/-- The last property of a run is apart from those before it and lies behind the inherited bytes. -/
theorem apart_of_placeAll (parentBuilt : ∀ t, parent = some t → t.Built)
    (specsSound : ∀ spec ∈ specs, ∀ kind, spec.body = .field kind → kind.unpacked.Sound)
    {x : Property} (ok : placeAll parent specs (.start parent) [] = .ok (q, placed ++ [x])) :
    (∀ y ∈ parent.elim [] allProperties ++ placed, y.Apart x) ∧
      ∀ t, parent = some t → t.size ≤ x.offset := by
  constructor
  · have hapart := (sound_of_placeAll (fun t ht => (parentBuilt t ht).sound) specsSound ok).apart
    rw [← List.append_assoc, List.pairwise_append] at hapart
    exact fun y hy => hapart.2.2 y hy x List.mem_cons_self
  · rintro t rfl
    have hbehind : Placement.Behind t.size t.align q (placed ++ [x]) := by
      refine placeAll_invariant (Placement.Behind t.size t.align) ?_
        (Placement.behind_start (built_soundLayout (parentBuilt t rfl))) ok
      intro spec hspec p own h hadmits r y hy
      exact h.place hadmits.dim_pos (specsSound spec hspec) hy
    exact hbehind.properties x (by simp)

/-- Declarations without an offset are never blamed for where they are: one that is blamed is pinned,
and it is the first one of its name.  Whatever is placed, pinned or not, is apart from all properties
that were placed before it, and lies behind the inherited bytes. -/
theorem collisions_are_pinned (parentBuilt : ∀ t, parent = some t → t.Built)
    (specsMade : ∀ spec ∈ specs, ∀ kind, spec.body = .field kind → kind.Made) (serial : Nat)
    (name : String) :
    (∀ fault, build serial name parent specs = .error (.rejected fault) →
      fault.isCollision = true →
      ∃ spec, fault.property? = some spec.name ∧
        specs.find? (·.name == spec.name) = some spec ∧ spec.offset.isSome = true) ∧
    ∀ before spec after, specs = before ++ spec :: after → ∀ q placed x,
      placeAll parent (before ++ [spec]) (.start parent) [] = .ok (q, placed ++ [x]) →
      (∀ y ∈ parent.elim [] allProperties ++ placed, y.Apart x) ∧
        ∀ t, parent = some t → t.size ≤ x.offset := by
  have specsSound : ∀ spec ∈ specs, ∀ kind, spec.body = .field kind → kind.unpacked.Sound :=
    fun spec hspec kind hbody => (specsMade spec hspec kind hbody).sound
  constructor
  · intro fault fails collision
    exact exists_pinned_of_collision (fun t ht => (parentBuilt t ht).sound) specsSound fails collision
  · rintro before spec after rfl q placed x ok
    refine apart_of_placeAll parentBuilt (fun other hother => specsSound other ?_) ok
    rw [← List.singleton_append, ← List.append_assoc]
    exact List.mem_append_left after hother

end TypeDescriptor

/-- Declarations of a thing with extras.  Two are pinned behind the first one, which leaves gaps.
The byte of the first one is taken up again, and the last one is pinned to the inherited bytes. -/
def shelf : List PropertySpec :=
  [{ name := "A", body := .bitfield },
    { name := "Far", body := .field (.scalar .uint8), offset := some 10 },
    { name := "Gap", body := .field (.scalar .uint8), offset := some 6 },
    { name := "B", body := .bitfield, offset := some 4 },
    { name := "C", body := .bitfield },
    { name := "E", body := .bitfield, offset := some 0 }]

/-- The first four declarations of a shelf, placed. -/
def shelfStart : List Property :=
  [.ofKind "A" (.bool 1) 4 1 .none, .ofKind "Far" (.scalar .uint8) 10 1 .none,
    .ofKind "Gap" (.scalar .uint8) 6 1 .none, .ofKind "B" (.bool 2) 4 1 .none]

/-- The declaration that is pinned to the inherited bytes is blamed, and the one that joins the byte
of two others does not overlap them. -/
theorem collisions_are_pinned_shelf :
    (∃ spec, shelf.find? (·.name == "E") = some spec ∧ spec.offset.isSome = true) ∧
      ∀ y ∈ thing.allProperties ++ shelfStart, y.Apart (.ofKind "C" (.bool 4) 4 1 .none) := by
  have parentBuilt : ∀ t, some thing = some t → t.Built := by
    rintro _ ⟨rfl⟩
    exact library_otherThing.built thing (by simp)
  have specsMade : ∀ spec ∈ shelf, ∀ kind, spec.body = .field kind → kind.Made := by
    simp only [shelf, List.mem_cons, List.not_mem_nil, or_false, forall_eq_or_imp, forall_eq,
      SpecBody.field.injEq, reduceCtorEq, false_imp_iff, implies_true, and_true, true_and]
    exact ⟨fun _ h => h ▸ .scalar _, fun _ h => h ▸ .scalar _⟩
  obtain ⟨hblamed, hplaced⟩ :=
    TypeDescriptor.collisions_are_pinned parentBuilt specsMade 3 "Shelf"
  constructor
  · obtain ⟨spec, hname, hfind, hpinned⟩ := hblamed (.overlapping "E" "Thing") rfl rfl
    have hname : "E" = spec.name := Option.some.inj hname
    exact ⟨spec, hname ▸ hfind, hpinned⟩
  · exact (hplaced (shelf.take 4) { name := "C", body := .bitfield } (shelf.drop 5) rfl _ shelfStart
      _ rfl).1

end PropertyReflection
