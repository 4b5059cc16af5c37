import Mathlib
import PropertyReflection.Proofs.UnpinnedPlacement

/-!
# Layouts without pinned offsets

Where no declaration is pinned, the layout of a type is that of a C struct whose bits are packed.
`layOut` computes it from the declarations alone: fields go to the next offset that suits them, and
bitfields that follow each other share bytes, eight to a byte.

The state of a placement has more in it, the ranges that are taken and the bits that are used.  The
proof goes through `Packing`, which says where the next property goes and is all that is left of
that state: the start of the current run of bitfields, and how many there are of them.

### Outline

* `Packing.property` and `Packing.next`, for one declaration, and `Packing.layOut_eq`: going through
  the declarations one by one gives what `layOut` does with whole runs of bitfields;
* `Placement.Packs` relates the state of a placement to that of a packing; `Placement.Packs.place`
  is the step, `TypeDescriptor.packs_of_placeAll` the run;
* `TypeDescriptor.exists_placeAll`: nothing else can go wrong;
* `TypeDescriptor.build_unpinned`, for a whole build.
-/

namespace PropertyReflection

/-- Rounding up gives the least multiple that is large enough. -/
theorem alignUp_isLeast {align : Nat} (pos : 0 < align) (value : Nat) :
    IsLeast {m | align ∣ m ∧ value ≤ m} (alignUp value align) :=
  ⟨⟨dvd_alignUp value align, le_alignUp pos⟩,
    fun _ ⟨hdvd, hle⟩ => alignUp_le_of_dvd pos hle hdvd⟩

/-- The alignment of a kind that can be kept, bits or no bits, is positive. -/
theorem Kind.Sound.align_pos_of_unpacked {kind : Kind} (h : kind.unpacked.Sound) :
    0 < kind.align := by
  by_cases hmask : kind = .bool 0
  · subst hmask
    exact Nat.one_pos
  · exact (h.of_unpacked hmask).align_pos

/-! ### Packed layouts -/

namespace PropertySpec

/-- True for bitfields. -/
def isBitfield (spec : PropertySpec) : Bool :=
  match spec.body with
  | .bitfield => true
  | .field _ => false

theorem body_of_isBitfield {spec : PropertySpec} (h : spec.isBitfield = true) :
    spec.body = .bitfield := by
  unfold isBitfield at h
  split at h
  · assumption
  · exact absurd h (by simp)

theorem exists_body_of_not_isBitfield {spec : PropertySpec} (h : spec.isBitfield = false) :
    ∃ kind, spec.body = .field kind := by
  unfold isBitfield at h
  split at h
  · exact absurd h (by simp)
  · next kind hbody => exact ⟨kind, hbody⟩

/-- The alignment of a property that is no bitfield. -/
def fieldAlign? (spec : PropertySpec) : Option Nat :=
  match spec.body with
  | .bitfield => none
  | .field kind => some kind.align

/-- The property of a bitfield that is number `i` of a run from `start` on. -/
def bitAt (spec : PropertySpec) (start i : Nat) : Property :=
  .ofKind spec.name (.bool (1 <<< UInt8.ofNat (i % 8))) (start + i / 8) 1 spec.flags

/-- The property of a field at an offset. -/
def fieldAt (spec : PropertySpec) (kind : Kind) (offset : Nat) : Property :=
  .ofKind spec.name kind offset spec.dim (Placement.fieldFlags spec.flags spec.dim)

end PropertySpec

/-- The properties that are laid out from a cursor on, and where the cursor gets.  A run of
bitfields is laid out as a whole. -/
def layOut (cursor : Nat) : List PropertySpec → List Property × Nat
  | [] => ([], cursor)
  | spec :: rest =>
    match spec.body with
    | .field kind =>
      let offset := alignUp cursor kind.align
      let others := layOut (offset + kind.size * spec.dim) rest
      (spec.fieldAt kind offset :: others.1, others.2)
    | .bitfield =>
      let run := spec :: rest.takeWhile (·.isBitfield)
      let others := layOut (cursor + (run.length + 7) / 8) (rest.dropWhile (·.isBitfield))
      (run.mapIdx (fun i bit => bit.bitAt cursor i) ++ others.1, others.2)
  termination_by specs => specs.length
  decreasing_by
    · simp
    · exact Nat.lt_succ_of_le (List.dropWhile_sublist _).length_le

/-- The state of a packed layout: a run of bitfields, which has none behind a field. -/
structure Packing where
  /-- The byte that the run begins with. -/
  start : Nat
  /-- The number of bitfields in the run so far. -/
  count : Nat

namespace Packing

variable {c : Packing} {spec : PropertySpec} {specs rest : List PropertySpec} {kind : Kind}

/-- The end of the bytes of the run. -/
def stop (c : Packing) : Nat := c.start + (c.count + 7) / 8

/-- The property of the next declaration. -/
def property (c : Packing) (spec : PropertySpec) : Property :=
  match spec.body with
  | .bitfield => spec.bitAt c.start c.count
  | .field kind => spec.fieldAt kind (alignUp c.stop kind.align)

/-- The state behind the next declaration. -/
def next (c : Packing) (spec : PropertySpec) : Packing :=
  match spec.body with
  | .bitfield => ⟨c.start, c.count + 1⟩
  | .field kind => ⟨alignUp c.stop kind.align + kind.size * spec.dim, 0⟩

/-- The properties of the next declarations, one after the other. -/
def properties (c : Packing) : List PropertySpec → List Property
  | [] => []
  | spec :: rest => c.property spec :: (c.next spec).properties rest

theorem property_bitfield (h : spec.body = .bitfield) :
    c.property spec = spec.bitAt c.start c.count := by
  simp only [property, h]

theorem property_field (h : spec.body = .field kind) :
    c.property spec = spec.fieldAt kind (alignUp c.stop kind.align) := by
  simp only [property, h]

theorem next_bitfield (h : spec.body = .bitfield) : c.next spec = ⟨c.start, c.count + 1⟩ := by
  simp only [next, h]

theorem next_field (h : spec.body = .field kind) :
    c.next spec = ⟨alignUp c.stop kind.align + kind.size * spec.dim, 0⟩ := by
  simp only [next, h]

/-- The properties of a run of bitfields share its bytes. -/
theorem properties_run {run : List PropertySpec} (bits : ∀ spec ∈ run, spec.isBitfield = true)
    (c : Packing) (rest : List PropertySpec) :
    c.properties (run ++ rest) =
      run.mapIdx (fun i bit => bit.bitAt c.start (c.count + i)) ++
        properties ⟨c.start, c.count + run.length⟩ rest := by
  induction run generalizing c with
  | nil => rfl
  | cons spec run ih =>
    have hbody := PropertySpec.body_of_isBitfield (bits spec List.mem_cons_self)
    rw [List.cons_append, properties, property_bitfield hbody, next_bitfield hbody,
      ih (fun other hother => bits other (List.mem_cons_of_mem _ hother)), List.mapIdx_cons]
    simp only [List.cons_append, List.length_cons, Nat.add_zero, Nat.add_assoc, Nat.add_comm 1]

/-- Bitfields go on with the run. -/
theorem foldl_next_run {run : List PropertySpec} (bits : ∀ spec ∈ run, spec.isBitfield = true)
    (c : Packing) : run.foldl next c = ⟨c.start, c.count + run.length⟩ := by
  induction run generalizing c with
  | nil => rfl
  | cons spec run ih =>
    have hbody := PropertySpec.body_of_isBitfield (bits spec List.mem_cons_self)
    rw [List.foldl_cons, next_bitfield hbody,
      ih (fun other hother => bits other (List.mem_cons_of_mem _ hother))]
    simp only [List.length_cons, Nat.add_assoc, Nat.add_comm 1]

/-- What follows a run that is complete depends on its end only. -/
theorem rest_eq_of_stop_eq {c d : Packing} (hstop : c.stop = d.stop)
    (complete : ∀ spec, rest.head? = some spec → spec.isBitfield = false) :
    c.properties rest = d.properties rest ∧
      (rest.foldl next c).stop = (rest.foldl next d).stop := by
  cases rest with
  | nil => exact ⟨rfl, hstop⟩
  | cons spec rest =>
    obtain ⟨kind, hbody⟩ :=
      PropertySpec.exists_body_of_not_isBitfield (complete spec rfl)
    have hnext : c.next spec = d.next spec := by rw [next_field hbody, next_field hbody, hstop]
    rw [properties, properties, List.foldl_cons, List.foldl_cons, hnext, property_field hbody,
      property_field hbody, hstop]
    exact ⟨rfl, rfl⟩

/-- Going through the declarations one by one gives the same layout. -/
theorem layOut_eq (cursor : Nat) (specs : List PropertySpec) :
    layOut cursor specs =
      (properties ⟨cursor, 0⟩ specs, (specs.foldl next ⟨cursor, 0⟩).stop) := by
  fun_induction layOut cursor specs with
  | case1 cursor => simp [properties, stop]
  | case2 cursor spec rest kind hbody offset others ih =>
    have hstop : stop ⟨cursor, 0⟩ = cursor := by simp [stop]
    rw [properties, List.foldl_cons, property_field hbody, next_field hbody, hstop,
      show others = _ from ih]
  | case3 cursor spec rest hbody run others ih =>
    have hrun : ∀ bit ∈ run, bit.isBitfield = true := by
      intro bit hbit
      rcases List.mem_cons.mp hbit with rfl | hbit
      · simp [PropertySpec.isBitfield, hbody]
      · exact List.mem_takeWhile_imp hbit
    have hspecs : spec :: rest = run ++ rest.dropWhile (·.isBitfield) := by
      rw [List.cons_append, List.takeWhile_append_dropWhile]
    have hcomplete : ∀ other, (rest.dropWhile (·.isBitfield)).head? = some other →
        other.isBitfield = false := by
      intro other hother
      have hnot := List.head?_dropWhile_not (·.isBitfield) rest
      rwa [hother] at hnot
    have hstop : stop ⟨cursor, run.length⟩ = stop ⟨cursor + (run.length + 7) / 8, 0⟩ := by
      simp [stop]
    obtain ⟨hproperties, hend⟩ := rest_eq_of_stop_eq hstop hcomplete
    rw [hspecs, properties_run hrun, List.foldl_append, foldl_next_run hrun]
    simp only [Nat.zero_add, hproperties, hend]
    rw [show others = _ from ih]

/-- The cursor moves on only. -/
theorem stop_le_next (pos : ∀ kind, spec.body = .field kind → 0 < kind.align) (c : Packing) :
    c.stop ≤ (c.next spec).stop := by
  cases hbody : spec.body with
  | bitfield =>
    rw [next_bitfield hbody]
    simp only [stop]
    omega
  | field kind =>
    rw [next_field hbody]
    have hround : c.stop ≤ alignUp c.stop kind.align := le_alignUp (pos kind hbody)
    simp only [stop] at *
    omega

theorem stop_le_foldl_next (pos : ∀ spec ∈ specs, ∀ kind, spec.body = .field kind → 0 < kind.align)
    (c : Packing) : c.stop ≤ (specs.foldl next c).stop := by
  induction specs generalizing c with
  | nil => exact le_rfl
  | cons spec rest ih =>
    calc c.stop
        ≤ (c.next spec).stop := stop_le_next (pos spec List.mem_cons_self) c
      _ ≤ (rest.foldl next (c.next spec)).stop :=
        ih (fun other hother => pos other (List.mem_cons_of_mem _ hother)) (c.next spec)

end Packing

/-! ### Bits -/

/-- The lowest `count` bits of a byte. -/
def firstBits (count : Nat) : UInt8 := UInt8.ofNat (2 ^ count - 1)

/-- Where the first bits are used, the next one is the lowest that is free. -/
theorem lowestFreeBit_firstBits {count : Nat} (h : count < 8) :
    firstBits count ≠ 0xff ∧ lowestFreeBit (firstBits count) = 1 <<< UInt8.ofNat count ∧
      firstBits count ||| 1 <<< UInt8.ofNat count = firstBits (count + 1) := by
  have hall : ∀ i : Fin 8, firstBits i ≠ 0xff ∧
      lowestFreeBit (firstBits i) = 1 <<< UInt8.ofNat i ∧
      firstBits i ||| 1 <<< UInt8.ofNat i = firstBits (i + 1) := by
    decide
  exact hall ⟨count, h⟩

/-! ### Placements of packed layouts -/

namespace Placement

variable {p q : Placement} {c : Packing} {spec : PropertySpec} {placed : List Property}
  {x : Property}

/-- The state of a placement is that of a packed layout: a run that has begun goes on in its last
byte, of which the first bits are used. -/
structure Packs (p : Placement) (c : Packing) : Prop where
  cursor_eq : p.cursor = c.stop
  closed : c.count = 0 → p.openByte = none
  opened : ∀ last, c.count = last + 1 → p.openByte = some (c.start + last / 8) ∧
    p.usedBits? (c.start + last / 8) = some (firstBits (last % 8 + 1))

/-- Fields can begin where the parent ends. -/
theorem packs_start (parent : Option TypeDescriptor) :
    (Placement.start parent).Packs ⟨parent.elim 0 (·.size), 0⟩ := by
  cases parent with
  | none => exact ⟨rfl, fun _ => rfl, fun _ h => absurd h (by simp)⟩
  | some t =>
    exact ⟨by simp [Placement.start, Packing.stop], fun _ => rfl, fun _ h => absurd h (by simp)⟩

/-- The next bitfield goes to the byte of its number in the run.  Either the byte is that of the
bitfield before, with the first bits in use, or it is a new one. -/
theorem Packs.bitfieldByte (packs : p.Packs c) :
    p.bitfieldByte none = c.start + c.count / 8 ∧
      (c.count % 8 ≠ 0 ∧ p.usedBits? (c.start + c.count / 8) = some (firstBits (c.count % 8)) ∨
        c.count % 8 = 0 ∧ p.cursor = c.start + c.count / 8) := by
  have hcursor := packs.cursor_eq
  rw [Packing.stop] at hcursor
  cases hcount : c.count with
  | zero =>
    rw [hcount] at hcursor
    simp only [Placement.bitfieldByte, packs.closed hcount]
    exact ⟨by omega, Or.inr ⟨by simp, by omega⟩⟩
  | succ last =>
    obtain ⟨hopen, hused⟩ := packs.opened last hcount
    rw [hcount] at hcursor
    simp only [Placement.bitfieldByte, hopen, hused, Option.some.injEq]
    by_cases hfull : last % 8 = 7
    · have hall : firstBits (last % 8 + 1) = 0xff := by
        rw [hfull]
        decide
      rw [if_pos hall]
      exact ⟨by omega, Or.inr ⟨by omega, by omega⟩⟩
    · have hsome : firstBits (last % 8 + 1) ≠ 0xff := (lowestFreeBit_firstBits (by omega)).1
      have hbyte : (last + 1) / 8 = last / 8 := by omega
      have hcount' : (last + 1) % 8 = last % 8 + 1 := by omega
      rw [if_neg hsome, hbyte, hcount']
      exact ⟨rfl, Or.inl ⟨by omega, hused⟩⟩

/-- A bitfield that is placed is the next of its run. -/
theorem Packs.placeBitfield (packs : p.Packs c) (sound : p.Sound placed)
    (hbody : spec.body = .bitfield) (unpinned : spec.offset = none)
    (ok : p.placeBitfield spec = .ok (q, x)) :
    x = c.property spec ∧ q.Packs (c.next spec) ∧ q.align = p.align := by
  obtain ⟨r, used, hr, hget, -, rfl, rfl⟩ := placeBitfield_ok ok
  obtain ⟨hbyte, hplace⟩ := packs.bitfieldByte
  rw [unpinned, hbyte] at hr hget ⊢
  -- the byte has the bits that the bitfields before have used, and the cursor is behind it
  have hstate : used = firstBits (c.count % 8) ∧ r.cursor = (c.next spec).stop ∧
      r.align = p.align := by
    have hcursor := packs.cursor_eq
    rw [Packing.next_bitfield hbody]
    rw [Packing.stop] at hcursor ⊢
    rcases hplace with ⟨hcount, hused⟩ | ⟨hcount, hnew⟩
    · have hopen : p.openBitByte (c.start + c.count / 8) spec.name = .ok p := by
        simp only [Placement.openBitByte, hused]
      obtain rfl : p = r := Except.ok.inj (hopen.symm.trans hr)
      rw [hused] at hget
      refine ⟨hget, ?_, rfl⟩
      simp only
      omega
    · have hunused := sound.usedBits?_ahead hnew.le
      rcases openBitByte_ok hr with ⟨bits, hbits, -⟩ | ⟨s, -, hs, rfl⟩
      · exact absurd (hunused.symm.trans hbits) (by simp)
      · obtain ⟨-, rfl⟩ := occupy_ok hs
        rw [usedBits?_setUsedBits, if_pos rfl] at hget
        refine ⟨by rw [hget, hcount]; rfl, ?_, rfl⟩
        simp only [setUsedBits]
        omega
  obtain ⟨rfl, hcursor, halign⟩ := hstate
  have hlt : c.count % 8 < 8 := Nat.mod_lt _ (by decide)
  obtain ⟨-, hmask, hmore⟩ := lowestFreeBit_firstBits hlt
  refine ⟨?_, ⟨hcursor, ?_, ?_⟩, halign⟩
  · rw [Packing.property_bitfield hbody, hmask]
    rfl
  · rw [Packing.next_bitfield hbody]
    exact fun h => absurd h (by simp)
  · rw [Packing.next_bitfield hbody]
    rintro last ⟨rfl⟩
    refine ⟨rfl, ?_⟩
    have hrecorded := usedBits?_setUsedBits r (c.start + c.count / 8) (c.start + c.count / 8)
      (firstBits (c.count % 8) ||| lowestFreeBit (firstBits (c.count % 8)))
    rw [if_pos rfl, hmask, hmore] at hrecorded
    rw [hmask, hmore]
    exact hrecorded

/-- A field that is placed is the next one behind the run. -/
theorem Packs.placeField {kind : Kind} (packs : p.Packs c) (pos : 0 < kind.align)
    (hbody : spec.body = .field kind) (unpinned : spec.offset = none)
    (ok : p.placeField spec kind = .ok (q, x)) :
    x = c.property spec ∧ q.Packs (c.next spec) ∧ q.align = max p.align kind.align := by
  obtain ⟨offset, r, -, hoffset, -, hr, rfl, rfl⟩ := placeField_ok ok
  rw [unpinned] at hoffset
  obtain rfl := eq_alignUp_of_fieldOffset_ok hoffset
  obtain ⟨-, rfl⟩ := occupy_ok hr
  rw [packs.cursor_eq]
  have hround : c.stop ≤ alignUp c.stop kind.align := le_alignUp pos
  rw [Packing.property_field hbody, Packing.next_field hbody]
  refine ⟨rfl, ⟨?_, fun _ => rfl, fun _ h => absurd h (by simp)⟩, rfl⟩
  simp only [Packing.stop] at *
  omega

/-- What is placed is the next property of the packed layout. -/
theorem Packs.place (packs : p.Packs c) (sound : p.Sound placed)
    (pos : ∀ kind, spec.body = .field kind → 0 < kind.align) (unpinned : spec.offset = none)
    (ok : p.place spec = .ok (q, x)) :
    x = c.property spec ∧ q.Packs (c.next spec) ∧
      q.align = spec.fieldAlign?.elim p.align (max p.align) := by
  rcases place_ok ok with ⟨hbody, hbit⟩ | ⟨kind, hbody, hfield⟩
  · simp only [PropertySpec.fieldAlign?, hbody]
    exact packs.placeBitfield sound hbody unpinned hbit
  · simp only [PropertySpec.fieldAlign?, hbody]
    exact packs.placeField (pos kind hbody) hbody unpinned hfield

/-- In an address space without an end the next property ends where the packed layout says. -/
theorem Packs.exactEnd_eq (packs : p.Packs c) (unpinned : spec.offset = none) :
    p.exactEnd spec = (c.next spec).stop := by
  unfold exactEnd
  cases hbody : spec.body with
  | bitfield =>
    rw [Packing.next_bitfield hbody, Packing.stop, unpinned]
    simp only [packs.bitfieldByte.1]
    omega
  | field kind =>
    rw [Packing.next_field hbody, Packing.stop, unpinned, packs.cursor_eq]
    simp

/-- Nothing is wrong with a declaration that is placed. -/
theorem regular_of_place (unpinned : spec.offset = none) (ok : p.place spec = .ok (q, x)) :
    spec.Regular := by
  unfold PropertySpec.Regular
  rcases place_ok ok with ⟨hbody, hbit⟩ | ⟨kind, hbody, hfield⟩
  · rw [hbody]
    by_contra hdim
    change spec.dim ≠ 1 at hdim
    simp [placeBitfield, hdim, bind, Except.bind, throw, throwThe, MonadExceptOf.throw] at hbit
  · rw [hbody]
    obtain ⟨_, _, hmask, -⟩ := placeField_ok hfield
    exact ⟨hmask, by simp [unpinned]⟩

end Placement

namespace TypeDescriptor

variable {parent : Option TypeDescriptor} {specs : List PropertySpec} {p q : Placement}
  {c : Packing} {inherited own properties : List Property}

/-! ### Runs -/

/-- A run that is not pinned goes through the states of the packed layout, by induction on the
declarations. -/
theorem packs_of_placeAll (packs : p.Packs c) (sound : p.Sound (inherited ++ own))
    (specsSound : ∀ spec ∈ specs, ∀ kind, spec.body = .field kind → kind.unpacked.Sound)
    (unpinned : ∀ spec ∈ specs, spec.offset = none)
    (ok : placeAll parent specs p own = .ok (q, properties)) :
    properties = own ++ c.properties specs ∧ q.Packs (specs.foldl Packing.next c) ∧
      q.align = (specs.filterMap (·.fieldAlign?)).foldl max p.align := by
  induction specs generalizing p c own with
  | nil =>
    cases ok
    exact ⟨by simp [Packing.properties], packs, rfl⟩
  | cons spec rest ih =>
    obtain ⟨r, x, hplace, hrest⟩ := placeAll_cons_ok ok
    have hfirst := specsSound spec List.mem_cons_self
    have hpos := fun kind hbody => (hfirst kind hbody).align_pos_of_unpacked
    obtain ⟨rfl, hpacks, halign⟩ :=
      packs.place sound hpos (unpinned spec List.mem_cons_self) hplace
    have hsound := sound.place hfirst hplace
    rw [List.append_assoc] at hsound
    obtain ⟨hproperties, hend, haligns⟩ := ih hpacks hsound
      (fun other hother => specsSound other (List.mem_cons_of_mem _ hother))
      (fun other hother => unpinned other (List.mem_cons_of_mem _ hother)) hrest
    refine ⟨by rw [hproperties, Packing.properties, List.append_assoc]; rfl, hend, ?_⟩
    rw [haligns, halign]
    cases hfield : spec.fieldAlign? with
    | none => simp [hfield]
    | some align => simp [hfield]

/-- A run that is not pinned gets to the end if its names are told apart, nothing is wrong with a
single declaration, and the end has an address. -/
theorem exists_placeAll (packs : p.Packs c) (sound : p.Sound (inherited ++ own))
    (recorded : p.OpenRecorded)
    (specsSound : ∀ spec ∈ specs, ∀ kind, spec.body = .field kind → kind.unpacked.Sound)
    (unpinned : ∀ spec ∈ specs, spec.offset = none)
    (names : (own.map (·.name) ++ specs.map (·.name)).Nodup)
    (new : ∀ spec ∈ specs, inherits parent spec.name = false)
    (regular : ∀ spec ∈ specs, 0 < spec.dim ∧ spec.Regular)
    (fits : (specs.foldl Packing.next c).stop < wordLimit) :
    ∃ result, placeAll parent specs p own = .ok result := by
  induction specs generalizing p c own with
  | nil => exact ⟨(p, own), rfl⟩
  | cons spec rest ih =>
    have hfirst := specsSound spec List.mem_cons_self
    obtain ⟨hdim, hregular⟩ := regular spec List.mem_cons_self
    have hadmits : Admits parent own spec := by
      refine ⟨new spec List.mem_cons_self, fun x hx => ?_, hdim⟩
      exact (List.nodup_append.mp names).2.2 _ (List.mem_map_of_mem hx) _ List.mem_cons_self
    have hends : (c.next spec).stop ≤ (rest.foldl Packing.next (c.next spec)).stop := by
      refine Packing.stop_le_foldl_next (fun other hother kind hbody => ?_) _
      exact (specsSound other (List.mem_cons_of_mem _ hother) kind hbody).align_pos_of_unpacked
    have hnone := unpinned spec List.mem_cons_self
    obtain ⟨⟨q, x⟩, hplace⟩ := sound.exists_place recorded hfirst hdim hnone hregular
      (packs.exactEnd_eq hnone ▸ hends.trans_lt fits)
    obtain ⟨-, hpacks, -⟩ :=
      packs.place sound (fun kind hbody => (hfirst kind hbody).align_pos_of_unpacked) hnone hplace
    have hsound := sound.place hfirst hplace
    rw [List.append_assoc] at hsound
    have hnames : ((own ++ [x]).map (·.name) ++ rest.map (·.name)).Nodup := by
      simpa [Placement.name_of_place hplace] using names
    rw [placeAll_cons_of_admits hadmits, hplace, ok_bind]
    exact ih hpacks hsound (Placement.openRecorded_of_place hplace)
      (fun other hother => specsSound other (List.mem_cons_of_mem _ hother))
      (fun other hother => unpinned other (List.mem_cons_of_mem _ hother)) hnames
      (fun other hother => new other (List.mem_cons_of_mem _ hother))
      (fun other hother => regular other (List.mem_cons_of_mem _ hother)) fits

/-- A size that can be reported is the size of the type. -/
theorem finalSize_eq_ok {cursor align : Nat} (pos : 0 < align)
    (fits : alignUp (max cursor 1) align ≤ maxExtent) :
    finalSize cursor align = .ok (alignUp (max cursor 1) align) := by
  have hround : max cursor 1 ≤ alignUp (max cursor 1) align := le_alignUp pos
  have halign : align ≤ alignUp (max cursor 1) align :=
    Nat.le_of_dvd (by omega) (dvd_alignUp _ _)
  have hlimit : maxExtent + maxExtent < wordLimit := by decide
  unfold finalSize alignUpWord
  rw [if_neg (by omega), if_neg (by omega)]
  exact if_pos fits

/-! ### Builds -/

/-- Nothing is wrong with a list of declarations, wherever the properties go. -/
structure Declarable (parent : Option TypeDescriptor) (specs : List PropertySpec) : Prop where
  names_nodup : (specs.map (·.name)).Nodup
  notInherited : ∀ t, parent = some t → ∀ x ∈ t.allProperties, ∀ spec ∈ specs, x.name ≠ spec.name
  dim_pos : ∀ spec ∈ specs, 1 ≤ spec.dim
  dim_bitfield : ∀ spec ∈ specs, spec.body = .bitfield → spec.dim = 1
  /-- A boolean that is no bitfield has a bit. -/
  masked : ∀ spec ∈ specs, spec.body ≠ .field (.bool 0)

/-- The properties behind the bytes of the parent, and where they end. -/
def packed (parent : Option TypeDescriptor) (specs : List PropertySpec) : List Property × Nat :=
  layOut (parent.elim 0 (·.size)) specs

/-- The largest alignment of the parent and the fields. -/
def packedAlign (parent : Option TypeDescriptor) (specs : List PropertySpec) : Nat :=
  (specs.filterMap (·.fieldAlign?)).foldl max (max 1 (parent.elim 1 (·.align)))

/-- The rounded end of the properties. -/
def packedSize (parent : Option TypeDescriptor) (specs : List PropertySpec) : Nat :=
  alignUp (max (packed parent specs).2 1) (packedAlign parent specs)

/-- The type that has the packed layout. -/
def packedType (serial : Nat) (name : String) (parent : Option TypeDescriptor)
    (specs : List PropertySpec) : TypeDescriptor where
  serial := serial
  name := name
  size := packedSize parent specs
  align := packedAlign parent specs
  superType := parent
  properties := (packed parent specs).1

variable {type : TypeDescriptor} {serial : Nat} {name : String} {spec : PropertySpec}

/-- Every declaration of a run that gets to the end was reached and placed. -/
theorem exists_reaches (ok : placeAll parent specs (.start parent) [] = .ok (q, properties))
    (mem : spec ∈ specs) : ∃ p next, Reaches parent specs p spec ∧ p.place spec = .ok next := by
  obtain ⟨before, after, rfl⟩ := List.append_of_mem mem
  rw [placeAll_append] at ok
  obtain ⟨⟨p, placed⟩, hbefore, hrest⟩ := exists_of_bind_eq_ok ok
  rw [placeAll_cons] at hrest
  cases hrefusal : refusal? parent placed spec with
  | some fault =>
    rw [hrefusal] at hrest
    exact absurd hrest (by simp)
  | none =>
    rw [hrefusal] at hrest
    obtain ⟨next, hplace, -⟩ := exists_of_bind_eq_ok hrest
    exact ⟨p, next, ⟨before, after, placed, rfl, hbefore, refusal?_eq_none_iff.mp hrefusal⟩,
      hplace⟩

/-- Without an offset, what can be wrong with a single declaration is its dimension or its mask. -/
theorem regular_iff_of_unpinned (unpinned : spec.offset = none) :
    spec.Regular ↔ (spec.body = .bitfield → spec.dim = 1) ∧ spec.body ≠ .field (.bool 0) := by
  unfold PropertySpec.Regular
  cases spec.body with
  | bitfield => simp
  | field kind => simp [unpinned]

/-- Nothing is wrong with the declarations of a type that was built. -/
theorem declarable_of_build (parentBuilt : ∀ t, parent = some t → t.Built)
    (unpinned : ∀ spec ∈ specs, spec.offset = none)
    (ok : build serial name parent specs = .ok type) : Declarable parent specs := by
  obtain ⟨q, hplace, -, -, hsuper⟩ := build_ok ok
  have hnames : type.properties.map (·.name) = specs.map (·.name) := names_of_placeAll hplace
  have hnodup := names_nodup_of_build (fun t ht => (parentBuilt t ht).names_nodup) ok
  rw [allProperties_eq, List.map_append, hnames, List.nodup_append] at hnodup
  have hspecs : ∀ spec ∈ specs, inherits parent spec.name = false ∧ 1 ≤ spec.dim ∧
      (spec.body = .bitfield → spec.dim = 1) ∧ spec.body ≠ .field (.bool 0) := by
    intro spec hspec
    obtain ⟨p, ⟨r, x⟩, ⟨-, -, placed, -, -, hadmits⟩, hx⟩ := exists_reaches hplace hspec
    exact ⟨hadmits.notInherited, hadmits.dim_pos, (regular_iff_of_unpinned (unpinned spec hspec)).mp
      (Placement.regular_of_place (unpinned spec hspec) hx)⟩
  exact {
    names_nodup := hnodup.2.1
    notInherited := fun t ht x hx spec hspec =>
      inherits_eq_false_iff.mp (hspecs spec hspec).1 t ht x hx
    dim_pos := fun spec hspec => (hspecs spec hspec).2.1
    dim_bitfield := fun spec hspec => (hspecs spec hspec).2.2.1
    masked := fun spec hspec => (hspecs spec hspec).2.2.2 }

/-- When all declarations are placed, the state is that of the packed layout. -/
theorem eq_packed_of_placeAll (parentSound : ∀ t, parent = some t → (Kind.struct t).Sound)
    (specsSound : ∀ spec ∈ specs, ∀ kind, spec.body = .field kind → kind.unpacked.Sound)
    (unpinned : ∀ spec ∈ specs, spec.offset = none)
    (ok : placeAll parent specs (.start parent) [] = .ok (q, properties)) :
    properties = (packed parent specs).1 ∧ q.cursor = (packed parent specs).2 ∧
      q.align = packedAlign parent specs := by
  obtain ⟨hproperties, hpacks, halign⟩ := packs_of_placeAll (Placement.packs_start parent)
    (sound_start parentSound) specsSound unpinned ok
  have hfirst : (Placement.start parent).align = max 1 (parent.elim 1 (·.align)) := by
    cases parent with
    | none => rfl
    | some t => exact (max_eq_right (parentSound t rfl).align_pos).symm
  rw [packed, Packing.layOut_eq]
  exact ⟨hproperties, hpacks.cursor_eq, by rw [halign, hfirst]; rfl⟩

theorem packedAlign_pos (parent : Option TypeDescriptor) (specs : List PropertySpec) :
    0 < packedAlign parent specs := by
  rw [packedAlign, List.foldl_max]
  exact lt_of_lt_of_le Nat.one_pos ((le_max_left 1 _).trans (le_max_left _ _))

/-- If nothing is wrong with the declarations, they are all placed, as long as there are addresses
for them. -/
theorem Declarable.exists_placeAll (declarable : Declarable parent specs)
    (parentSound : ∀ t, parent = some t → (Kind.struct t).Sound)
    (specsSound : ∀ spec ∈ specs, ∀ kind, spec.body = .field kind → kind.unpacked.Sound)
    (unpinned : ∀ spec ∈ specs, spec.offset = none) (fits : (packed parent specs).2 < wordLimit) :
    ∃ result, placeAll parent specs (.start parent) [] = .ok result := by
  rw [packed, Packing.layOut_eq] at fits
  refine TypeDescriptor.exists_placeAll (Placement.packs_start parent) (sound_start parentSound)
    (Placement.openRecorded_start parent) specsSound unpinned ?_ ?_ ?_ fits
  · exact declarable.names_nodup
  · intro spec hspec
    exact inherits_eq_false_iff.mpr fun t ht x hx => declarable.notInherited t ht x hx spec hspec
  · intro spec hspec
    exact ⟨declarable.dim_pos spec hspec, (regular_iff_of_unpinned (unpinned spec hspec)).mpr
      ⟨declarable.dim_bitfield spec hspec, declarable.masked spec hspec⟩⟩

/-- A builder without pinned offsets computes the packed layout: it gives a type exactly if nothing
is wrong with the declarations and the size can be reported, and the type has this layout.  Offsets
and the size are rounded up to the least multiple of the alignment that is large enough. -/
theorem build_unpinned (parentBuilt : ∀ t, parent = some t → t.Built)
    (specsMade : ∀ spec ∈ specs, ∀ kind, spec.body = .field kind → kind.Made)
    (unpinned : ∀ spec ∈ specs, spec.offset = none) (serial : Nat) (name : String) :
    (∀ type, build serial name parent specs = .ok type ↔
      Declarable parent specs ∧ packedSize parent specs ≤ maxExtent ∧
        type = packedType serial name parent specs) ∧
    ∀ align, 0 < align → ∀ value, IsLeast {m | align ∣ m ∧ value ≤ m} (alignUp value align) := by
  refine ⟨fun type => ?_, fun align pos value => alignUp_isLeast pos value⟩
  have parentSound : ∀ t, parent = some t → (Kind.struct t).Sound :=
    fun t ht => (parentBuilt t ht).sound
  have specsSound : ∀ spec ∈ specs, ∀ kind, spec.body = .field kind → kind.unpacked.Sound :=
    fun spec hspec kind hbody => (specsMade spec hspec kind hbody).sound
  constructor
  · intro ok
    refine ⟨declarable_of_build parentBuilt unpinned ok, ?_⟩
    obtain ⟨q, hplace, hsize, -⟩ := build_ok ok
    obtain ⟨hproperties, hcursor, halign⟩ :=
      eq_packed_of_placeAll parentSound specsSound unpinned hplace
    obtain ⟨hrounded, hle⟩ := finalSize_ok hsize
    rw [hcursor, halign] at hrounded
    refine ⟨(show packedSize parent specs = type.size from hrounded.symm) ▸ hle, ?_⟩
    rw [build_eq_map hplace, hsize] at ok
    rw [← Except.ok.inj ok, packedType, halign, hproperties, hrounded]
    rfl
  · rintro ⟨declarable, hsize, rfl⟩
    have hround : max (packed parent specs).2 1 ≤ packedSize parent specs :=
      le_alignUp (packedAlign_pos parent specs)
    have hlimit : maxExtent < wordLimit := by decide
    obtain ⟨⟨q, properties⟩, hplace⟩ :=
      declarable.exists_placeAll parentSound specsSound unpinned (by omega)
    obtain ⟨rfl, hcursor, halign⟩ :=
      eq_packed_of_placeAll parentSound specsSound unpinned hplace
    have hfinal : finalSize q.cursor q.align = .ok (packedSize parent specs) := by
      rw [hcursor, halign]
      exact finalSize_eq_ok (packedAlign_pos parent specs) hsize
    rw [build_eq_map hplace, hfinal, halign]
    rfl

end TypeDescriptor

/-- Nine bits, a number and one more bit. -/
def panel : List PropertySpec :=
  ["A", "B", "C", "D", "E", "F", "G", "I", "J"].map (fun name => { name, body := .bitfield }) ++
    [{ name := "K", body := .field (.scalar .int32) }, { name := "L", body := .bitfield }]

/-- A panel that is a thing: the ninth bit begins the second byte of the run. -/
def panelType : TypeDescriptor where
  serial := 3
  name := "Panel"
  size := 16
  align := 4
  superType := some thing
  properties :=
    [.ofKind "A" (.bool 1) 4 1 .none, .ofKind "B" (.bool 2) 4 1 .none,
      .ofKind "C" (.bool 4) 4 1 .none, .ofKind "D" (.bool 8) 4 1 .none,
      .ofKind "E" (.bool 16) 4 1 .none, .ofKind "F" (.bool 32) 4 1 .none,
      .ofKind "G" (.bool 64) 4 1 .none, .ofKind "I" (.bool 128) 4 1 .none,
      .ofKind "J" (.bool 1) 5 1 .none, .ofKind "K" (.scalar .int32) 8 1 .none,
      .ofKind "L" (.bool 1) 12 1 .none]

/-- The layout of a panel is the packed one. -/
theorem build_unpinned_panel :
    TypeDescriptor.build 3 "Panel" (some thing) panel = .ok panelType ∧
      panelType = TypeDescriptor.packedType 3 "Panel" (some thing) panel := by
  have parentBuilt : ∀ t, some thing = some t → t.Built := by
    rintro _ ⟨rfl⟩
    exact library_otherThing.built thing (by simp)
  have specsMade : ∀ spec ∈ panel, ∀ kind, spec.body = .field kind → kind.Made := by
    simp only [panel, List.map_cons, List.map_nil, List.cons_append, List.nil_append,
      List.mem_cons, List.not_mem_nil, or_false, forall_eq_or_imp, forall_eq,
      SpecBody.field.injEq, reduceCtorEq, false_imp_iff, implies_true, and_true, true_and]
    exact fun _ h => h ▸ .scalar _
  have unpinned : ∀ spec ∈ panel, spec.offset = none := by
    simp [panel]
  have hbuild : TypeDescriptor.build 3 "Panel" (some thing) panel = .ok panelType := by
    rfl
  obtain ⟨hexact, -⟩ := TypeDescriptor.build_unpinned parentBuilt specsMade unpinned 3 "Panel"
  exact ⟨hbuild, ((hexact panelType).mp hbuild).2.2⟩

end PropertyReflection
