import Mathlib
import PropertyReflection.Bridge.Calls
import PropertyReflection.Proofs.LayoutSoundness

/-!
# Extents in 32 bits

The exports report offsets, sizes and dimensions as signed 32-bit numbers and replace what does not
fit by the largest of them.  The limit on the size of a type makes nearly all of them fit: a
property lies inside its type with all its elements, and a key or an element is one value.

The value of a pair is the exception.  It lies behind the key, at the next offset that suits it, and
no limit is put on this offset.  `reportedExtents` says exactly when it does not fit: the key has to
end in the last `align` bytes below the limit, and then the value lies just one byte too far.
-/

namespace PropertyReflection

/-- No number between a value and its rounding is a multiple of the alignment. -/
theorem alignUp_le_of_dvd {value align bound : Nat} (pos : 0 < align) (h : value ≤ bound)
    (dvd : align ∣ bound) : alignUp value align ≤ bound := by
  obtain ⟨rounds, rfl⟩ := dvd
  obtain ⟨steps, hsteps⟩ := dvd_alignUp value align
  have hlt : alignUp value align < align * (rounds + 1) := by
    have hnear : alignUp value align < value + align := alignUp_lt pos
    rw [Nat.mul_succ]
    omega
  rw [hsteps] at hlt ⊢
  exact Nat.mul_le_mul_left align (Nat.lt_succ_iff.mp (lt_of_mul_lt_mul_left hlt (Nat.zero_le _)))

namespace Kind

variable {kind key value : Kind}

/-- The size of a value can be reported. -/
theorem Sound.size_le_maxExtent (h : kind.Sound) : kind.size ≤ maxExtent := by
  cases h with
  | bool _ => exact (by decide : 1 ≤ maxExtent)
  | scalar s => cases s <;> exact (by decide)
  | struct layout _ => exact layout.size_le
  | string | array _ | map _ _ => exact (by decide : handleSize ≤ maxExtent)

/-- Values that lie in a row are all aligned if the first one is. -/
theorem Sound.align_dvd_size (h : kind.Sound) : kind.align ∣ kind.size := by
  cases h with
  | bool _ => exact dvd_refl 1
  | scalar s => exact dvd_refl s.size
  | struct layout _ => exact layout.align_dvd_size
  | string | array _ | map _ _ => exact (by decide : handleAlign ∣ handleSize)

/-- Alignments are powers of two below the limit, so they divide the first number above it. -/
theorem Sound.align_dvd_limit (h : kind.Sound) : kind.align ∣ maxExtent + 1 := by
  have hle : kind.align ≤ maxExtent :=
    (Nat.le_of_dvd h.size_pos h.align_dvd_size).trans h.size_le_maxExtent
  obtain ⟨k, hk⟩ := h.align_pow
  have hlimit : maxExtent + 1 = 2 ^ 31 := by decide
  have hk31 : k < 31 := by
    refine (Nat.pow_lt_pow_iff_right (by decide : 1 < 2)).mp ?_
    rw [← hk, ← hlimit]
    omega
  rw [hk, hlimit]
  exact Nat.pow_dvd_pow 2 (by omega)

/-- The value of a pair begins at most one byte above the limit, and there only behind a key that
ends less than its alignment below. -/
theorem pairValueOffset_le_or (keySound : key.Sound) (valueSound : value.Sound) :
    key.pairValueOffset value ≤ maxExtent ∨
      key.pairValueOffset value = maxExtent + 1 ∧ maxExtent + 1 < key.size + value.align := by
  have hle : key.pairValueOffset value ≤ maxExtent + 1 :=
    alignUp_le_of_dvd valueSound.align_pos (by have := keySound.size_le_maxExtent; omega)
      valueSound.align_dvd_limit
  have hlt : key.pairValueOffset value < key.size + value.align := alignUp_lt valueSound.align_pos
  omega

end Kind

/-- What is found under a name is a property of the type. -/
theorem TypeDescriptor.mem_of_find? (type : TypeDescriptor) {name : String} {p : Property}
    (h : type.find? name = some p) : p ∈ type.allProperties := by
  match type with
  | { superType := none, .. } =>
    rw [find?] at h
    rw [allProperties]
    exact List.mem_of_find?_eq_some h
  | { superType := some parent, .. } =>
    rw [find?, Option.or_eq_some_iff] at h
    rw [allProperties, List.mem_append]
    rcases h with hown | ⟨-, hparent⟩
    · exact Or.inr (List.mem_of_find?_eq_some hown)
    · exact Or.inl (parent.mem_of_find? hparent)

/-- The properties of a type that a host gets handles of: what is found by name, and what is nested
in such a property, step by step. -/
inductive TypeDescriptor.Handle (type : TypeDescriptor) : Property → Prop where
  | named {name : List UInt8} {p : Property} (found : type.resolve? name = some p) :
    TypeDescriptor.Handle type p
  | nested {outer : Property} (handle : type.Handle outer) {p : Property}
    (mem : p ∈ outer.innerFields) : TypeDescriptor.Handle type p

theorem TypeDescriptor.Handle.described {type : TypeDescriptor} (built : type.Built)
    {p : Property} (h : type.Handle p) : p.Described := by
  induction h with
  | named found =>
    obtain ⟨text, -, hfind⟩ := Option.bind_eq_some_iff.mp found
    exact .declared built (type.mem_of_find? hfind)
  | nested _ mem ih => exact .nested ih mem

/-- Properties in a type begin and count no further than can be reported. -/
theorem TypeDescriptor.SoundLayout.offset_le_and_dim_le {type : TypeDescriptor}
    (layout : type.SoundLayout) {p : Property} (mem : p ∈ type.allProperties)
    (sound : p.kind.Sound) : p.offset ≤ maxExtent ∧ p.dim ≤ maxExtent := by
  have hwithin := layout.within p mem
  have hsize := layout.size_le
  have hdim : p.dim ≤ p.totalSize := Nat.le_mul_of_pos_left p.dim sound.size_pos
  omega

/-- A described property is one of a type with a sound layout, or it is what an array or a map
consists of. -/
theorem Property.Described.cases_of_sound {p : Property} (h : p.Described) :
    (∃ type : TypeDescriptor, type.SoundLayout ∧ p ∈ type.allProperties) ∨
      (∃ element : Kind, p = .ofElement element) ∨ (∃ key : Kind, p = .ofKey key) ∨
        ∃ key value : Kind, p = .ofValue key value ∧ key.Sound ∧ value.Sound := by
  cases h with
  | declared built mem => exact Or.inl ⟨_, built_soundLayout built, mem⟩
  | @nested outer outerDescribed _ mem =>
    have hsound := outerDescribed.sound
    unfold innerFields at mem
    split at mem
    · next element _ => exact Or.inr (Or.inl ⟨element, List.mem_singleton.mp mem⟩)
    · next key value hkind =>
      rw [hkind] at hsound
      cases hsound with
      | map keySound valueSound =>
        rcases List.mem_pair.mp mem with rfl | rfl
        · exact Or.inr (Or.inr (Or.inl ⟨key, rfl⟩))
        · exact Or.inr (Or.inr (Or.inr ⟨key, value, rfl, keySound, valueSound⟩))
    · next type hkind =>
      rw [hkind] at hsound
      cases hsound with
      | struct layout _ => exact Or.inl ⟨type, layout, mem⟩
    · exact absurd mem List.not_mem_nil

/-- Sizes and dimensions are reported as they are, and so are offsets, but for the value of a pair
behind a key that nearly takes all bytes there are.  Its offset is one more than what is reported. -/
theorem reportedExtents {type : TypeDescriptor} (built : type.Built) {p : Property}
    (handle : type.Handle p) (tracing : Bool) :
    (Calls.getSize tracing p).value = p.size ∧ (Calls.getArrayDim tracing p).value = p.dim ∧
      ((Calls.getOffset tracing p).value = p.offset ∨
        ∃ key value : Kind, p = .ofValue key value ∧ maxExtent + 1 < key.size + value.align ∧
          p.offset = maxExtent + 1 ∧ (Calls.getOffset tracing p).value = maxExtent) := by
  have described := handle.described built
  have hsize : (Calls.getSize tracing p).value = p.size :=
    reportExtent_eq described.sound.size_le_maxExtent
  refine ⟨hsize, ?_⟩
  have hone : (1 : Nat) ≤ maxExtent := by decide
  rcases described.cases_of_sound with
    ⟨outer, layout, mem⟩ | ⟨element, rfl⟩ | ⟨key, rfl⟩ | ⟨key, value, rfl, keySound, valueSound⟩
  · obtain ⟨hoffset, hdim⟩ := layout.offset_le_and_dim_le mem described.sound
    exact ⟨reportExtent_eq hdim, Or.inl (reportExtent_eq hoffset)⟩
  · exact ⟨reportExtent_eq hone, Or.inl (reportExtent_eq (Nat.zero_le _))⟩
  · exact ⟨reportExtent_eq hone, Or.inl (reportExtent_eq (Nat.zero_le _))⟩
  · refine ⟨reportExtent_eq hone, ?_⟩
    rcases Kind.pairValueOffset_le_or keySound valueSound with hfits | ⟨hoffset, hwide⟩
    · exact Or.inl (reportExtent_eq hfits)
    · refine Or.inr ⟨key, value, rfl, hwide, hoffset, ?_⟩
      change reportExtent (key.pairValueOffset value) = maxExtent
      rw [hoffset]
      decide

/-- A type that takes as many bytes as a type may. -/
def wideKey : TypeDescriptor where
  serial := 0
  name := "K"
  size := maxExtent
  align := 1
  superType := none
  properties := [.ofKind "Bytes" (.scalar .uint8) 0 maxExtent (Placement.fieldFlags .none maxExtent)]

/-- A type with a map that has the former type for its keys. -/
def wideKeyOwner : TypeDescriptor where
  serial := 1
  name := "Owner"
  size := 24
  align := 8
  superType := none
  properties := [.ofKind "M" (.map (.struct wideKey) (.scalar .uint64)) 0 1 .none]

/-- The values of this map lie one byte further than can be reported. -/
def wideKeyValue : Property := .ofValue (.struct wideKey) (.scalar .uint64)

theorem built_wideKeyOwner : wideKeyOwner.Built := by
  have hkey : TypeDescriptor.build 0 "K" none
      [{ name := "Bytes", body := .field (.scalar .uint8), dim := maxExtent }] = .ok wideKey := by
    rfl
  have howner : TypeDescriptor.build 1 "Owner" none
      [{ name := "M", body := .field (.mapOf (.struct wideKey) (.scalar .uint64)) }] =
        .ok wideKeyOwner := by
    rfl
  have hkeyBuilt : wideKey.Built := by
    refine .build (by simp) ?_ hkey
    simp only [List.mem_singleton, forall_eq, SpecBody.field.injEq]
    exact fun _ h => h ▸ .scalar _
  refine .build (by simp) ?_ howner
  simp only [List.mem_singleton, forall_eq, SpecBody.field.injEq]
  exact fun _ h => h ▸ .map (.struct hkeyBuilt) (.scalar _)

/-- A host gets a handle of the values, through the map of the name `M`. -/
theorem handle_wideKeyValue : wideKeyOwner.Handle wideKeyValue :=
  .nested (@TypeDescriptor.Handle.named wideKeyOwner [77] _ rfl) (List.mem_pair.mpr (Or.inr rfl))

/-- The exception occurs: an offset of 2147483648 is reported as 2147483647. -/
theorem reportedExtents_wideKeyValue :
    (Calls.getOffset false wideKeyValue).value ≠ wideKeyValue.offset ∧
      (Calls.getSize false wideKeyValue).value = wideKeyValue.size ∧
      (Calls.getArrayDim false wideKeyValue).value = wideKeyValue.dim := by
  obtain ⟨hsize, hdim, -⟩ := reportedExtents built_wideKeyOwner handle_wideKeyValue false
  exact ⟨by decide, hsize, hdim⟩

/-- Not every offset that a host can ask for is reported as it is. -/
theorem exists_misreported_offset :
    ¬ ∀ type : TypeDescriptor, type.Built → ∀ p : Property, type.Handle p →
      (Calls.getOffset false p).value = p.offset := by
  intro h
  have hsame := h wideKeyOwner built_wideKeyOwner wideKeyValue handle_wideKeyValue
  exact absurd hsame (by decide)

end PropertyReflection
