import Mathlib
import PropertyReflection.Proofs.PlacementInvariant

/-!
# Built types have sound layouts

Every type that can be built has a sound layout: `built_soundLayout`.  The proof goes through the
declarations with `Placement.Sound` as the invariant.  The parent is built, so the invariant holds
at the start; the kinds of fields may be structs that were built, so that their alignments are
powers of two.  Both are earlier in the derivation that the type is built, which is what the
induction is on.
-/

namespace PropertyReflection

namespace TypeDescriptor

/-- The size of a type is the rounded end of its properties. -/
theorem finalSize_ok {cursor align size : Nat} (h : finalSize cursor align = .ok size) :
    size = alignUp (max cursor 1) align ∧ size ≤ maxExtent := by
  unfold finalSize at h
  cases hword : alignUpWord (max cursor 1) align with
  | error fault => cases fault <;> simp [hword] at h
  | ok rounded =>
    simp only [hword] at h
    split at h
    · next hle =>
      cases h
      exact ⟨alignUpWord_ok hword, hle⟩
    · simp at h

/-- What a built type consists of. -/
theorem build_ok {serial : Nat} {name : String} {parent : Option TypeDescriptor}
    {specs : List PropertySpec} {type : TypeDescriptor}
    (h : build serial name parent specs = .ok type) :
    ∃ p, placeAll parent specs (.start parent) [] = .ok (p, type.properties) ∧
      finalSize p.cursor p.align = .ok type.size ∧ type.align = p.align ∧
      type.superType = parent := by
  unfold build at h
  simp only [bind, Except.bind, pure, Except.pure] at h
  split at h
  · simp at h
  · next result hplace =>
    split at h
    · simp at h
    · next size hsize =>
      cases h
      exact ⟨result.1, hplace, hsize, rfl, rfl⟩

/-- A finished layout is sound, because the size is the rounded end of everything that is taken. -/
theorem soundLayout_of_placement {type : TypeDescriptor} {p : Placement}
    (h : p.Sound type.allProperties) (hsize : finalSize p.cursor p.align = .ok type.size)
    (halign : type.align = p.align) : type.SoundLayout := by
  obtain ⟨hrounded, hle⟩ := finalSize_ok hsize
  have hpos : 0 < p.align := Nat.pos_of_isPowerOfTwo h.align_pow
  have hmax : max p.cursor 1 ≤ type.size := hrounded ▸ le_alignUp hpos
  exact {
    size_pos := le_trans (le_max_right _ _) hmax
    size_le := hle
    align_pow := halign ▸ h.align_pow
    align_dvd_size := by
      rw [halign, hrounded]
      exact dvd_alignUp _ _
    within := by
      intro x hx
      obtain ⟨s, hs, -, hstop⟩ := h.covered x hx
      have := h.below s hs
      omega
    aligned := halign ▸ h.aligned
    apart := h.apart
    masked := by
      intro x hx hmask
      have hkind := h.kindSound x hx
      unfold Property.fieldMask? at hmask
      split at hmask
      · next mask heq =>
        rw [heq] at hkind
        cases hkind with
        | bool hne => exact hne (Option.some.inj hmask)
      · simp at hmask }

/-- A layout begins with a state that fits the properties of the parent. -/
theorem sound_start {parent : Option TypeDescriptor}
    (hparent : ∀ t, parent = some t → (Kind.struct t).Sound) :
    (Placement.start parent).Sound (parent.elim [] allProperties ++ []) := by
  rw [List.append_nil]
  cases parent with
  | none => exact Placement.sound_start_none
  | some t => exact Placement.sound_start_some (hparent t rfl)

/-- Every state of a layout fits the properties placed so far and those of the parent. -/
theorem sound_of_placeAll {parent : Option TypeDescriptor} {specs : List PropertySpec}
    {p : Placement} {placed : List Property}
    (hparent : ∀ t, parent = some t → (Kind.struct t).Sound)
    (hspecs : ∀ spec ∈ specs, ∀ kind, spec.body = .field kind → kind.unpacked.Sound)
    (ok : placeAll parent specs (.start parent) [] = .ok (p, placed)) :
    p.Sound (parent.elim [] allProperties ++ placed) :=
  (sound_start hparent).placeAll hspecs ok

/-- A type is sound if its parent and the kinds of its declarations are. -/
theorem build_sound {serial : Nat} {name : String} {parent : Option TypeDescriptor}
    {specs : List PropertySpec} {type : TypeDescriptor}
    (hparent : ∀ t, parent = some t → (Kind.struct t).Sound)
    (hspecs : ∀ spec ∈ specs, ∀ kind, spec.body = .field kind → kind.unpacked.Sound)
    (ok : build serial name parent specs = .ok type) : (Kind.struct type).Sound := by
  obtain ⟨p, hplace, hsize, halign, hsuper⟩ := build_ok ok
  have hend := sound_of_placeAll hparent hspecs hplace
  have hall : type.allProperties = parent.elim [] allProperties ++ type.properties := by
    rw [allProperties_eq, hsuper]
  rw [← hall] at hend
  exact .struct (soundLayout_of_placement hend hsize halign) hend.kindSound

end TypeDescriptor

mutual

/-- Values of every kind that can be made can be kept, once a boolean without bits has got some. -/
theorem Kind.Made.sound : ∀ {kind : Kind}, kind.Made → kind.unpacked.Sound
  | _, .bool mask => by
    unfold Kind.unpacked
    by_cases h : mask = 0
    · simp only [h, if_true]
      exact .bool (by decide)
    · simp only [h, if_false]
      exact .bool h
  | _, .scalar s => .scalar s
  | _, .string => .string
  | _, .struct built => built.sound
  | _, .array made => .array made.sound
  | _, .map keyMade valueMade => .map keyMade.sound valueMade.sound

/-- The structs of a type that can be built can be kept. -/
theorem TypeDescriptor.Built.sound : ∀ {type : TypeDescriptor}, type.Built →
    (Kind.struct type).Sound
  | _, .build parentBuilt specsMade ok =>
    TypeDescriptor.build_sound (fun t ht => (parentBuilt t ht).sound)
      (fun spec hspec kind hbody => (specsMade spec hspec kind hbody).sound) ok

end

/-- Every type that can be built has a sound layout. -/
theorem built_soundLayout {type : TypeDescriptor} (h : type.Built) : type.SoundLayout := by
  cases h.sound with
  | struct layout _ => exact layout

/-- Values of every property in a description can be kept. -/
theorem Property.Described.sound {property : Property} (h : property.Described) :
    property.kind.Sound := by
  induction h with
  | declared built mem =>
    cases built.sound with
    | struct _ fields => exact fields _ mem
  | @nested outer _ property mem ih =>
    unfold innerFields at mem
    split at mem
    · next element hkind =>
      rw [hkind] at ih
      cases ih with
      | array elementSound =>
        rw [List.mem_singleton.mp mem]
        exact elementSound
    · next key value hkind =>
      rw [hkind] at ih
      cases ih with
      | map keySound valueSound =>
        rcases List.mem_pair.mp mem with rfl | rfl
        · exact keySound
        · exact valueSound
    · next type hkind =>
      rw [hkind] at ih
      cases ih with
      | struct _ fields => exact fields _ mem
    · exact absurd mem List.not_mem_nil

/-- A type that mirrors a native one: its second bitfield goes to a byte that a pinned field had
closed. -/
def mirroredActor : TypeDescriptor where
  serial := 0
  name := "Actor"
  size := 48
  align := 8
  superType := none
  properties :=
    [.ofKind "Owner" (.scalar .object) 0 1 .none, .ofKind "bHidden" (.bool 1) 8 1 .none,
      .ofKind "Tags" (.array .nativeBool) 24 1 .none, .ofKind "bDormant" (.bool 2) 8 1 .none]

/-- A type that extends this one and holds two more of it. -/
def mirroredPawn : TypeDescriptor where
  serial := 1
  name := "Pawn"
  size := 152
  align := 8
  superType := some mirroredActor
  properties :=
    [.ofKind "Spares" (.struct mirroredActor) 48 2 (Placement.fieldFlags .none 2),
      .ofKind "bJumping" (.bool 1) 144 1 .none]

/-- Inherited properties, structs in a row and bitfields of one byte all have their own places. -/
theorem mirroredPawn_soundLayout : mirroredPawn.Built ∧ mirroredPawn.SoundLayout := by
  have hactor : TypeDescriptor.build 0 "Actor" none
      [{ name := "Owner", body := .field (.scalar .object) },
        { name := "bHidden", body := .bitfield },
        { name := "Tags", body := .field (.arrayOf (.bool 0)), offset := some 24 },
        { name := "bDormant", body := .bitfield, offset := some 8 }] = .ok mirroredActor := by
    rfl
  have hpawn : TypeDescriptor.build 1 "Pawn" (some mirroredActor)
      [{ name := "Spares", body := .field (.struct mirroredActor), dim := 2 },
        { name := "bJumping", body := .bitfield }] = .ok mirroredPawn := by
    rfl
  have hactorBuilt : mirroredActor.Built := by
    refine .build (by simp) ?_ hactor
    simp only [List.mem_cons, List.not_mem_nil, or_false, forall_eq_or_imp, forall_eq,
      SpecBody.field.injEq, reduceCtorEq, false_imp_iff, implies_true, and_true, true_and]
    exact ⟨fun _ h => h ▸ .scalar _, fun _ h => h ▸ .array (.bool 0)⟩
  have hpawnBuilt : mirroredPawn.Built := by
    refine .build ?_ ?_ hpawn
    · rintro _ ⟨rfl⟩
      exact hactorBuilt
    · simp only [List.mem_cons, List.not_mem_nil, or_false, forall_eq_or_imp, forall_eq,
        SpecBody.field.injEq, reduceCtorEq, false_imp_iff, implies_true, and_true]
      exact fun _ h => h ▸ .struct hactorBuilt
  exact ⟨hpawnBuilt, built_soundLayout hpawnBuilt⟩

end PropertyReflection
