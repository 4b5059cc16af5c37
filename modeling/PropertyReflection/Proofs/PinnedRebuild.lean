import Mathlib
import PropertyReflection.Proofs.UnpinnedPlacement

/-!
# Pinning a layout to itself

A layout that was computed can be written down: each declaration is pinned to the offset that its
property got, and the pinned declarations are laid out again.  The two runs make their decisions
differently.  One looks at the cursor and the open byte, the other one at the offset that it is
given, and it insists on alignment where the first one rounds up.

Still they are in the same state after every declaration, down to the bits used in each byte, which
is all that the proof has to carry along: `Placement.place_pinnedTo` for one declaration and
`TypeDescriptor.placeAll_pinnedTo` for a run.
-/

namespace PropertyReflection

namespace PropertySpec

/-- The same declaration, pinned to an offset. -/
def pinnedTo (spec : PropertySpec) (offset : Nat) : PropertySpec :=
  { spec with offset := some offset }

/-- Declarations, each pinned to where its property is. -/
def pinnedToLayout (specs : List PropertySpec) (properties : List Property) : List PropertySpec :=
  specs.zipWith (fun spec x => spec.pinnedTo x.offset) properties

@[simp] theorem pinnedToLayout_cons (spec : PropertySpec) (specs : List PropertySpec) (x : Property)
    (properties : List Property) :
    pinnedToLayout (spec :: specs) (x :: properties) =
      spec.pinnedTo x.offset :: pinnedToLayout specs properties := rfl

end PropertySpec

namespace Placement

variable {p q : Placement} {spec : PropertySpec} {kind : Kind} {x : Property} {offset : Nat}

/-! ### One declaration -/

/-- A bitfield that is pinned to the byte where it would go anyway goes there. -/
theorem placeBitfield_pinnedTo (p : Placement) (spec : PropertySpec) :
    p.placeBitfield (spec.pinnedTo (p.bitfieldByte spec.offset)) = p.placeBitfield spec := by
  have hbyte : p.bitfieldByte (some (p.bitfieldByte spec.offset)) = p.bitfieldByte spec.offset := by
    simp only [bitfieldByte]
  simp only [placeBitfield, PropertySpec.pinnedTo, hbyte]

/-- An offset that a field gets suits it, so the field can be pinned to it. -/
theorem fieldOffset_of_ok {name : String} {align : Nat} {pinned : Option Nat}
    (ok : p.fieldOffset name align pinned = .ok offset) :
    p.fieldOffset name align (some offset) = .ok offset := by
  rw [fieldOffset]
  exact if_pos (Nat.mod_eq_zero_of_dvd (dvd_of_fieldOffset_ok ok))

/-- A field that is pinned to the offset that it got is placed in the same way. -/
theorem placeField_pinnedTo (ok : p.placeField spec kind = .ok (q, x)) :
    p.placeField (spec.pinnedTo x.offset) kind = .ok (q, x) := by
  obtain ⟨offset, r, hmask, hoffset, hstop, -, -, hx⟩ := placeField_ok ok
  have hself : x.offset = offset := congrArg Property.offset hx
  have htotal : kind.size * spec.dim < wordLimit := by omega
  have htotal' : kind.size * (spec.pinnedTo x.offset).dim < wordLimit := htotal
  have hpinned : p.fieldOffset (spec.pinnedTo x.offset).name kind.align
      (spec.pinnedTo x.offset).offset = .ok offset := by
    rw [hself]
    exact fieldOffset_of_ok hoffset
  rw [placeField_eq hmask htotal, hoffset] at ok
  rw [placeField_eq hmask htotal', hpinned]
  exact ok

/-- A property that is pinned to its own offset comes out the same, and so does the state of the
layout. -/
theorem place_pinnedTo (ok : p.place spec = .ok (q, x)) :
    p.place (spec.pinnedTo x.offset) = .ok (q, x) := by
  rcases place_ok ok with ⟨hbody, hbit⟩ | ⟨kind, hbody, hfield⟩
  · obtain ⟨_, _, -, -, -, -, hx⟩ := placeBitfield_ok hbit
    have hoffset : x.offset = p.bitfieldByte spec.offset := congrArg Property.offset hx
    rw [place_bitfield (show (spec.pinnedTo x.offset).body = .bitfield from hbody), hoffset,
      placeBitfield_pinnedTo, hbit]
    rfl
  · rw [place_field (show (spec.pinnedTo x.offset).body = .field kind from hbody)]
    exact placeField_pinnedTo hfield

end Placement

namespace TypeDescriptor

variable {parent : Option TypeDescriptor} {specs : List PropertySpec} {p q : Placement}
  {placed properties : List Property} {type : TypeDescriptor}

/-! ### Builds -/

/-- Laying out the pinned declarations goes through the same states, by induction on the
declarations. -/
theorem placeAll_pinnedTo (ok : placeAll parent specs p placed = .ok (q, properties)) :
    ∃ own, properties = placed ++ own ∧
      placeAll parent (PropertySpec.pinnedToLayout specs own) p placed = .ok (q, properties) := by
  induction specs generalizing p placed with
  | nil =>
    cases ok
    exact ⟨[], (List.append_nil _).symm, rfl⟩
  | cons spec rest ih =>
    rw [placeAll_cons] at ok
    cases hrefusal : refusal? parent placed spec with
    | some fault =>
      rw [hrefusal] at ok
      exact absurd ok (by simp)
    | none =>
      rw [hrefusal] at ok
      obtain ⟨⟨r, x⟩, hplace, hrest⟩ := exists_of_bind_eq_ok ok
      obtain ⟨own, hproperties, hpinned⟩ := ih hrest
      refine ⟨x :: own, by rw [hproperties, List.append_assoc, List.singleton_append], ?_⟩
      -- whether a declaration is refused does not depend on its offset
      have hsame : refusal? parent placed (spec.pinnedTo x.offset) = none := hrefusal
      rw [PropertySpec.pinnedToLayout_cons, placeAll_cons, hsame]
      simp only [Placement.place_pinnedTo hplace, ok_bind]
      exact hpinned

/-- A layout can be pinned to itself: when every declaration, bitfields included, is pinned to the
offset that its property got, they can be laid out again under the same parent.  The type differs
from the first one by its identity and its name at most, so its size, its alignment and its
properties are the same.  Each declaration has its property: they have the same names in the same
order. -/
theorem build_pinnedToLayout {serial : Nat} {name : String}
    (ok : build serial name parent specs = .ok type) (serial' : Nat) (name' : String) :
    type.properties.map (·.name) = specs.map (·.name) ∧
      build serial' name' parent (PropertySpec.pinnedToLayout specs type.properties) =
        .ok { type with serial := serial', name := name' } := by
  obtain ⟨q, hplace, hsize, halign, hsuper⟩ := build_ok ok
  refine ⟨names_of_placeAll hplace, ?_⟩
  obtain ⟨own, hown, hpinned⟩ := placeAll_pinnedTo hplace
  rw [List.nil_append] at hown
  rw [← hown] at hpinned
  rw [build_eq_map hpinned, hsize, halign.symm, ← hsuper]
  rfl

end TypeDescriptor

/-- A shelf without the declaration that is pinned to inherited bytes. -/
def shelfType : TypeDescriptor where
  serial := 3
  name := "Shelf"
  size := 12
  align := 4
  superType := some thing
  properties := shelfStart ++ [.ofKind "C" (.bool 4) 4 1 .none]

/-- All declarations of a shelf are pinned.  Two bitfields follow a field now and still share the
byte of the first one. -/
theorem build_pinnedToLayout_shelf :
    TypeDescriptor.build 3 "Shelf" (some thing) (shelf.take 5) = .ok shelfType ∧
      TypeDescriptor.build 4 "Copy" (some thing)
        (PropertySpec.pinnedToLayout (shelf.take 5) shelfType.properties) =
          .ok { shelfType with serial := 4, name := "Copy" } := by
  have hbuild : TypeDescriptor.build 3 "Shelf" (some thing) (shelf.take 5) = .ok shelfType := by
    rfl
  exact ⟨hbuild, (TypeDescriptor.build_pinnedToLayout hbuild 4 "Copy").2⟩

end PropertyReflection
