import Mathlib
import PropertyReflection.Proofs.PackedLayout

/-!
# Pinned fields in any order

A declaration is checked against those before it only, so the order of the declarations decides
which one is at fault.  When all of them are fields that are pinned to offsets, it decides no more
than that.  What the checks come to is a condition on each field and a symmetric one on any two of
them, `PinnedField.Placeable`.  Neither it nor the size of the type depends on the order.

### Outline

* `PinnedField`, a declaration of this sort, and `PinnedField.Compatible`, for two of them;
* `PinnedField.place_eq_ok_iff` and `PinnedField.placeAll_eq_ok_iff`, which say when a field and a
  list of fields are placed, and what the state is then;
* `PinnedField.Placeable.perm` and `PinnedField.finalSize_perm`, for another order;
* `TypeDescriptor.build_pinned_perm`, which puts it together.
-/

namespace PropertyReflection

/-- Which of two ranges comes first does not matter for whether they meet. -/
theorem Span.meets_comm (s t : Span) : s.meets t = t.meets s := by
  rw [meets, meets, Bool.and_comm]

/-- The declaration of a field that is pinned to an offset. -/
structure PinnedField where
  name : String
  kind : Kind
  dim : Nat
  flags : PropertyFlags
  offset : Nat

namespace PinnedField

variable {f g : PinnedField} {fields other : List PinnedField} {parent : Option TypeDescriptor}
  {p q : Placement} {placed : List Property} {x : Property}

/-- The declaration as a builder gets it. -/
def spec (f : PinnedField) : PropertySpec where
  name := f.name
  body := .field f.kind
  dim := f.dim
  flags := f.flags
  offset := some f.offset

/-- The bytes of the field. -/
def span (f : PinnedField) : Span := ⟨f.offset, f.offset + f.kind.size * f.dim, f.name⟩

/-- The property of the field. -/
def property (f : PinnedField) : Property := f.spec.fieldAt f.kind f.offset

theorem spec_injective : Function.Injective spec := by
  rintro ⟨⟩ ⟨⟩ h
  simpa [spec] using h

/-- Every declaration of a field with an offset is of this sort. -/
theorem mem_range_spec {s : PropertySpec} (field : s.isBitfield = false)
    (pinned : s.offset.isSome = true) : s ∈ Set.range spec := by
  obtain ⟨kind, hbody⟩ := PropertySpec.exists_body_of_not_isBitfield field
  obtain ⟨offset, hoffset⟩ := Option.isSome_iff_exists.mp pinned
  refine ⟨⟨s.name, kind, s.dim, s.flags, offset⟩, ?_⟩
  rw [spec, ← hbody, ← hoffset]

/-! ### One field -/

/-- Nothing is wrong with a field itself. -/
structure Proper (f : PinnedField) : Prop where
  masked : f.kind ≠ .bool 0
  aligned : f.offset % f.kind.align = 0
  stop_lt : f.span.stop < wordLimit

/-- The state after a field was placed. -/
def putIn (p : Placement) (f : PinnedField) : Placement :=
  { p with
    cursor := max p.cursor f.span.stop
    align := max p.align f.kind.align
    taken := p.taken ++ [f.span]
    openByte := none }

/-- A field is placed if nothing is wrong with it and its bytes are free. -/
theorem place_eq_ok_iff :
    p.place f.spec = .ok (q, x) ↔
      f.Proper ∧ (∀ s ∈ p.taken, f.span.meets s = false) ∧ q = putIn p f ∧ x = f.property := by
  rw [Placement.place_field (show f.spec.body = .field f.kind from rfl)]
  constructor
  · intro h
    obtain ⟨offset, r, hmask, hoffset, hstop, hr, rfl, rfl⟩ := Placement.placeField_ok h
    have haligned : f.offset % f.kind.align = 0 ∧ f.offset = offset := by
      simp only [Placement.fieldOffset, spec] at hoffset
      split at hoffset
      · next hmod => exact ⟨hmod, Except.ok.inj hoffset⟩
      · exact absurd hoffset (by simp)
    obtain ⟨hmod, rfl⟩ := haligned
    obtain ⟨hfree, rfl⟩ := Placement.occupy_eq_ok_iff.mp hr
    exact ⟨⟨hmask, hmod, hstop⟩, hfree, rfl, rfl⟩
  · rintro ⟨proper, free, rfl, rfl⟩
    have hstop : f.offset + f.kind.size * f.spec.dim < wordLimit := proper.stop_lt
    have htotal : f.kind.size * f.spec.dim < wordLimit := by omega
    have hoffset : p.fieldOffset f.spec.name f.kind.align f.spec.offset = .ok f.offset :=
      if_pos proper.aligned
    have hoccupy : p.occupy f.offset (f.offset + f.kind.size * f.spec.dim) f.spec.name =
        .ok { p with cursor := max p.cursor f.span.stop, taken := p.taken ++ [f.span] } :=
      Placement.occupy_eq_ok_iff.mpr ⟨free, rfl⟩
    rw [Placement.placeField_eq proper.masked htotal, hoffset, ok_bind,
      if_neg (Nat.not_le.mpr hstop), hoccupy]
    rfl

/-! ### Several fields -/

/-- Two fields can be in one type. -/
structure Compatible (f g : PinnedField) : Prop where
  name_ne : f.name ≠ g.name
  apart : f.span.meets g.span = false

theorem Compatible.symm (h : f.Compatible g) : g.Compatible f :=
  ⟨h.name_ne.symm, by rw [Span.meets_comm, h.apart]⟩

/-- A list of fields can be placed in a state of a layout, behind other properties. -/
structure Placeable (parent : Option TypeDescriptor) (p : Placement) (placed : List Property)
    (fields : List PinnedField) : Prop where
  admits : ∀ f ∈ fields, TypeDescriptor.Admits parent placed f.spec
  proper : ∀ f ∈ fields, f.Proper
  free : ∀ f ∈ fields, ∀ s ∈ p.taken, f.span.meets s = false
  /-- Of any two fields it does not matter which one comes first. -/
  compatible : fields.Pairwise Compatible

theorem placeable_nil : Placeable parent p placed [] :=
  ⟨by simp, by simp, by simp, List.Pairwise.nil⟩

/-- Of several fields the first one can be placed, and the others can be placed behind it. -/
theorem placeable_cons_iff :
    Placeable parent p placed (f :: fields) ↔
      TypeDescriptor.Admits parent placed f.spec ∧ f.Proper ∧
        (∀ s ∈ p.taken, f.span.meets s = false) ∧
        Placeable parent (putIn p f) (placed ++ [f.property]) fields := by
  constructor
  · intro h
    obtain ⟨hfirst, hrest⟩ := List.pairwise_cons.mp h.compatible
    refine ⟨h.admits f List.mem_cons_self, h.proper f List.mem_cons_self,
      h.free f List.mem_cons_self, ?_, fun g hg => h.proper g (List.mem_cons_of_mem _ hg), ?_,
      hrest⟩
    · intro g hg
      have hadmits := h.admits g (List.mem_cons_of_mem _ hg)
      refine ⟨hadmits.notInherited, fun y hy => ?_, hadmits.dim_pos⟩
      rcases List.mem_append.mp hy with hy | hy
      · exact hadmits.notPlaced y hy
      · rw [List.mem_singleton.mp hy]
        exact (hfirst g hg).name_ne
    · intro g hg s hs
      rcases List.mem_append.mp hs with hs | hs
      · exact h.free g (List.mem_cons_of_mem _ hg) s hs
      · rw [List.mem_singleton.mp hs]
        exact (hfirst g hg).symm.apart
  · rintro ⟨hadmits, hproper, hfree, hrest⟩
    refine ⟨List.forall_mem_cons.mpr ⟨hadmits, fun g hg => ?_⟩,
      List.forall_mem_cons.mpr ⟨hproper, hrest.proper⟩,
      List.forall_mem_cons.mpr ⟨hfree, fun g hg s hs => ?_⟩,
      List.pairwise_cons.mpr ⟨fun g hg => ⟨?_, ?_⟩, hrest.compatible⟩⟩
    · have hg := hrest.admits g hg
      exact ⟨hg.notInherited, fun y hy => hg.notPlaced y (List.mem_append_left _ hy), hg.dim_pos⟩
    · exact hrest.free g hg s (List.mem_append_left _ hs)
    · exact (hrest.admits g hg).notPlaced f.property (by simp)
    · rw [Span.meets_comm]
      exact hrest.free g hg f.span (List.mem_append_right _ List.mem_cons_self)

/-- When fields are placed and what comes of it, by induction on the fields. -/
theorem placeAll_eq_ok_iff {properties : List Property} :
    TypeDescriptor.placeAll parent (fields.map spec) p placed = .ok (q, properties) ↔
      Placeable parent p placed fields ∧ q = fields.foldl putIn p ∧
        properties = placed ++ fields.map property := by
  induction fields generalizing p placed with
  | nil =>
    rw [List.map_nil, TypeDescriptor.placeAll, Except.ok.injEq, Prod.mk.injEq, List.map_nil,
      List.append_nil, List.foldl_nil, eq_comm, @eq_comm _ placed]
    exact (and_iff_right placeable_nil).symm
  | cons f rest ih =>
    rw [List.map_cons, TypeDescriptor.placeAll_cons, placeable_cons_iff]
    cases hrefusal : TypeDescriptor.refusal? parent placed f.spec with
    | some fault =>
      have hadmits : ¬ TypeDescriptor.Admits parent placed f.spec := by
        rw [← TypeDescriptor.refusal?_eq_none_iff, hrefusal]
        simp
      simp [hadmits]
    | none =>
      have hadmits := TypeDescriptor.refusal?_eq_none_iff.mp hrefusal
      constructor
      · intro h
        obtain ⟨⟨r, y⟩, hplace, hrest⟩ := exists_of_bind_eq_ok h
        obtain ⟨hproper, hfree, rfl, rfl⟩ := place_eq_ok_iff.mp hplace
        obtain ⟨hplaceable, hq, hproperties⟩ := ih.mp hrest
        exact ⟨⟨hadmits, hproper, hfree, hplaceable⟩, hq, by simpa using hproperties⟩
      · rintro ⟨⟨-, hproper, hfree, hplaceable⟩, hq, hproperties⟩
        have hplace : p.place f.spec = .ok (putIn p f, f.property) :=
          place_eq_ok_iff.mpr ⟨hproper, hfree, rfl, rfl⟩
        simp only [hplace, ok_bind]
        exact ih.mpr ⟨hplaceable, hq, by simpa using hproperties⟩

/-! ### Another order -/

theorem Placeable.perm (perm : other.Perm fields) (h : Placeable parent p placed fields) :
    Placeable parent p placed other where
  admits f hf := h.admits f (perm.mem_iff.mp hf)
  proper f hf := h.proper f (perm.mem_iff.mp hf)
  free f hf := h.free f (perm.mem_iff.mp hf)
  compatible := (perm.pairwise_iff Compatible.symm).mpr h.compatible

/-- The cursor is behind all fields. -/
theorem cursor_foldl_putIn (p : Placement) (fields : List PinnedField) :
    (fields.foldl putIn p).cursor = fields.foldl (fun c f => max c f.span.stop) p.cursor := by
  induction fields generalizing p with
  | nil => rfl
  | cons f rest ih => exact ih (putIn p f)

/-- The alignment is that of the most demanding field. -/
theorem align_foldl_putIn (p : Placement) (fields : List PinnedField) :
    (fields.foldl putIn p).align = fields.foldl (fun a f => max a f.kind.align) p.align := by
  induction fields generalizing p with
  | nil => rfl
  | cons f rest ih => exact ih (putIn p f)

/-- A maximum does not depend on the order. -/
theorem foldl_max_perm (perm : other.Perm fields) (measure : PinnedField → Nat) (start : Nat) :
    other.foldl (fun n f => max n (measure f)) start =
      fields.foldl (fun n f => max n (measure f)) start :=
  perm.foldl_eq' (fun f _ g _ n => max_right_comm n (measure f) (measure g)) start

/-- Neither the alignment of the type nor its size depends on the order of the fields. -/
theorem finalSize_perm (perm : other.Perm fields) (p : Placement) :
    (other.foldl putIn p).align = (fields.foldl putIn p).align ∧
      TypeDescriptor.finalSize (other.foldl putIn p).cursor (other.foldl putIn p).align =
        TypeDescriptor.finalSize (fields.foldl putIn p).cursor (fields.foldl putIn p).align := by
  have halign : (other.foldl putIn p).align = (fields.foldl putIn p).align := by
    rw [align_foldl_putIn, align_foldl_putIn, foldl_max_perm perm fun f => f.kind.align]
  refine ⟨halign, ?_⟩
  rw [halign, cursor_foldl_putIn, cursor_foldl_putIn, foldl_max_perm perm fun f => f.span.stop]

end PinnedField

namespace TypeDescriptor

variable {parent : Option TypeDescriptor} {fields other : List PinnedField} {serial : Nat}
  {name : String} {type type' : TypeDescriptor}

/-! ### Builds -/

/-- A type that is built from pinned fields. -/
theorem build_pinnedFields_ok (ok : build serial name parent (fields.map (·.spec)) = .ok type) :
    PinnedField.Placeable parent (.start parent) [] fields ∧
      type.properties = fields.map (·.property) ∧ type.superType = parent ∧
      type.align = (fields.foldl PinnedField.putIn (.start parent)).align ∧
      finalSize (fields.foldl PinnedField.putIn (.start parent)).cursor
        (fields.foldl PinnedField.putIn (.start parent)).align = .ok type.size := by
  obtain ⟨q, hplace, hsize, halign, hsuper⟩ := build_ok ok
  obtain ⟨hplaceable, rfl, hproperties⟩ := PinnedField.placeAll_eq_ok_iff.mp hplace
  exact ⟨hplaceable, hproperties, hsuper, halign, hsize⟩

/-- Pinned fields that make a type make one in any other order. -/
theorem exists_build_of_perm (perm : other.Perm fields)
    (ok : build serial name parent (fields.map (·.spec)) = .ok type) (serial' : Nat)
    (name' : String) : ∃ type', build serial' name' parent (other.map (·.spec)) = .ok type' := by
  obtain ⟨hplaceable, -, -, -, hsize⟩ := build_pinnedFields_ok ok
  have hplace := PinnedField.placeAll_eq_ok_iff.mpr ⟨hplaceable.perm perm, rfl, rfl⟩
  rw [build_eq_map hplace, (PinnedField.finalSize_perm perm _).2, hsize]
  exact ⟨_, rfl⟩

/-- What is found under a name does not depend on the order of properties with names of their
own. -/
theorem find?_eq_of_perm (hsuper : type'.superType = type.superType)
    (perm : type'.properties.Perm type.properties)
    (nodup : (type.properties.map (·.name)).Nodup) (n : String) : type'.find? n = type.find? n := by
  have hown : type'.properties.find? (·.name == n) = type.properties.find? (·.name == n) := by
    refine List.find?_eq_find?_of_perm perm ?_
    rintro x ⟨hx, hxn⟩ y ⟨hy, hyn⟩
    have hname : x.name = y.name := (beq_iff_eq.mp hxn).trans (beq_iff_eq.mp hyn).symm
    exact List.inj_on_of_nodup_map nodup (perm.mem_iff.mp hx) (perm.mem_iff.mp hy) hname
  rw [find?_eq, find?_eq, hsuper, hown]

/-- The order of declarations does not matter when all of them are fields that are pinned to
offsets.  Permuted declarations can be laid out under a parent exactly if the declarations can, and
the two types have the same size, the same alignment and the same properties, which are found under
the same names. -/
theorem build_pinned_perm {specs permuted : List PropertySpec} (perm : permuted.Perm specs)
    (fields : ∀ spec ∈ specs, spec.isBitfield = false)
    (pinned : ∀ spec ∈ specs, spec.offset.isSome = true) (parent : Option TypeDescriptor)
    (serial serial' : Nat) (name name' : String) :
    ((∃ type', build serial' name' parent permuted = .ok type') ↔
      ∃ type, build serial name parent specs = .ok type) ∧
    ∀ type type', build serial name parent specs = .ok type →
      build serial' name' parent permuted = .ok type' →
      type'.size = type.size ∧ type'.align = type.align ∧
        type'.properties.Perm type.properties ∧ ∀ n, type'.find? n = type.find? n := by
  have hrange : ∀ spec ∈ specs, spec ∈ Set.range PinnedField.spec := fun spec hspec =>
    PinnedField.mem_range_spec (fields spec hspec) (pinned spec hspec)
  obtain ⟨own, rfl⟩ : specs ∈ Set.range (List.map PinnedField.spec) := by
    rw [Set.range_list_map]
    exact hrange
  obtain ⟨other, rfl⟩ : permuted ∈ Set.range (List.map PinnedField.spec) := by
    rw [Set.range_list_map]
    exact fun spec hspec => hrange spec (perm.mem_iff.mp hspec)
  have perm : other.Perm own := (List.map_perm_map_iff PinnedField.spec_injective).mp perm
  constructor
  · constructor
    · rintro ⟨type', ok⟩
      exact exists_build_of_perm perm.symm ok serial name
    · rintro ⟨type, ok⟩
      exact exists_build_of_perm perm ok serial' name'
  · intro type type' ok ok'
    obtain ⟨hplaceable, hproperties, hsuper, halign, hsize⟩ := build_pinnedFields_ok ok
    obtain ⟨-, hproperties', hsuper', halign', hsize'⟩ := build_pinnedFields_ok ok'
    obtain ⟨hsameAlign, hsameSize⟩ := PinnedField.finalSize_perm perm (.start parent)
    have hperm : type'.properties.Perm type.properties := by
      rw [hproperties, hproperties']
      exact perm.map _
    have hnodup : (type.properties.map (·.name)).Nodup := by
      rw [hproperties, List.map_map, List.nodup_iff_pairwise_ne, List.pairwise_map]
      exact hplaceable.compatible.imp fun h => h.name_ne
    refine ⟨?_, by rw [halign, halign', hsameAlign], hperm,
      find?_eq_of_perm (hsuper'.trans hsuper.symm) hperm hnodup⟩
    rw [hsameSize, hsize] at hsize'
    exact (Except.ok.inj hsize').symm

end TypeDescriptor

/-- A chest is a thing with three pinned fields, the last of which lies between the others. -/
def chest : List PropertySpec :=
  [{ name := "Far", body := .field (.scalar .int64), offset := some 16 },
    { name := "Lid", body := .field (.scalar .uint8), dim := 2, offset := some 4 },
    { name := "Lock", body := .field (.bool 6), offset := some 7 }]

/-- The fields of a chest in the order of their declarations. -/
def chestType : TypeDescriptor where
  serial := 3
  name := "Chest"
  size := 24
  align := 8
  superType := some thing
  properties :=
    [.ofKind "Far" (.scalar .int64) 16 1 .none,
      .ofKind "Lid" (.scalar .uint8) 4 2 (Placement.fieldFlags .none 2),
      .ofKind "Lock" (.bool 6) 7 1 .none]

/-- Declared from the last field to the first one, a chest has its fields in the same places. -/
theorem build_pinned_perm_chest :
    TypeDescriptor.build 3 "Chest" (some thing) chest = .ok chestType ∧
      ∃ type, TypeDescriptor.build 4 "Chest" (some thing) chest.reverse = .ok type ∧
        type.size = 24 ∧ type.align = 8 ∧ type.find? "Lid" = chestType.find? "Lid" := by
  have hbuild : TypeDescriptor.build 3 "Chest" (some thing) chest = .ok chestType := by
    rfl
  have hfields : ∀ spec ∈ chest, spec.isBitfield = false := by
    simp [chest, PropertySpec.isBitfield]
  have hpinned : ∀ spec ∈ chest, spec.offset.isSome = true := by
    simp [chest]
  obtain ⟨hiff, hsame⟩ := TypeDescriptor.build_pinned_perm (List.reverse_perm chest) hfields
    hpinned (some thing) 3 4 "Chest" "Chest"
  obtain ⟨type, ok⟩ := hiff.mpr ⟨chestType, hbuild⟩
  obtain ⟨hsize, halign, -, hfind⟩ := hsame chestType type hbuild ok
  exact ⟨hbuild, type, ok, hsize, halign, hfind "Lid"⟩

end PropertyReflection
