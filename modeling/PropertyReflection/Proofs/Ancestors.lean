import Mathlib
import PropertyReflection.Proofs.PropertyNames
import PropertyReflection.Proofs.SiblingIsolation
import PropertyReflection.Workspace.Types

/-!
# Ancestors

An instance of a child type begins with an instance of its parent, and so with one of every type
further up.  Whoever knows an ancestor only can use the instance as one of the ancestor: the
properties of the ancestor are there under their names and at their offsets, and everything else
lies behind them.

A type is a child of exactly those on its line.  Descriptors are told apart by their serials there,
which works among types that were built with a serial of their own each: `TypeDescriptor.Library`.

### Outline

* `Placement.Behind` is what a layout keeps while it places properties behind the bytes of a parent;
* `TypeDescriptor.BeginsWith`, what a child has from an ancestor, holds for a parent and is
  transitive, so that it holds for the whole line: `TypeDescriptor.Built.beginsWith_of_mem_lineage`;
* `TypeDescriptor.Library.isChildOf_iff_mem`, where serials stand for descriptors, and
  `Workspace.keeps_build`: the types that a workspace builds are such a library;
* `TypeDescriptor.Built.changedOnly_of_runAll`, for the use of a part of an instance;
* `usable_through_ancestors`, which puts it together.
-/

namespace PropertyReflection

namespace Placement

variable {p q : Placement} {size align start stop byte : Nat} {owner : String}
  {placed : List Property} {spec : PropertySpec} {x : Property}

/-! ### Behind the parent -/

/-- The first `size` bytes are taken as a whole, so what is placed now lies behind them. -/
structure Behind (size align : Nat) (p : Placement) (placed : List Property) : Prop where
  reserved : p.Covers 0 size
  cursor_le : size ≤ p.cursor
  align_pow : Nat.isPowerOfTwo p.align
  align_dvd : align ∣ p.align
  bits : ∀ byte used, p.usedBits? byte = some used → size ≤ byte
  properties : ∀ x ∈ placed, size ≤ x.offset

/-- A layout that extends a type begins with the bytes of the type. -/
theorem behind_start {parent : TypeDescriptor} (layout : parent.SoundLayout) :
    Behind parent.size parent.align (.start (some parent)) [] where
  reserved := ⟨⟨0, parent.size, parent.name⟩, by simp [start], le_rfl, le_rfl⟩
  cursor_le := le_rfl
  align_pow := layout.align_pow
  align_dvd := dvd_rfl
  bits := by simp [start, usedBits?]
  properties := by simp

/-- A range that is free and not empty lies behind the reserved bytes. -/
theorem Behind.occupy (h : Behind size align p placed) (pos : 0 < stop)
    (ok : p.occupy start stop owner = .ok q) : Behind size align q placed ∧ size ≤ start := by
  obtain ⟨hfree, rfl⟩ := occupy_ok ok
  obtain ⟨s, hs, hstart, hstop⟩ := h.reserved
  have hapart := hfree s hs
  refine ⟨⟨⟨s, List.mem_append_left _ hs, hstart, hstop⟩, ?_, h.align_pow, h.align_dvd, h.bits,
    h.properties⟩, by omega⟩
  exact h.cursor_le.trans (le_max_left _ _)

/-- Bits can be recorded for a byte behind the reserved ones. -/
theorem Behind.setUsedBits (h : Behind size align p placed) (hbyte : size ≤ byte) (used : UInt8) :
    Behind size align (p.setUsedBits byte used) placed := by
  refine ⟨h.reserved, h.cursor_le, h.align_pow, h.align_dvd, ?_, h.properties⟩
  intro other bits hbits
  rw [usedBits?_setUsedBits] at hbits
  split at hbits
  · next heq => exact heq ▸ hbyte
  · exact h.bits other bits hbits

/-- The byte of a bitfield lies behind the reserved ones, whether it is open already or not. -/
theorem Behind.openBitByte (h : Behind size align p placed)
    (ok : p.openBitByte byte owner = .ok q) : Behind size align q placed ∧ size ≤ byte := by
  rcases openBitByte_ok ok with ⟨used, hused, rfl⟩ | ⟨r, -, hr, rfl⟩
  · exact ⟨h, h.bits byte used hused⟩
  · obtain ⟨hbehind, hbyte⟩ := h.occupy (Nat.succ_pos byte) hr
    exact ⟨hbehind.setUsedBits hbyte 0, hbyte⟩

/-- A property behind the reserved bytes can be added. -/
theorem Behind.append (h : Behind size align p placed) (hx : size ≤ x.offset) :
    Behind size align p (placed ++ [x]) := by
  refine ⟨h.reserved, h.cursor_le, h.align_pow, h.align_dvd, h.bits, ?_⟩
  intro y hy
  rcases List.mem_append.mp hy with hy | hy
  · exact h.properties y hy
  · exact List.mem_singleton.mp hy ▸ hx

/-- A property of either sort is placed behind the reserved bytes. -/
theorem Behind.place (h : Behind size align p placed) (hdim : 0 < spec.dim)
    (sound : ∀ kind, spec.body = .field kind → kind.unpacked.Sound)
    (ok : p.place spec = .ok (q, x)) : Behind size align q (placed ++ [x]) := by
  rcases place_ok ok with ⟨-, hbit⟩ | ⟨kind, hbody, hfield⟩
  · obtain ⟨r, used, hr, -, -, rfl, rfl⟩ := placeBitfield_ok hbit
    obtain ⟨hopened, hbyte⟩ := h.openBitByte hr
    have hnext := hopened.setUsedBits hbyte (used ||| lowestFreeBit used)
    have hopen : Behind size align { r.setUsedBits (p.bitfieldByte spec.offset)
        (used ||| lowestFreeBit used) with
      openByte := some (p.bitfieldByte spec.offset) } placed :=
      ⟨hnext.reserved, hnext.cursor_le, hnext.align_pow, hnext.align_dvd, hnext.bits,
        hnext.properties⟩
    exact hopen.append hbyte
  · obtain ⟨offset, r, hmask, -, -, hr, rfl, rfl⟩ := placeField_ok hfield
    have hkind : kind.Sound := (sound kind hbody).of_unpacked hmask
    have htotal : 0 < kind.size * spec.dim := Nat.mul_pos hkind.size_pos hdim
    obtain ⟨hnext, hoffset⟩ := h.occupy (by omega) hr
    have hdvd := dvd_max_of_isPowerOfTwo hnext.align_pow hkind.align_pow
    have hclosed : Behind size align
        { r with align := max r.align kind.align, openByte := none } placed :=
      ⟨hnext.reserved, hnext.cursor_le, isPowerOfTwo_max hnext.align_pow hkind.align_pow,
        hnext.align_dvd.trans hdvd, hnext.bits, hnext.properties⟩
    exact hclosed.append hoffset

end Placement

namespace TypeDescriptor

variable {type parent ancestor : TypeDescriptor} {types : List TypeDescriptor}

/-! ### Beginning with an ancestor -/

/-- What an instance has from an ancestor of its type. -/
structure BeginsWith (type ancestor : TypeDescriptor) : Prop where
  /-- The properties of the ancestor come first, and the others lie behind its bytes. -/
  added : ∃ added, type.allProperties = ancestor.allProperties ++ added ∧
    ∀ q ∈ added, ancestor.size ≤ q.offset
  size_le : ancestor.size ≤ type.size
  align_dvd : ancestor.align ∣ type.align

theorem BeginsWith.refl (type : TypeDescriptor) : type.BeginsWith type :=
  ⟨⟨[], by simp, by simp⟩, le_rfl, dvd_rfl⟩

theorem BeginsWith.trans (h : type.BeginsWith parent) (h' : parent.BeginsWith ancestor) :
    type.BeginsWith ancestor := by
  obtain ⟨added, hadded, hbehind⟩ := h.added
  obtain ⟨added', hadded', hbehind'⟩ := h'.added
  refine ⟨⟨added' ++ added, by rw [hadded, hadded', List.append_assoc], ?_⟩,
    h'.size_le.trans h.size_le, h'.align_dvd.trans h.align_dvd⟩
  intro q hq
  rcases List.mem_append.mp hq with hq | hq
  · exact hbehind' q hq
  · exact h'.size_le.trans (hbehind q hq)

/-- A type begins with its parent, because the bytes of the parent are taken from the start. -/
theorem beginsWith_of_build {serial : Nat} {name : String} {specs : List PropertySpec}
    (parentBuilt : parent.Built)
    (specsMade : ∀ spec ∈ specs, ∀ kind, spec.body = .field kind → kind.Made)
    (ok : build serial name (some parent) specs = .ok type) : type.BeginsWith parent := by
  obtain ⟨p, hplace, hsize, halign, hsuper⟩ := build_ok ok
  have hbehind : Placement.Behind parent.size parent.align p type.properties := by
    refine placeAll_invariant (Placement.Behind parent.size parent.align) ?_
      (Placement.behind_start (built_soundLayout parentBuilt)) hplace
    intro spec hspec p placed h hadmits q x hx
    exact h.place hadmits.dim_pos (fun kind hbody => (specsMade spec hspec kind hbody).sound) hx
  refine ⟨⟨type.properties, by rw [allProperties_eq, hsuper]; rfl, hbehind.properties⟩, ?_,
    halign ▸ hbehind.align_dvd⟩
  calc parent.size
      ≤ max p.cursor 1 := hbehind.cursor_le.trans (le_max_left _ _)
    _ ≤ alignUp (max p.cursor 1) p.align := le_alignUp (Nat.pos_of_isPowerOfTwo hbehind.align_pow)
    _ = type.size := (finalSize_ok hsize).1.symm

/-- The line of a type is the type and the line of its parent. -/
theorem lineage_eq (type : TypeDescriptor) :
    type.lineage = type :: type.superType.elim [] lineage := by
  obtain ⟨_, _, _, _, _ | _, _⟩ := type <;> simp [lineage]

theorem self_mem_lineage (type : TypeDescriptor) : type ∈ type.lineage := by
  rw [lineage_eq]
  exact List.mem_cons_self

/-- A type on the line is the type itself or on the line of the parent. -/
theorem mem_lineage_iff :
    ancestor ∈ type.lineage ↔
      ancestor = type ∨ ∃ parent, type.superType = some parent ∧ ancestor ∈ parent.lineage := by
  rw [lineage_eq, List.mem_cons]
  cases type.superType <;> simp

/-- A built type begins with every type on its line. -/
theorem Built.beginsWith_of_mem_lineage (built : type.Built) (hmem : ancestor ∈ type.lineage) :
    type.BeginsWith ancestor := by
  induction built using lineInduction with
  | build parentBuilt specsMade ok ih =>
    obtain ⟨-, -, -, -, hsuper⟩ := build_ok ok
    rcases mem_lineage_iff.mp hmem with rfl | ⟨parent, hparent, hmem⟩
    · exact .refl ancestor
    · obtain rfl := hsuper.symm.trans hparent
      exact (beginsWith_of_build (parentBuilt parent rfl) specsMade ok).trans (ih parent rfl hmem)

/-- What an ancestor finds under a name, the type finds too: no other property has the name. -/
theorem BeginsWith.find? (h : type.BeginsWith ancestor) (built : type.Built) {name : String}
    {p : Property} (found : ancestor.find? name = some p) : type.find? name = some p := by
  obtain ⟨added, hadded, -⟩ := h.added
  refine built.find?_eq_some_iff.mpr ⟨?_, ancestor.name_of_find? found⟩
  rw [hadded]
  exact List.mem_append_left _ (ancestor.mem_of_find? found)

/-- The properties that the ancestor does not have lie behind its bytes. -/
theorem BeginsWith.size_le_offset (h : type.BeginsWith ancestor) {q : Property}
    (hq : q ∈ type.allProperties) (hnew : q ∉ ancestor.allProperties) :
    ancestor.size ≤ q.offset := by
  obtain ⟨added, hadded, hbehind⟩ := h.added
  rw [hadded, List.mem_append] at hq
  exact hbehind q (hq.resolve_left hnew)

/-! ### Lines -/

/-- The line of an ancestor is part of the line. -/
theorem mem_lineage_trans (type : TypeDescriptor) {parent ancestor : TypeDescriptor}
    (hparent : parent ∈ type.lineage) (hmem : ancestor ∈ parent.lineage) :
    ancestor ∈ type.lineage := by
  match type with
  | { superType := none, .. } =>
    rw [lineage, List.mem_singleton] at hparent
    exact hparent ▸ hmem
  | { superType := some t, .. } =>
    rw [lineage, List.mem_cons] at hparent
    rcases hparent with rfl | hparent
    · exact hmem
    · exact mem_lineage_iff.mpr (Or.inr ⟨t, rfl, t.mem_lineage_trans hparent hmem⟩)

/-- The line of an ancestor is shorter, unless the ancestor is the type itself. -/
theorem length_lineage_lt (type : TypeDescriptor) {ancestor : TypeDescriptor}
    (hmem : ancestor ∈ type.lineage) (hne : ancestor ≠ type) :
    ancestor.lineage.length < type.lineage.length := by
  match type with
  | { superType := none, .. } =>
    rw [lineage, List.mem_singleton] at hmem
    exact absurd hmem hne
  | { superType := some t, .. } =>
    rw [lineage, List.mem_cons] at hmem
    have hmem := hmem.resolve_left hne
    rw [lineage, List.length_cons, Nat.lt_succ_iff]
    by_cases heq : ancestor = t
    · rw [heq]
    · exact (t.length_lineage_lt hmem heq).le

/-- Two types are not on the lines of each other. -/
theorem lineage_antisymm (h : ancestor ∈ type.lineage) (h' : type ∈ ancestor.lineage) :
    type = ancestor := by
  by_contra hne
  have hlt := type.length_lineage_lt h (Ne.symm hne)
  have hgt := ancestor.length_lineage_lt h' hne
  omega

/-! ### Serials -/

/-- Types that are built one after the other, the newest first, each with a serial that no other has
and with an earlier type for its parent, if it has one. -/
inductive Library : List TypeDescriptor → Prop where
  | empty : Library []
  | build {types : List TypeDescriptor} (library : Library types) {serial : Nat} {name : String}
    {parent : Option TypeDescriptor} {specs : List PropertySpec} {type : TypeDescriptor}
    (fresh : ∀ t ∈ types, t.serial ≠ serial) (known : ∀ t, parent = some t → t ∈ types)
    (specsMade : ∀ spec ∈ specs, ∀ kind, spec.body = .field kind → kind.Made)
    (ok : TypeDescriptor.build serial name parent specs = .ok type) : Library (type :: types)

/-- A type has the serial that it was built with. -/
theorem serial_of_build {serial : Nat} {name : String} {super : Option TypeDescriptor}
    {specs : List PropertySpec} (ok : build serial name super specs = .ok type) :
    type.serial = serial := by
  unfold build at ok
  obtain ⟨_, -, ok⟩ := exists_of_bind_eq_ok ok
  obtain ⟨_, -, ok⟩ := exists_of_bind_eq_ok ok
  obtain rfl := Except.ok.inj ok
  rfl

namespace Library

/-- Every type of a library is built. -/
theorem built (library : Library types) : ∀ t ∈ types, t.Built := by
  induction library with
  | empty => simp
  | build _ _ known specsMade ok ih =>
    intro t ht
    rcases List.mem_cons.mp ht with rfl | ht
    · exact .build (fun parent hparent => ih parent (known parent hparent)) specsMade ok
    · exact ih t ht

/-- The types of a library are told apart by their serials. -/
theorem eq_of_serial_eq (library : Library types) :
    ∀ s ∈ types, ∀ t ∈ types, s.serial = t.serial → s = t := by
  induction library with
  | empty => simp
  | build _ fresh _ _ ok ih =>
    obtain rfl := serial_of_build ok
    intro s hs t ht heq
    rcases List.mem_cons.mp hs with rfl | hsOld
    · rcases List.mem_cons.mp ht with rfl | htOld
      · rfl
      · exact absurd heq.symm (fresh t htOld)
    · rcases List.mem_cons.mp ht with rfl | htOld
      · exact absurd heq (fresh s hsOld)
      · exact ih s hsOld t htOld heq

/-- The line of a type in a library is in the library. -/
theorem mem_of_mem_lineage (library : Library types) :
    ∀ t ∈ types, ∀ a ∈ t.lineage, a ∈ types := by
  induction library with
  | empty => simp
  | build _ _ known _ ok ih =>
    obtain ⟨-, -, -, -, hsuper⟩ := build_ok ok
    intro t ht a ha
    rcases List.mem_cons.mp ht with rfl | ht
    · rcases mem_lineage_iff.mp ha with rfl | ⟨parent, hparent, ha⟩
      · exact List.mem_cons_self
      · exact List.mem_cons_of_mem _
          (ih parent (known parent (hsuper.symm.trans hparent)) a ha)
    · exact List.mem_cons_of_mem _ (ih t ht a ha)

/-- In a library a type is a child of the types on its line and of no others. -/
theorem isChildOf_iff_mem (library : Library types) (htype : type ∈ types)
    (hancestor : ancestor ∈ types) : type.isChildOf ancestor = true ↔ ancestor ∈ type.lineage := by
  rw [isChildOf_iff]
  constructor
  · rintro ⟨t, ht, hserial⟩
    have hmem := library.mem_of_mem_lineage type htype t ht
    exact library.eq_of_serial_eq t hmem ancestor hancestor hserial ▸ ht
  · intro hmem
    exact ⟨ancestor, hmem, rfl⟩

end Library

end TypeDescriptor

/-! ### The library of a workspace -/

namespace Request

variable {α β : Type}

theorem perform_get_bind (f : Workspace → Request β) (ws : Workspace) :
    ((get >>= f : Request β).perform ws).value = ((f ws).perform ws).value :=
  rfl

theorem perform_report_bind (x : Logged α) (f : α → Request β) (ws : Workspace) :
    ((report x >>= f).perform ws).value = ((f x.value).perform ws).value :=
  rfl

theorem perform_pure_bind (a : α) (f : α → Request β) (ws : Workspace) :
    ((pure a >>= f).perform ws).value = ((f a).perform ws).value :=
  rfl

end Request

namespace Workspace

variable {ws : Workspace} {types : List TypeDescriptor} {parent : Option TypeDescriptor}
  {specs : List PropertySpec}

/-- A workspace is changed by a build only if the type can be built, and registered if asked for. -/
theorem workspace_of_build (ws : Workspace) (id name : String) (parent : Option TypeDescriptor)
    (specs : List PropertySpec) (register : Bool) :
    ((build id name parent specs register).perform ws).value.2 =
      match TypeDescriptor.build ws.nextSerial name parent specs with
      | .error _ => ws
      | .ok type =>
        match if register then (ws.registry.register type).value else .ok ws.registry with
        | .error _ => ws
        | .ok registry => { ws with
          registry, types := file ws.types id type, nextSerial := ws.nextSerial + 1 } := by
  rw [build, Request.perform_get_bind, Request.perform_report_bind, TypeDescriptor.buildLogged]
  cases TypeDescriptor.build ws.nextSerial name parent specs with
  | error failure => cases failure <;> rfl
  | ok type =>
    cases register with
    | false => rfl
    | true =>
      simp only [if_true, Request.perform_pure_bind, Request.perform_report_bind]
      cases (ws.registry.register type).value <;> rfl

/-- The types of a workspace are from a library whose serials were all given out before. -/
structure Keeps (ws : Workspace) (types : List TypeDescriptor) : Prop where
  library : TypeDescriptor.Library types
  kept : ∀ entry ∈ ws.types, entry.2 ∈ types
  given : ∀ t ∈ types, t.serial < ws.nextSerial

/-- A new workspace has no types. -/
theorem keeps_new : ({} : Workspace).Keeps [] :=
  ⟨.empty, by simp, by simp⟩

/-- A workspace adds to its library whenever it builds a type. -/
theorem keeps_build (h : ws.Keeps types) (id name : String) (register : Bool)
    (known : ∀ t, parent = some t → t ∈ types)
    (specsMade : ∀ spec ∈ specs, ∀ kind, spec.body = .field kind → kind.Made) :
    ∃ types', types ⊆ types' ∧
      ((build id name parent specs register).perform ws).value.2.Keeps types' := by
  rw [workspace_of_build]
  split
  · exact ⟨types, List.Subset.refl types, h⟩
  · next type hbuild =>
    split
    · exact ⟨types, List.Subset.refl types, h⟩
    · refine ⟨type :: types, List.subset_cons_self _ _, ?_, ?_, ?_⟩
      · exact .build h.library (fun t ht => (h.given t ht).ne) known specsMade hbuild
      · intro entry hentry
        rcases List.mem_cons.mp hentry with rfl | hentry
        · exact List.mem_cons_self
        · exact List.mem_cons_of_mem _ (h.kept entry (List.mem_of_mem_filter hentry))
      · intro t ht
        rcases List.mem_cons.mp ht with rfl | ht
        · exact TypeDescriptor.serial_of_build hbuild ▸ Nat.lt_succ_self _
        · exact (h.given t ht).trans (Nat.lt_succ_self _)

end Workspace

namespace TypeDescriptor

variable {type : TypeDescriptor}

/-! ### The part of an instance that an ancestor knows -/

/-- The properties through which a part of an instance is used as an instance of its type: those of
the type, and the part as a whole. -/
def Part (type : TypeDescriptor) (p : Property) : Prop :=
  p ∈ type.allProperties ∨ p.kind = .struct type ∧ p.offset = 0 ∧ p.dim = 1

/-- The part of an instance is used inside its own bytes. -/
theorem Part.within {p : Property} (part : type.Part p) (built : type.Built) :
    p.kind.Sound ∧ p.offset + p.totalSize ≤ type.size := by
  have hsound := built.sound
  rcases part with hmem | ⟨hkind, hoffset, hdim⟩
  · cases hsound with
    | struct layout fieldsSound => exact ⟨fieldsSound p hmem, layout.within p hmem⟩
  · refine ⟨hkind ▸ hsound, ?_⟩
    rw [Property.totalSize, Property.size, hkind, hoffset, hdim, Nat.zero_add, Nat.mul_one]
    exact le_rfl

/-- However often a part of an instance is used, nothing outside the part changes. -/
theorem Built.changedOnly_of_runAll (built : type.Built)
    {steps : List (Property × Property.Operation)}
    (parts : ∀ step ∈ steps, type.Part step.1 ∧ step.2.InBounds step.1) {m m' : Block} {base : Nat}
    (ok : Property.runAll m base steps = .ok m') : m.ChangedOnly m' base type.size := by
  induction steps generalizing m with
  | nil =>
    obtain rfl : m = m' := Except.ok.inj ok
    exact .refl m base _
  | cons step rest ih =>
    rw [Property.runAll, List.foldlM_cons] at ok
    obtain ⟨next, hfirst, hrest⟩ := exists_of_bind_eq_ok ok
    obtain ⟨hpart, hbounds⟩ := parts step List.mem_cons_self
    obtain ⟨hsound, hwithin⟩ := hpart.within built
    have hstep := (Property.Operation.isolated hsound hbounds hfirst).changedOnly
    exact (hstep.mono (Nat.le_add_right _ _) (by omega)).trans
      (ih (fun s hs => parts s (List.mem_cons_of_mem _ hs)) hrest)

end TypeDescriptor

/-- In a library the children of a type are those with the type on their line, which makes a partial
order.  A child begins with the properties of the ancestor, finds them under their names, and is at
least as large and as aligned; what it has in addition lies behind, so that no use of the part that
the ancestor knows is seen there. -/
theorem usable_through_ancestors {types : List TypeDescriptor}
    (library : TypeDescriptor.Library types) :
    (∀ t ∈ types, ∀ a ∈ types, (t.isChildOf a = true ↔ a ∈ t.lineage)) ∧
    (∀ t ∈ types, t.isChildOf t = true) ∧
    (∀ t ∈ types, ∀ a ∈ types, t.isChildOf a = true → a.isChildOf t = true → t = a) ∧
    (∀ t ∈ types, ∀ s ∈ types, ∀ a ∈ types, t.isChildOf s = true → s.isChildOf a = true →
      t.isChildOf a = true) ∧
    ∀ t ∈ types, ∀ a ∈ types, t.isChildOf a = true →
      t.BeginsWith a ∧ (∀ name p, a.find? name = some p → t.find? name = some p) ∧
      ∀ q ∈ t.allProperties, q ∉ a.allProperties → a.size ≤ q.offset ∧
        ∀ steps : List (Property × Property.Operation),
          (∀ step ∈ steps, a.Part step.1 ∧ step.2.InBounds step.1) →
          ∀ (m m' : Block) (base : Nat), Property.runAll m base steps = .ok m' →
            m'.SameCells (base + q.offset) m (base + q.offset) q.totalSize ∧
            q.readAll m' (base + q.offset) = q.readAll m (base + q.offset) := by
  refine ⟨fun t ht a ha => library.isChildOf_iff_mem ht ha, ?_, ?_, ?_, ?_⟩
  · intro t ht
    exact (library.isChildOf_iff_mem ht ht).mpr t.self_mem_lineage
  · intro t ht a ha hta hat
    exact TypeDescriptor.lineage_antisymm ((library.isChildOf_iff_mem ht ha).mp hta)
      ((library.isChildOf_iff_mem ha ht).mp hat)
  · intro t ht s hs a ha hts hsa
    exact (library.isChildOf_iff_mem ht ha).mpr (t.mem_lineage_trans
      ((library.isChildOf_iff_mem ht hs).mp hts) ((library.isChildOf_iff_mem hs ha).mp hsa))
  · intro t ht a ha hta
    have htBuilt := library.built t ht
    have hbegins := htBuilt.beginsWith_of_mem_lineage ((library.isChildOf_iff_mem ht ha).mp hta)
    refine ⟨hbegins, fun name p hfound => hbegins.find? htBuilt hfound, ?_⟩
    intro q hq hnew
    have hbehind := hbegins.size_le_offset hq hnew
    refine ⟨hbehind, ?_⟩
    intro steps hparts m m' base hok
    have hchanged := (library.built a ha).changedOnly_of_runAll hparts hok
    have hsame : m'.SameCells (base + q.offset) m (base + q.offset) q.totalSize :=
      hchanged.sameCells (Or.inr (by omega))
    refine ⟨hsame, Property.readAll_congr (Property.Described.declared htBuilt hq).sound ?_⟩
    intro i hi
    have hinside : i * q.size + q.size ≤ q.totalSize := by
      have hle := Elements.address_add_le hi 0 q.size
      rwa [Elements.address, Nat.zero_add, Nat.zero_add] at hle
    exact .of_sameCells (hsame.part hinside)

/-- Another type with the name and the layout of the first. -/
def otherThing : TypeDescriptor := { thing with serial := 2 }

theorem library_otherThing : TypeDescriptor.Library [otherThing, door, thing] := by
  have hspecs : ∀ spec ∈ [({ name := "H", body := .field (.scalar .int32) } : PropertySpec)],
      ∀ kind, spec.body = .field kind → kind.Made := by
    simp only [List.mem_singleton, forall_eq, SpecBody.field.injEq]
    exact fun _ h => h ▸ .scalar _
  have hthing : TypeDescriptor.Library [thing] :=
    @TypeDescriptor.Library.build [] .empty 0 "Thing" none _ thing (by simp) (by simp) hspecs rfl
  have hdoor : TypeDescriptor.Library [door, thing] :=
    @TypeDescriptor.Library.build [thing] hthing 1 "Door" (some thing)
      [{ name := "O", body := .bitfield }] door (by simp [thing]) (by simp) (by simp) rfl
  exact @TypeDescriptor.Library.build [door, thing] hdoor 2 "Thing" none _ otherThing
    (by simp [thing, door]) (by simp) hspecs rfl

/-- A door is a thing, although not one of the other type of this name, and it begins with what it
has as a thing. -/
theorem usable_through_ancestors_door :
    door.isChildOf thing = true ∧ door.isChildOf otherThing = false ∧ door.BeginsWith thing := by
  obtain ⟨hchild, -, -, -, hpart⟩ := usable_through_ancestors library_otherThing
  have hdoor : door ∈ [otherThing, door, thing] := by simp
  have hthing : thing ∈ [otherThing, door, thing] := by simp
  have hline : door.isChildOf thing = true :=
    (hchild door hdoor thing hthing).mpr (List.mem_cons_of_mem _ List.mem_cons_self)
  refine ⟨hline, by decide, (hpart door hdoor thing hthing hline).1⟩

end PropertyReflection
