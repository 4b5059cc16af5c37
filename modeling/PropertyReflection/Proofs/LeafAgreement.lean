import Mathlib
import PropertyReflection.Proofs.Meaning
import PropertyReflection.Proofs.OwnedBits
import PropertyReflection.Proofs.Scopes

/-!
# Values that agree leaf by leaf

The memory of a value holds more than the value: padding, bits of a byte of packed booleans that no
property has claimed, slots behind the last element.  Even what belongs to the value says more than
it means, since any bit of its mask makes a boolean true.  `Kind.SameLeaves` compares two values in
two memories number by number, text by text and truth by truth, and says nothing about the rest.

Comparisons and hashes cannot tell such values apart.  The proof goes through the meanings of
values: leaves agree exactly if the meanings are equal, and neither identity nor hashes look at
anything else.

### Outline

* `Kind.SameLeaves`, with a constructor for every kind, and `Scope.SameLeaves`;
* `Kind.sameLeaves_iff`, by induction on kinds, and `Scope.sameLeaves_iff`;
* `Kind.Sound.sameLeaves_of_keptOutside`: what a value does not own can be overwritten;
* `observes_only_leaves`, about two memories and a third value.
-/

namespace PropertyReflection

/-- Two values of one kind have the same numbers bit by bit, the same texts, the same truth of each
boolean, and as many elements and pairs in the same order. -/
inductive Kind.SameLeaves : Kind → Block → Nat → Block → Nat → Prop where
  | bool {mask : UInt8} {m n : Block} {a b : Nat} (truth : m.bool a mask = n.bool b mask) :
    Kind.SameLeaves (.bool mask) m a n b
  | scalar {s : Scalar} {m n : Block} {a b : Nat} (bits : m.word a s.size = n.word b s.size) :
    Kind.SameLeaves (.scalar s) m a n b
  | string {m n : Block} {a b : Nat} (contents : m.text a = n.text b) :
    Kind.SameLeaves .string m a n b
  | struct {type : TypeDescriptor} {m n : Block} {a b : Nat}
    (fields : ∀ p ∈ type.allProperties, ∀ i < p.dim,
      p.kind.SameLeaves m (Elements.address (a + p.offset) p.size i)
        n (Elements.address (b + p.offset) p.size i)) :
    Kind.SameLeaves (.struct type) m a n b
  | array {element : Kind} {m n : Block} {a b : Nat}
    (count : (m.slots a).count = (n.slots b).count)
    (elements : ∀ i < (m.slots a).count,
      element.SameLeaves (m.slots a).cells (Elements.address 0 element.size i)
        (n.slots b).cells (Elements.address 0 element.size i)) :
    Kind.SameLeaves (.array element) m a n b
  | map {key value : Kind} {m n : Block} {a b : Nat}
    (count : (m.slots a).count = (n.slots b).count)
    (keys : ∀ i < (m.slots a).count,
      key.SameLeaves (m.slots a).cells (Elements.address 0 (key.pairSize value) i)
        (n.slots b).cells (Elements.address 0 (key.pairSize value) i))
    (values : ∀ i < (m.slots a).count,
      value.SameLeaves (m.slots a).cells
        (Elements.address 0 (key.pairSize value) i + key.pairValueOffset value)
        (n.slots b).cells
        (Elements.address 0 (key.pairSize value) i + key.pairValueOffset value)) :
    Kind.SameLeaves (.map key value) m a n b

/-! ### Leaves and meanings -/

/-- Rows that are made index by index are equal if they are equally long and no index makes a
difference. -/
theorem map_range_eq_map_range_iff {α : Type} {count other : Nat} {f g : Nat → α} :
    (List.range count).map f = (List.range other).map g ↔
      count = other ∧ ∀ i < count, f i = g i := by
  constructor
  · intro h
    obtain rfl : count = other := by simpa using congrArg List.length h
    exact ⟨rfl, fun i hi => List.map_inj_left.mp h i (List.mem_range.mpr hi)⟩
  · rintro ⟨rfl, h⟩
    exact List.map_congr_left fun i hi => h i (List.mem_range.mp hi)

namespace Value

/-- A row of elements is determined by the elements, and determines them. -/
theorem ofElements_eq_ofElements_iff {dim : Nat} {f g : Nat → Value} :
    Value.ofElements dim f = Value.ofElements dim g ↔ ∀ i < dim, f i = g i := by
  refine ⟨fun h i hi => ?_, ofElements_congr⟩
  unfold Value.ofElements at h
  split at h
  · next hdim =>
    obtain rfl : i = 0 := by omega
    exact h
  · exact (map_range_eq_map_range_iff.mp (Value.list.inj h)).2 i hi

/-- Booleans have one meaning exactly if they have one truth. -/
theorem meaning_bool_eq_iff {bits other : UInt8} :
    (Value.bool bits).meaning = (Value.bool other).meaning ↔ (bits != 0) = (other != 0) := by
  refine ⟨fun h => ?_, meaning_bool_eq⟩
  rw [meaning, meaning] at h
  rw [← truth_meaning bits, ← truth_meaning other, Value.bool.inj h]

end Value

namespace Kind

variable {m n : Block} {a b : Nat}

/-- The meaning of an array is the row of the meanings of its elements. -/
theorem meaning_read_array (element : Kind) (m : Block) (a : Nat) :
    ((Kind.array element).read m a).meaning =
      .list ((List.range (m.slots a).count).map fun i =>
        (element.read (m.slots a).cells (Elements.address 0 element.size i)).meaning) := by
  rw [read, Value.meaning, meaningOfList_eq_map, List.map_map]
  rfl

/-- The meaning of a map is the row of the meanings of its keys and values. -/
theorem meaning_read_map (key value : Kind) (m : Block) (a : Nat) :
    ((Kind.map key value).read m a).meaning =
      .map ((List.range (m.slots a).count).map fun i =>
        ((key.read (m.slots a).cells (Elements.address 0 (key.pairSize value) i)).meaning,
          (value.read (m.slots a).cells
            (Elements.address 0 (key.pairSize value) i + key.pairValueOffset value)).meaning)) := by
  rw [read, Value.meaning, meaningOfPairs_eq_map, List.map_map]
  rfl

/-- The meaning of a struct has the meanings of the elements of each property. -/
theorem meaning_read_struct (type : TypeDescriptor) (m : Block) (a : Nat) :
    ((Kind.struct type).read m a).meaning =
      .struct (type.allProperties.map fun p =>
        (p.name, Value.ofElements p.dim fun i =>
          (p.kind.read m (Elements.address (a + p.offset) p.size i)).meaning)) := by
  rw [read, Value.meaning, meaningOfFields_eq_map, TypeDescriptor.readFields_eq_map, List.map_map]
  simp only [Function.comp_def, Property.readAll, Value.meaning_ofElements]

/-- Leaves agree exactly if the values have one meaning. -/
theorem sameLeaves_iff {kind : Kind} :
    kind.SameLeaves m a n b ↔ (kind.read m a).meaning = (kind.read n b).meaning := by
  induction kind using Kind.inductionOn generalizing m a n b with
  | bool mask =>
    rw [read, read, Value.meaning_bool_eq_iff]
    constructor
    · intro h
      cases h with
      | bool truth => exact truth
    · exact .bool
  | scalar s =>
    rw [read, read, Value.meaning, Value.meaning, Value.scalar.injEq]
    constructor
    · intro h
      cases h with
      | scalar bits => exact ⟨rfl, bits⟩
    · exact fun h => .scalar h.2
  | string =>
    rw [read, read, Value.meaning, Value.meaning, Value.text.injEq]
    constructor
    · intro h
      cases h with
      | string contents => exact contents
    · exact .string
  | struct type ih =>
    rw [meaning_read_struct, meaning_read_struct, Value.struct.injEq, List.map_inj_left]
    simp only [Prod.mk.injEq, true_and, Value.ofElements_eq_ofElements_iff]
    constructor
    · intro h p hp i hi
      cases h with
      | struct fields => exact (ih p hp).mp (fields p hp i hi)
    · exact fun h => .struct fun p hp i hi => (ih p hp).mpr (h p hp i hi)
  | array element ih =>
    rw [meaning_read_array, meaning_read_array, Value.list.injEq, map_range_eq_map_range_iff]
    simp only [← ih]
    constructor
    · intro h
      cases h with
      | array count elements => exact ⟨count, elements⟩
    · exact fun h => .array h.1 h.2
  | map key value ihKey ihValue =>
    rw [meaning_read_map, meaning_read_map, Value.map.injEq, map_range_eq_map_range_iff]
    simp only [Prod.mk.injEq, ← ihKey, ← ihValue, forall_and]
    constructor
    · intro h
      cases h with
      | map count keys values => exact ⟨count, keys, values⟩
    · exact fun h => .map h.1 h.2.1 h.2.2

end Kind

/-! ### What no leaf is made of -/

namespace Block

/-- A byte that belongs to a value with all its bits stays when everything else is overwritten. -/
theorem KeptOutside.cell_eq_of_owned {m m' : Block} {owned : Nat → Nat → Prop} {x : Nat}
    (h : m.KeptOutside m' fun x bit => ¬ owned x bit) (all : ∀ bit, owned x bit) :
    m'.cell x = m.cell x :=
  h.cell_eq x fun bit _ hfree => hfree (all bit)

/-- The bits of a mask stay if they all belong to a value. -/
theorem KeptOutside.boolBits_eq {m m' : Block} {owned : Nat → Nat → Prop} {x : Nat} {mask : UInt8}
    (h : m.KeptOutside m' fun x bit => ¬ owned x bit)
    (masked : ∀ bit, mask.toBitVec.getLsbD bit = true → owned x bit) :
    m'.boolBits x mask = m.boolBits x mask := by
  apply UInt8.eq_of_toBitVec_eq
  refine BitVec.eq_of_getLsbD_eq fun bit _ => ?_
  simp only [boolBits, UInt8.toBitVec_and, BitVec.getLsbD_and]
  cases hmask : mask.toBitVec.getLsbD bit with
  | false => simp
  | true => rw [h.bit_eq x bit fun hfree => hfree (masked bit hmask)]

end Block

/-- The leaves of a value stay as they are when everything that does not belong to the value is
overwritten. -/
theorem Kind.sameLeaves_of_keptOutside {kind : Kind} {m m' : Block} {a : Nat}
    (h : m.KeptOutside m' fun x bit => ¬ kind.OwnsAt a x bit) : kind.SameLeaves m a m' a := by
  induction kind using Kind.inductionOn generalizing a with
  | bool mask =>
    have hbits : m'.boolBits a mask = m.boolBits a mask :=
      h.boolBits_eq fun bit hbit => ⟨0, rfl, .bool hbit⟩
    exact .bool (congrArg (· != 0) hbits.symm)
  | scalar s =>
    refine .scalar (Block.SameCells.word_eq fun i hi => ?_)
    exact (h.cell_eq_of_owned fun bit => ⟨i, rfl, .scalar hi⟩).symm
  | string =>
    have hcell : m'.cell a = m.cell a :=
      h.cell_eq_of_owned fun bit => ⟨0, rfl, .string handleSize_pos⟩
    exact .string (Block.text_congr hcell.symm)
  | struct type ih =>
    refine .struct fun p hp i hi => ih p hp (h.mono fun x bit hfree howned => hfree ?_)
    exact Property.OwnsAt.struct hp ⟨i, hi, howned⟩
  | array element _ =>
    have hcell : m'.cell a = m.cell a :=
      h.cell_eq_of_owned fun bit => ⟨0, rfl, .array handleSize_pos⟩
    rw [sameLeaves_iff, read, read, Block.slots_congr hcell]
  | map key value _ _ =>
    have hcell : m'.cell a = m.cell a :=
      h.cell_eq_of_owned fun bit => ⟨0, rfl, .map handleSize_pos⟩
    rw [sameLeaves_iff, read, read, Block.slots_congr hcell]

namespace Scope

/-- The leaves agree in all elements that an operation is about. -/
def SameLeaves (scope : Scope) (property : Property) (m : Block) (a : Nat) (n : Block) (b : Nat) :
    Prop :=
  ∀ i < (scope.view property).dim,
    property.kind.SameLeaves m (Elements.address a property.size i)
      n (Elements.address b property.size i)

variable {scope : Scope} {property : Property} {m m' n : Block} {a b : Nat}

theorem sameLeaves_iff :
    scope.SameLeaves property m a n b ↔
      (scope.read property m a).meaning = (scope.read property n b).meaning := by
  rw [scope.read_eq, scope.read_eq, Property.readAll, Property.readAll, Value.meaning_ofElements,
    Value.meaning_ofElements, Value.ofElements_eq_ofElements_iff, scope.kind_view, scope.size_view]
  simp only [← Kind.sameLeaves_iff]
  rfl

/-- The leaves stay as they are when everything that does not belong to the elements is
overwritten. -/
theorem sameLeaves_of_keptOutside
    (h : m.KeptOutside m' fun x bit => ¬ (scope.view property).OwnsAt a x bit) :
    scope.SameLeaves property m a m' a := by
  intro i hi
  refine Kind.sameLeaves_of_keptOutside (h.mono fun x bit hfree howned => hfree ⟨i, hi, ?_⟩)
  rwa [scope.kind_view, scope.size_view]

end Scope

/-! ### Two memories -/

/-- Operations that only look at values do not tell values with the same leaves apart, however much
their memories differ otherwise: the hashes are the same, and so is the outcome of a comparison with
a third value at another place, on either side.  Whatever is written to bits that do not belong to a
value leaves its leaves the same. -/
theorem observes_only_leaves (scope : Scope) (property : Property)
    (memory memory' : String → Block) (p q : Place)
    (leaves : scope.SameLeaves property (p.block memory) p.address (q.block memory') q.address) :
    scope.hash property (p.block memory) p.address =
        scope.hash property (q.block memory') q.address ∧
      (∀ r s : Place, p ≠ r → q ≠ s →
        scope.SameLeaves property (r.block memory) r.address (s.block memory') s.address →
        scope.identicalAt property (p.block memory) p (r.block memory) r =
            scope.identicalAt property (q.block memory') q (s.block memory') s ∧
          scope.identicalAt property (r.block memory) r (p.block memory) p =
            scope.identicalAt property (s.block memory') s (q.block memory') q) ∧
      ∀ m' : Block, (q.block memory').KeptOutside m'
          (fun x bit => ¬ (scope.view property).OwnsAt q.address x bit) →
        scope.SameLeaves property (p.block memory) p.address m' q.address := by
  have hmeaning := Scope.sameLeaves_iff.mp leaves
  refine ⟨?_, fun r s hpr hqs third => ?_, fun m' overwritten => ?_⟩
  · rw [scope.hash_eq, scope.hash_eq, Value.hash_eq_of_meaning_eq hmeaning]
  · have hthird := Scope.sameLeaves_iff.mp third
    rw [scope.identicalAt_eq property hpr, scope.identicalAt_eq property hqs,
      scope.identicalAt_eq property hpr.symm, scope.identicalAt_eq property hqs.symm]
    constructor
    · rw [Value.identical_eq_of_meaning_eq hmeaning, Value.identical_eq_of_meaning_eq_right hthird]
    · rw [Value.identical_eq_of_meaning_eq hthird, Value.identical_eq_of_meaning_eq_right hmeaning]
  · have hsame := Scope.sameLeaves_iff.mp (Scope.sameLeaves_of_keptOutside overwritten)
    exact Scope.sameLeaves_iff.mpr (hmeaning.trans hsame)

/-- A struct with a boolean of two bits, a number and an array of booleans of one bit. -/
def attendance : Property :=
  .ofKind "Attendance" (.struct {
    serial := 0
    name := "Attendance"
    size := 32
    align := 8
    superType := none
    properties :=
      [.ofKind "bOpen" (.bool 6) 0 1 .none, .ofKind "Seats" (.scalar .uint16) 2 1 .none,
        .ofKind "Present" (.array (.bool 4)) 8 1 .none] }) 0 1 .none

/-- An attendance in memory: the byte of the first boolean, the padding, and the array. -/
def attendanceBlock (bits padding : UInt8) (present : Slots Cell) : Block :=
  (#[.byte bits, .byte padding, .byte 40, .byte 1, .byte padding, .byte padding, .byte padding,
    .byte padding, .slots present] : Block) ++ Array.replicate 23 .sealed

/-- Attendances as they were initialized and filled in. -/
def tidyAttendances (owner : String) : Block :=
  if owner = "hall" then attendanceBlock 2 0 ⟨2, 4, #[.byte 4, .byte 0]⟩
  else attendanceBlock 0 0 ⟨2, 4, #[.byte 4, .byte 0]⟩

/-- The same attendances in buffers that were used before: other bits of the mask, bits that no
property has claimed, padding, other bits of the bytes of the array, and slots behind the last
element. -/
def reusedAttendances (owner : String) : Block :=
  if owner = "hall" then
    attendanceBlock 0x8d 0x5a ⟨2, 9, #[.byte 0xf4, .byte 0xab, .byte 7, .sealed]⟩
  else attendanceBlock 0xf1 0xff ⟨2, 8, #[.byte 0x0e, .byte 0xfb, .sealed]⟩

/-- The leaves of an attendance are a truth, a number and the truths in the array. -/
theorem sameLeaves_attendance {m n : Block} (truth : m.bool 0 6 = n.bool 0 6)
    (seats : m.word 2 2 = n.word 2 2) (count : (m.slots 8).count = (n.slots 8).count)
    (present : ∀ i < (m.slots 8).count, Block.bool (m.slots 8).cells (Elements.address 0 1 i) 4 =
      Block.bool (n.slots 8).cells (Elements.address 0 1 i) 4) :
    Scope.all.SameLeaves attendance m 0 n 0 := by
  intro i hi
  obtain rfl : i = 0 := Nat.lt_one_iff.mp hi
  refine .struct ?_
  simp only [TypeDescriptor.allProperties, List.forall_mem_cons, List.not_mem_nil]
  refine ⟨fun j hj => ?_, fun j hj => ?_, fun j hj => ?_, fun _ h => h.elim⟩
  all_goals obtain rfl : j = 0 := Nat.lt_one_iff.mp hj
  · exact .bool truth
  · exact .scalar seats
  · exact .array count fun k hk => .bool (present k hk)

/-- Garbage changes neither the hash of an attendance nor its comparison with another one. -/
theorem observes_only_leaves_attendances :
    attendance.hashAll (tidyAttendances "hall") 0 =
        attendance.hashAll (reusedAttendances "hall") 0 ∧
      attendance.identicalAllAt (tidyAttendances "hall") ⟨"hall", [], 0⟩
          (tidyAttendances "foyer") ⟨"foyer", [], 0⟩ =
        attendance.identicalAllAt (reusedAttendances "hall") ⟨"hall", [], 0⟩
          (reusedAttendances "foyer") ⟨"foyer", [], 0⟩ := by
  have hhall : Scope.all.SameLeaves attendance (tidyAttendances "hall") 0
      (reusedAttendances "hall") 0 :=
    sameLeaves_attendance (by decide) (by decide) (by decide) (by decide)
  have hfoyer : Scope.all.SameLeaves attendance (tidyAttendances "foyer") 0
      (reusedAttendances "foyer") 0 :=
    sameLeaves_attendance (by decide) (by decide) (by decide) (by decide)
  have hsame := observes_only_leaves .all attendance tidyAttendances reusedAttendances
    ⟨"hall", [], 0⟩ ⟨"hall", [], 0⟩ hhall
  exact ⟨hsame.1, (hsame.2.1 ⟨"foyer", [], 0⟩ ⟨"foyer", [], 0⟩ (by decide) (by decide) hfoyer).1⟩

end PropertyReflection
