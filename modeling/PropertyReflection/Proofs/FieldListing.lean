import Mathlib
import PropertyReflection.Proofs.Ancestors

/-!
# Listing the nested properties

A host asks twice: first without a buffer, for the number of nested properties, and then with a
buffer of that size, which is filled.  The number has nothing to do with the buffer or with the
capacity that the host claims for it, and no slot behind the capacity is touched.

`Calls.fillSlots` puts the new slots in front of the old ones.  The program writes one slot after
the other, and each write finds the slots that the earlier ones left.  `Calls.writeSlots` is that
loop; what it leaves is said slot by slot.

The properties of a struct are listed from the root of the line of its type on, in the order of
their declaration, while a lookup goes up the line.  Both know the same properties by the same
names.

### Outline

* `Calls.getElem?_writeSlots`, for the loop, by induction on what is still to be written, and
  `Calls.writeSlots_eq_fillSlots`;
* `TypeDescriptor.allProperties_eq_flatMap`, the order of the list;
* `Property.Described.made` and `Property.Described.built`, by which the types in descriptions are
  built, so that their names are found;
* `listing_sizeThenFill`, which puts it together.
-/

namespace PropertyReflection

/-! ### Writing slots -/

namespace Calls

/-- Write properties to slots, one after the other, from the slot `first` on. -/
def writeSlots (fields : List Property) (first : Nat) (slots : List (Option Property)) :
    List (Option Property) :=
  (fields.zipIdx first).foldl (fun slots (field, i) => slots.set i (some field)) slots

theorem writeSlots_cons (field : Property) (rest : List Property) (first : Nat)
    (slots : List (Option Property)) :
    writeSlots (field :: rest) first slots =
      writeSlots rest (first + 1) (slots.set first (some field)) := rfl

/-- The slots after the loop, by induction on the properties that are still to be written: a slot
that was written before is not written again. -/
theorem getElem?_writeSlots (fields : List Property) (first : Nat) (slots : List (Option Property))
    (hfits : first + fields.length ≤ slots.length) (i : Nat) :
    (writeSlots fields first slots)[i]? =
      if first ≤ i ∧ i < first + fields.length then some fields[i - first]? else slots[i]? := by
  induction fields generalizing first slots with
  | nil =>
    rw [if_neg (by simp)]
    rfl
  | cons field rest ih =>
    rw [List.length_cons] at hfits
    rw [writeSlots_cons, ih _ _ (by rw [List.length_set]; omega), List.getElem?_set,
      List.length_cons]
    -- the slot stays as it was, is written in this step, or is written in a later one
    rcases Nat.lt_trichotomy i first with hlt | rfl | hgt
    · rw [if_neg (by omega), if_neg (by omega), if_neg (by omega)]
    · rw [if_neg (by omega), if_pos rfl, if_pos (by omega), if_pos (by omega), Nat.sub_self,
        List.getElem?_cons_zero]
    · have hindex : i - first = i - (first + 1) + 1 := by omega
      rw [if_neg (by omega : first ≠ i), hindex, List.getElem?_cons_succ]
      exact if_congr (by omega) rfl rfl

/-- The loop does what filling does, if the capacity lies within the buffer. -/
theorem writeSlots_eq_fillSlots {fields : List Property} {capacity : Int}
    {slots : List (Option Property)} (hroom : capacity.toNat ≤ slots.length) :
    writeSlots (fields.take capacity.toNat) 0 slots = fillSlots fields capacity slots := by
  have hwritten : 0 + (fields.take capacity.toNat).length ≤ slots.length := by
    rw [List.length_take]
    omega
  refine List.ext_getElem? fun i => ?_
  rw [getElem?_writeSlots _ _ _ hwritten, fillSlots, List.getElem?_append, List.length_map,
    Nat.zero_add, Nat.sub_zero]
  by_cases hi : i < (fields.take capacity.toNat).length
  · rw [if_pos ⟨Nat.zero_le i, hi⟩, if_pos hi, List.getElem?_map, List.getElem?_eq_getElem hi,
      Option.map_some]
  · rw [if_neg (by omega), if_neg hi, List.getElem?_drop,
      Nat.add_sub_cancel' (Nat.not_lt.mp hi)]

/-- The slots after a call, one by one. -/
theorem getElem?_fillSlots {fields : List Property} {capacity : Int}
    {slots : List (Option Property)} (hroom : capacity.toNat ≤ slots.length) (i : Nat) :
    (fillSlots fields capacity slots)[i]? =
      if i < min capacity.toNat fields.length then some fields[i]? else slots[i]? := by
  have hwritten : 0 + (fields.take capacity.toNat).length ≤ slots.length := by
    rw [List.length_take]
    omega
  rw [← writeSlots_eq_fillSlots hroom, getElem?_writeSlots _ _ _ hwritten, List.length_take,
    Nat.zero_add, Nat.sub_zero]
  by_cases hi : i < min capacity.toNat fields.length
  · rw [if_pos ⟨Nat.zero_le i, hi⟩, if_pos hi, List.getElem?_take_of_lt (by omega)]
  · rw [if_neg (by omega), if_neg hi]

theorem length_fillSlots {fields : List Property} {capacity : Int}
    {slots : List (Option Property)} (hroom : capacity.toNat ≤ slots.length) :
    (fillSlots fields capacity slots).length = slots.length := by
  rw [fillSlots, List.length_append, List.length_map, List.length_drop, List.length_take]
  omega

/-- A capacity of the number of properties lists all of them. -/
theorem fillSlots_length (fields : List Property) (slots : List (Option Property)) :
    fillSlots fields fields.length slots = fields.map some ++ slots.drop fields.length := by
  rw [fillSlots, Int.toNat_natCast, List.take_length]

end Calls

/-! ### What is listed -/

/-- The properties of a type are those of the types on its line, the root first. -/
theorem TypeDescriptor.allProperties_eq_flatMap (type : TypeDescriptor) :
    type.allProperties = type.lineage.reverse.flatMap (·.properties) := by
  match type with
  | { superType := none, .. } => simp [allProperties, lineage]
  | { superType := some parent, .. } =>
    simp [allProperties, lineage, parent.allProperties_eq_flatMap]

/-- Unpacking makes a kind out of one that was made: it only gives bits to a boolean. -/
theorem Kind.Made.unpacked {kind : Kind} (made : kind.Made) : kind.unpacked.Made := by
  unfold Kind.unpacked
  split
  · split
    · exact .bool fullMask
    · exact made
  · exact made

/-- The properties of a built type have kinds that were made. -/
theorem TypeDescriptor.Built.made {type : TypeDescriptor} (built : type.Built)
    {property : Property} (mem : property ∈ type.allProperties) : property.kind.Made := by
  induction built using lineInduction with
  | @build serial name parent specs type parentBuilt specsMade ok ih =>
    obtain ⟨q, hplace, -, -, hsuper⟩ := build_ok ok
    have hown : ∀ x ∈ type.properties, x.kind.Made := by
      refine placeAll_invariant (fun _ placed => ∀ x ∈ placed, x.kind.Made) ?_ (by simp) hplace
      intro spec hspec p placed h _ q x hx y hy
      rcases List.mem_append.mp hy with hy | hy
      · exact h y hy
      · obtain rfl := List.mem_singleton.mp hy
        rcases Placement.place_ok hx with ⟨-, hbit⟩ | ⟨kind, hbody, hfield⟩
        · obtain ⟨_, _, -, -, -, -, rfl⟩ := Placement.placeBitfield_ok hbit
          exact .bool _
        · obtain ⟨_, _, -, -, -, -, -, rfl⟩ := Placement.placeField_ok hfield
          exact specsMade spec hspec kind hbody
    rw [allProperties_eq, hsuper, List.mem_append] at mem
    rcases mem with mem | mem
    · cases parent with
      | none => exact absurd mem List.not_mem_nil
      | some t => exact ih t rfl mem
    · exact hown property mem

/-- What is nested in a property has a kind that was made, if the property has. -/
theorem Property.made_of_mem_innerFields {outer property : Property} (made : outer.kind.Made)
    (mem : property ∈ outer.innerFields) : property.kind.Made := by
  unfold innerFields at mem
  generalize outer.kind = kind at made mem
  cases made with
  | bool mask => exact absurd mem List.not_mem_nil
  | scalar s => exact absurd mem List.not_mem_nil
  | string => exact absurd mem List.not_mem_nil
  | struct built => exact built.made mem
  | array made =>
    obtain rfl := List.mem_singleton.mp mem
    exact made.unpacked
  | map keyMade valueMade =>
    rcases List.mem_pair.mp mem with rfl | rfl
    · exact keyMade.unpacked
    · exact valueMade.unpacked

/-- Every property in a description has a kind that was made, by induction on how deep it is
nested. -/
theorem Property.Described.made {property : Property} (described : property.Described) :
    property.kind.Made := by
  induction described with
  | declared built mem => exact built.made mem
  | nested _ mem ih => exact made_of_mem_innerFields ih mem

/-- The struct types in descriptions are built. -/
theorem Property.Described.built {property : Property} (described : property.Described)
    {type : TypeDescriptor} (h : property.kind = .struct type) : type.Built := by
  have made := described.made
  rw [h] at made
  cases made with
  | struct built => exact built

/-! ### Both calls -/

/-- No two nested properties of a property have the same name. -/
theorem Property.Described.innerNames_nodup {property : Property}
    (described : property.Described) : (property.innerFields.map (·.name)).Nodup := by
  unfold innerFields
  split
  · exact List.nodup_singleton _
  · simp [ofKey, ofValue, inner, ofKind]
  · next type h => exact (described.built h).names_nodup
  · exact List.nodup_nil

/-- A C string ends at its zero. -/
theorem Text.untilNul_append {bytes : List UInt8} (h : 0 ∉ bytes) (rest : List UInt8) :
    untilNul (bytes ++ 0 :: rest) = bytes := by
  have hbytes : ∀ byte ∈ bytes, (byte != 0) = true := fun byte hbyte =>
    bne_iff_ne.mpr fun hzero => h (hzero ▸ hbyte)
  rw [untilNul, List.takeWhile_append_of_pos hbytes, List.takeWhile_cons_of_neg (by simp),
    List.append_nil]

/-- What `GetInnerFields` answers and writes.  The number of nested properties is reported whatever
buffer and capacity there are.  A buffer is written to slot by slot, from its start and in the order
of the properties, as far as the capacity and the properties go, and no other slot changes; so the
number that a call without a buffer gives lists every property once in the next call.  An array
lists its elements, a map its keys and then its values, and a struct the properties of all types on
the line of its type, the root first.  All these have different names, and those of a struct are
what a lookup of their names finds on its type, if these names can be C strings. -/
theorem listing_sizeThenFill (property : Property) (tracing : Bool) :
    let fields := property.innerFields
    let call (out : Option (List (Option Property))) (capacity : Int) :=
      (Calls.getInnerFields tracing property out capacity).value
    (∀ out capacity, (call out capacity).1 = min fields.length maxExtent) ∧
    (∀ capacity, (call none capacity).2 = none) ∧
    (∀ slots (capacity : Int), capacity.toNat ≤ slots.length →
      let after := Calls.writeSlots (fields.take capacity.toNat) 0 slots
      (call (some slots) capacity).2 = some after ∧ after.length = slots.length ∧
      ∀ i, after[i]? =
        if i < min capacity.toNat fields.length then some fields[i]? else slots[i]?) ∧
    (fields.length ≤ maxExtent → ∀ slots capacity, fields.length ≤ slots.length →
      (call (some slots) (call none capacity).1).2 =
        some (fields.map some ++ slots.drop fields.length)) ∧
    (match property.kind with
      | .array element => fields = [.ofElement element]
      | .map key value => fields = [.ofKey key, .ofValue key value]
      | .struct type => fields = type.lineage.reverse.flatMap (·.properties)
      | _ => fields = []) ∧
    (property.Described → (fields.map (·.name)).Nodup ∧
      ∀ type, property.kind = .struct type → ∀ p ∈ fields, 0 ∉ Text.bytes p.name → ∀ rest,
        (Calls.resolvePropertyByName tracing (some type)
          (some (Text.bytes p.name ++ 0 :: rest))).value = some p) := by
  intro fields call
  refine ⟨fun out capacity => ?_, fun capacity => rfl, fun slots capacity hroom => ?_,
    fun hfits slots capacity hroom => ?_, ?_, fun described => ⟨described.innerNames_nodup, ?_⟩⟩
  · exact (Nat.cast_min fields.length maxExtent).symm
  · rw [Calls.writeSlots_eq_fillSlots hroom]
    exact ⟨rfl, Calls.length_fillSlots hroom, Calls.getElem?_fillSlots hroom⟩
  · change some (Calls.fillSlots fields (reportExtent fields.length) slots) = _
    rw [reportExtent_eq hfits, Calls.fillSlots_length]
  · have hfields : fields = property.innerFields := rfl
    rw [hfields, Property.innerFields]
    cases property.kind with
    | struct type => exact type.allProperties_eq_flatMap
    | _ => rfl
  · intro type htype p hp hname rest
    have hfields : fields = type.allProperties := by
      change property.innerFields = _
      rw [Property.innerFields, htype]
    change type.resolve? (Text.untilNul (Text.bytes p.name ++ 0 :: rest)) = some p
    rw [Text.untilNul_append hname]
    exact (described.built htype).resolve?_eq_some_iff.mpr ⟨hfields ▸ hp, rfl⟩

/-- A house with a door. -/
def house : TypeDescriptor where
  serial := 2
  name := "House"
  size := 8
  align := 4
  superType := none
  properties := [.ofKind "D" (.struct door) 0 1 .none]

theorem built_house : house.Built := by
  have hhouse : TypeDescriptor.build 2 "House" none
      [{ name := "D", body := .field (.struct door) }] = .ok house := by
    rfl
  refine .build (by simp) ?_ hhouse
  simp only [List.mem_singleton, forall_eq, SpecBody.field.injEq]
  exact fun _ h => h ▸ .struct built_door

/-- A door has the height of a thing before whether it is open, a third slot stays empty, and the
height is what the door has under `H`. -/
theorem listing_sizeThenFill_house :
    let call (out : Option (List (Option Property))) (capacity : Int) :=
      (Calls.getInnerFields true (.ofKind "D" (.struct door) 0 1 .none) out capacity).value
    (call (some [none, none, none]) (call none (-1)).1).2 =
      some [some (.ofKind "H" (.scalar .int32) 0 1 .none), some (.ofKind "O" (.bool 1) 4 1 .none),
        none] ∧
    (Calls.resolvePropertyByName true (some door) (some [72, 0])).value =
      some (.ofKind "H" (.scalar .int32) 0 1 .none) := by
  have described : Property.Described (.ofKind "D" (.struct door) 0 1 .none) :=
    .declared built_house List.mem_cons_self
  obtain ⟨-, -, -, htwoCalls, -, hnames⟩ :=
    listing_sizeThenFill (.ofKind "D" (.struct door) 0 1 .none) true
  refine ⟨htwoCalls (by decide) [none, none, none] (-1) (by decide), ?_⟩
  exact (hnames described).2 door rfl _ List.mem_cons_self (by decide +kernel) []

end PropertyReflection
