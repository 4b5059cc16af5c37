import Mathlib
import PropertyReflection.Container.ArrayValue
import PropertyReflection.Proofs.LayoutSoundness
import PropertyReflection.Proofs.MapDictionary
import PropertyReflection.Proofs.OwnedBits

/-!
# Siblings do not disturb each other

What is done to one property of an instance is not seen through any other property, inherited or
not, even if both are booleans in one byte.  `Property.Operation` lists what can be done.  Each
operation keeps to the range of the property, and if the property is a boolean, to the bits of its
mask in every byte: this is `Property.Isolated`, and it is all that is known about an operation in
the rest of the module.  The layout does the other half, because two properties of one instance have
no bit in common.

### Outline

* `Property.Operation` and what it does, `Property.Operation.run`;
* `Property.Operation.isolated`, a case for each operation;
* `Property.Operation.exists_ok`, for the operations that cannot fail;
* `Property.sameIn_of_runAll` and `readAll_eq_of_runAll`, what a sibling sees of many operations;
* `isolated_of_operation`, which puts it together for one operation.
-/

namespace PropertyReflection

namespace ArrayValue

/-- A change to an array. -/
inductive Change where
  | push
  | remove (index : Nat)
  | clear

/-- Carry out a change. -/
def Change.apply (element : Kind) (storage : Slots Cell) :
    Change → Except StorageFault (Slots Cell)
  | .push => ArrayValue.push element storage
  | .remove index => .ok ((remove? element storage index).getD storage)
  | .clear => .ok (ArrayValue.clear storage)

end ArrayValue

namespace Property

/-! ### Operations -/

/-- What can be done to a property inside an instance.  An index chooses an element. -/
inductive Operation where
  | construct
  | destroy
  /-- Copy one element from outside the instance. -/
  | copyFirst (index : Nat) (source : Block) (b : Nat)
  /-- Copy all elements from outside the instance. -/
  | copyAll (source : Block) (b : Nat)
  /-- Write a boolean; nothing happens to other properties. -/
  | setBool (index : Nat) (value : Bool)
  /-- Change an array; nothing happens to other properties. -/
  | editArray (index : Nat) (change : ArrayValue.Change)
  /-- Change a map; nothing happens to other properties. -/
  | editMap (index : Nat) (change : MapValue.Change)

/-- The address of an element inside the instance at an address. -/
def elementIn (property : Property) (base index : Nat) : Nat :=
  Elements.address (base + property.offset) property.size index

namespace Operation

/-- The element that is chosen exists. -/
def InBounds (property : Property) : Operation → Prop
  | .construct | .destroy | .copyAll _ _ => True
  | .copyFirst index _ _ | .setBool index _ | .editArray index _ | .editMap index _ =>
    index < property.dim

/-- Operations that cannot fail, because they make no room in a container but the one they copy to.
A copy needs a live source. -/
def Certain (property : Property) : Operation → Prop
  | .construct | .destroy | .setBool _ _ => True
  | .copyFirst _ source b => property.kind.Live source b
  | .copyAll source b =>
    ∀ i < property.dim, property.kind.Live source (Elements.address b property.size i)
  | .editArray _ change => change ≠ .push
  | .editMap _ change => ∀ k v, change ≠ .add k v

/-- Carry out an operation on a property of the instance at an address. -/
def run (property : Property) (m : Block) (base : Nat) : Operation → Except StorageFault Block
  | .construct => .ok (property.constructIn m base)
  | .destroy => .ok (property.destroyIn m base)
  | .copyFirst index source b => property.copyFirst m (property.elementIn base index) source b
  | .copyAll source b => property.copyAll m (base + property.offset) source b
  | .setBool index value =>
    .ok ((property.setBool? m (property.elementIn base index) value).getD m)
  | .editArray index change =>
    match property.kind with
    | .array element => do
      let storage ← change.apply element (m.slots (property.elementIn base index))
      return m.setCell (property.elementIn base index) (.slots storage)
    | _ => .ok m
  | .editMap index change =>
    match property.kind with
    | .map key value => do
      let pairs ← change.apply key value (m.slots (property.elementIn base index))
      return m.setCell (property.elementIn base index) (.slots pairs)
    | _ => .ok m

end Operation

/-! ### Operations are isolated -/

/-- Nothing has changed but the elements of a property, the first of which is at an address.  If they
are booleans, all other bits of all bytes are as they were. -/
structure Isolated (property : Property) (m m' : Block) (a : Nat) : Prop where
  changedOnly : m.ChangedOnly m' a property.totalSize
  bits : ∀ mask, property.kind = .bool mask →
    ∀ x, m'.byte x &&& ~~~mask = m.byte x &&& ~~~mask

variable {property p q : Property} {m m' m'' : Block} {a base i : Nat}

namespace Isolated

theorem refl (property : Property) (m : Block) (a : Nat) : property.Isolated m m a :=
  ⟨.refl m a _, fun _ _ _ => rfl⟩

/-- A change to what belongs to the elements is isolated. -/
theorem of_keptOutside (sound : property.kind.Sound) (h : m.KeptOutside m' (property.OwnsAt a)) :
    property.Isolated m m' a where
  changedOnly := h.changedOnly fun _ _ howned => howned.in_range sound
  bits _ hkind _ := h.byte_and_not_eq fun _ howned => howned.of_bool hkind

/-- A change to what belongs to one of the elements is isolated. -/
theorem of_element (sound : property.kind.Sound) (hi : i < property.dim)
    (h : m.KeptOutside m' (property.kind.OwnsAt (Elements.address a property.size i))) :
    property.Isolated m m' a :=
  of_keptOutside sound (h.mono fun _ _ howned => ⟨i, hi, howned⟩)

end Isolated

/-- Constructing booleans changes the bits of their masks. -/
theorem isolated_construct (sound : property.kind.Sound) (m : Block) (a : Nat) :
    property.Isolated m (property.construct m a) a where
  changedOnly := (property.confined_construct sound m a).changedOnly
  bits := by
    intro mask hkind x
    rw [construct, hkind, Elements.update]
    generalize List.range property.dim = indices
    induction indices generalizing m with
    | nil => rfl
    | cons i rest ih =>
      rw [List.foldl_cons, ih, Kind.construct]
      by_cases hself : x = Elements.address a property.size i
      · rw [hself, m.byte_setBool_outside]
      · rw [Block.byte_congr (Block.cell_setBool_of_ne hself mask false)]

/-- Booleans own nothing, and their destruction changes nothing. -/
theorem isolated_destroy (sound : property.kind.Sound) (m : Block) (a : Nat) :
    property.Isolated m (property.destroy m a) a where
  changedOnly := (property.confined_destroy sound m a).changedOnly
  bits := by
    intro mask hkind x
    rw [destroy, hkind, Elements.update]
    generalize List.range property.dim = indices
    induction indices generalizing m with
    | nil => rfl
    | cons i rest ih => rw [List.foldl_cons, ih, Kind.destroy]

/-- Writing a boolean changes the bits of its mask; other properties are not written. -/
theorem isolated_setBool (sound : property.kind.Sound) (hi : i < property.dim) (value : Bool) :
    property.Isolated m
      ((property.setBool? m (Elements.address a property.size i) value).getD m) a := by
  unfold setBool? fieldMask?
  split
  · next mask hkind =>
    rw [hkind] at sound
    cases sound with
    | bool masked =>
      have hwrite := m.keptOutside_setBool (Elements.address a property.size i) masked value
      rw [← hkind] at hwrite
      exact .of_element (hkind ▸ .bool masked) hi hwrite
  · exact .refl property m a

/-- Every operation is isolated. -/
theorem Operation.isolated (sound : property.kind.Sound) {operation : Operation}
    (inBounds : operation.InBounds property) (ok : operation.run property m base = .ok m') :
    property.Isolated m m' (base + property.offset) := by
  cases operation with
  | construct =>
    obtain rfl := Except.ok.inj ok
    exact isolated_construct sound m _
  | destroy =>
    obtain rfl := Except.ok.inj ok
    exact isolated_destroy sound m _
  | copyFirst index source b => exact .of_element sound inBounds (sound.keptOutside_copy ok)
  | copyAll source b => exact .of_keptOutside sound (keptOutside_copyAll sound ok)
  | setBool index value =>
    obtain rfl := Except.ok.inj ok
    exact isolated_setBool sound inBounds value
  | editArray index change =>
    rw [run] at ok
    split at ok
    · next element hkind =>
      obtain ⟨storage, -, ok⟩ := exists_of_bind_eq_ok ok
      obtain rfl := Except.ok.inj ok
      refine .of_element sound inBounds (.of_setCell m _ _ fun _ hdistance _ => ?_)
      rw [hkind]
      exact .array hdistance
    · obtain rfl := Except.ok.inj ok
      exact .refl property m _
  | editMap index change =>
    rw [run] at ok
    split at ok
    · next key value hkind =>
      obtain ⟨pairs, -, ok⟩ := exists_of_bind_eq_ok ok
      obtain rfl := Except.ok.inj ok
      refine .of_element sound inBounds (.of_setCell m _ _ fun _ hdistance _ => ?_)
      rw [hkind]
      exact .map hdistance
    · obtain rfl := Except.ok.inj ok
      exact .refl property m _

/-- The elements of an instance lie inside its property. -/
theorem elementIn_add_le (hi : i < property.dim) :
    property.elementIn base i + property.size ≤ base + property.offset + property.totalSize :=
  Elements.address_add_le hi (base + property.offset) property.size

/-- An operation that cannot fail succeeds. -/
theorem Operation.exists_ok (sound : property.kind.Sound) {operation : Operation}
    (inBounds : operation.InBounds property) (certain : operation.Certain property)
    (fits : base + property.offset + property.totalSize ≤ m.size) :
    ∃ m', operation.run property m base = .ok m' := by
  cases operation with
  | construct | destroy | setBool => exact ⟨_, rfl⟩
  | copyFirst index source b =>
    obtain ⟨m', hok, -, -⟩ := sound.copiesFaithfully m (property.elementIn base index) source b
      ((elementIn_add_le inBounds).trans fits) certain
    exact ⟨m', hok⟩
  | copyAll source b =>
    obtain ⟨m', hok, -, -⟩ := Property.copyAll_ok sound sound.copiesFaithfully fits certain
    exact ⟨m', hok⟩
  | editArray index change =>
    rw [run]
    split
    · cases change with
      | push => exact absurd rfl certain
      | remove | clear => exact ⟨_, rfl⟩
    · exact ⟨m, rfl⟩
  | editMap index change =>
    rw [run]
    split
    · cases change with
      | add k v => exact absurd rfl (certain k v)
      | remove | clear => exact ⟨_, rfl⟩
    · exact ⟨m, rfl⟩

/-! ### What siblings see -/

theorem Isolated.confined (h : property.Isolated m m' a) : property.Confined m m' a :=
  ⟨h.changedOnly, fun mask hkind _ => h.bits mask hkind a⟩

/-- The steps of a user, each on a property of the instance at an address. -/
def runAll (m : Block) (base : Nat) (steps : List (Property × Operation)) :
    Except StorageFault Block :=
  steps.foldlM (fun m step => step.2.run step.1 m base) m

/-- However many operations are carried out on the properties apart from one, its elements stay the
same. -/
theorem sameIn_of_runAll {steps : List (Property × Operation)}
    (sound : ∀ step ∈ steps, step.1.kind.Sound) (apart : ∀ step ∈ steps, step.1.Apart q)
    (inBounds : ∀ step ∈ steps, step.2.InBounds step.1) (ok : runAll m base steps = .ok m')
    (hi : i < q.dim) :
    q.kind.SameIn m' (q.elementIn base i) m (q.elementIn base i) := by
  induction steps generalizing m with
  | nil =>
    obtain rfl : m = m' := Except.ok.inj ok
    exact .of_sameCells fun _ _ => rfl
  | cons step rest ih =>
    rw [runAll, List.foldlM_cons] at ok
    obtain ⟨next, hfirst, hrest⟩ := exists_of_bind_eq_ok ok
    have hstep := Operation.isolated (sound step List.mem_cons_self)
      (inBounds step List.mem_cons_self) hfirst
    have hsame : q.kind.SameIn next (q.elementIn base i) m (q.elementIn base i) :=
      hstep.confined.sameIn (apart step List.mem_cons_self) hi
    exact (ih (fun s hs => sound s (List.mem_cons_of_mem _ hs))
      (fun s hs => apart s (List.mem_cons_of_mem _ hs))
      (fun s hs => inBounds s (List.mem_cons_of_mem _ hs)) hrest).trans hsame

end Property

/-- Two properties of one type have no bit in common. -/
theorem TypeDescriptor.SoundLayout.apart_of_ne {type : TypeDescriptor} (layout : type.SoundLayout)
    {p q : Property} (hp : p ∈ type.allProperties) (hq : q ∈ type.allProperties) (hne : p ≠ q) :
    p.Apart q := by
  have symmetric : Std.Symm Property.Apart := ⟨fun _ _ => Property.Apart.symm⟩
  exact layout.apart.forall hp hq hne

/-- Whatever is done to other properties of an instance, and however often, a property reads the same
afterwards. -/
theorem readAll_eq_of_runAll {type : TypeDescriptor} (built : type.Built) {q : Property}
    (hq : q ∈ type.allProperties) {steps : List (Property × Property.Operation)}
    (others : ∀ step ∈ steps, step.1 ∈ type.allProperties ∧ step.1 ≠ q)
    (inBounds : ∀ step ∈ steps, step.2.InBounds step.1) {m m' : Block} {base : Nat}
    (ok : Property.runAll m base steps = .ok m') :
    q.readAll m' (base + q.offset) = q.readAll m (base + q.offset) := by
  have hsound := built.sound
  cases hsound with
  | struct layout fieldsSound =>
    refine Property.readAll_congr (fieldsSound q hq) fun i hi => ?_
    refine Property.sameIn_of_runAll (fun step hstep => ?_) (fun step hstep => ?_) inBounds ok hi
    · exact fieldsSound step.1 (others step hstep).1
    · exact layout.apart_of_ne (others step hstep).1 hq (others step hstep).2

/-- Nothing that is done to one property of an instance is seen through another one, and a boolean
reads as it was written. -/
theorem isolated_of_operation {type : TypeDescriptor} (built : type.Built) {p q : Property}
    (hp : p ∈ type.allProperties) (hq : q ∈ type.allProperties) (hne : p ≠ q) {m : Block}
    {base : Nat} (fits : base + type.size ≤ m.size) :
    (∀ operation : Property.Operation, operation.InBounds p → ∀ m' : Block,
      operation.run p m base = .ok m' →
        p.Isolated m m' (base + p.offset) ∧
        q.readAll m' (base + q.offset) = q.readAll m (base + q.offset) ∧
        ∀ i < q.dim, q.kind.Live m (q.elementIn base i) → q.kind.Live m' (q.elementIn base i)) ∧
    (∀ operation : Property.Operation, operation.InBounds p → operation.Certain p →
      ∃ m' : Block, operation.run p m base = .ok m') ∧
    ∀ mask, p.kind = .bool mask → ∀ i < p.dim, ∀ value : Bool,
      ∃ m' : Block, p.setBool? m (p.elementIn base i) value = some m' ∧
        p.getBool? m' (p.elementIn base i) = some value := by
  have hsound := built.sound
  cases hsound with
  | struct layout fieldsSound =>
    have hpSound := fieldsSound p hp
    have hqSound := fieldsSound q hq
    have hwithin := layout.within p hp
    have hapart : p.Apart q := layout.apart_of_ne hp hq hne
    have hfits : base + p.offset + p.totalSize ≤ m.size := by omega
    refine ⟨?_, fun operation inBounds certain =>
      Property.Operation.exists_ok hpSound inBounds certain hfits, ?_⟩
    · intro operation inBounds m' hok
      have hisolated := Property.Operation.isolated hpSound inBounds hok
      have hsame : ∀ i < q.dim, q.kind.SameIn m' (q.elementIn base i) m (q.elementIn base i) :=
        fun i hi => hisolated.confined.sameIn hapart hi
      exact ⟨hisolated, Property.readAll_congr hqSound hsame,
        fun i hi hlive => hqSound.live_congr (hsame i hi) hlive⟩
    · intro mask hkind i hi value
      have hinside : p.elementIn base i + p.size ≤ base + p.offset + p.totalSize :=
        Property.elementIn_add_le hi
      have hmask : p.fieldMask? = some mask := by rw [Property.fieldMask?, hkind]
      have hsize : p.size = 1 := by rw [Property.size, hkind, Kind.size]
      rw [hkind] at hpSound
      cases hpSound with
      | bool masked =>
        refine ⟨m.setBool (p.elementIn base i) mask value, ?_, ?_⟩
        · rw [Property.setBool?, hmask, Option.map_some]
        · rw [Property.getBool?, hmask, Option.map_some, Block.bool_setBool masked (by omega)]

/-- The first boolean of a byte. -/
def gateOpen : Property := .ofKind "bOpen" (.bool 1) 0 1 .none

/-- The second boolean of the same byte. -/
def gateLocked : Property := .ofKind "bLocked" (.bool 2) 0 1 .none

/-- A type with two booleans in one byte. -/
def gate : TypeDescriptor where
  serial := 0
  name := "Gate"
  size := 1
  align := 1
  superType := none
  properties := [gateOpen, gateLocked]

/-- Opening a locked gate does not unlock it, and it is open then. -/
theorem isolated_of_operation_gate :
    ∃ m' : Block, (Property.Operation.setBool 0 true).run gateOpen (Block.filled 1 2) 0 = .ok m' ∧
      gateLocked.readAll m' 0 = gateLocked.readAll (Block.filled 1 2) 0 ∧
      gateOpen.getBool? m' 0 = some true := by
  have built : gate.Built := by
    refine @TypeDescriptor.Built.build 0 "Gate" none
      [{ name := "bOpen", body := .bitfield }, { name := "bLocked", body := .bitfield }] gate
      (by simp) (by simp) rfl
  have hne : gateOpen ≠ gateLocked := by
    intro h
    have hname := congrArg Property.name h
    exact absurd hname (by decide)
  have fits : 0 + gate.size ≤ (Block.filled 1 2).size := by decide
  obtain ⟨hkeeps, hruns, hwrites⟩ := isolated_of_operation built (p := gateOpen) (q := gateLocked)
    List.mem_cons_self (List.mem_cons_of_mem _ List.mem_cons_self) hne fits
  have inBounds : (Property.Operation.setBool 0 true).InBounds gateOpen := Nat.one_pos
  obtain ⟨m', hok⟩ := hruns (.setBool 0 true) inBounds trivial
  obtain ⟨m'', hwrite, hget⟩ := hwrites 1 rfl 0 Nat.one_pos true
  refine ⟨m', hok, (hkeeps _ inBounds m' hok).2.1, ?_⟩
  have hsame : m'' = m' := by
    have hrun := Except.ok.inj hok
    rw [hwrite] at hrun
    exact hrun
  exact hsame ▸ hget

end PropertyReflection
