import Mathlib
import PropertyReflection.Proofs.MapHistory
import PropertyReflection.Proofs.ProducedValues
import PropertyReflection.Proofs.StorageCalls

/-!
# Copies find their storage

To copy a container is to give back the storage of the destination and to take as many slots into
use as the source has.  If this stopped, the destination would be gone already.  It cannot stop: new
storage gets no more than four slots or one for each element, and storage that has elements was
allocated with as many at least, for the same stride and alignment.

This depends on the storage of the source being as the operations leave it, and the same is needed
of the destination, where the layout of the allocation is computed again in order to free it.  Both
are about all containers inside the two values as well, since elements are destroyed and copied with
the container that they are in.

### Outline

* `Slots.capacityFor`, the capacity of storage that is new;
* `StorageCall.rebuild`, what a copy asks of storage, and that it does not stop;
* `Kind.Holds`, the storage of all containers in a value;
* `Kind.Produced.copy_completes`, which puts this together.
-/

namespace PropertyReflection

/-! ### New storage -/

namespace Slots

variable {α : Type} {slots target : Slots α} {stride align count : Nat}

/-- The capacity of storage that is made for a number of elements. -/
def capacityFor (count : Nat) : Nat :=
  if count = 0 then 0 else max count 4

/-- Sound storage has the capacity that storage for its elements would be made with. -/
theorem Sound.capacityFor_le (h : slots.Sound stride align) :
    capacityFor slots.count ≤ slots.capacity := by
  have hcount := h.count_le
  rw [capacityFor]
  split
  · exact Nat.zero_le _
  · obtain ⟨hfour, -⟩ := h.allocated.resolve_left (by omega)
    exact max_le hcount hfour

/-- Storage grows from nothing to the capacity for its elements. -/
theorem capacity_reserve_empty
    (ok : (empty : Slots α).reserve count stride align = .ok target) :
    target.capacity = capacityFor count := by
  simp only [reserve, empty, grownCapacity, Nat.zero_add, Nat.zero_mul, Nat.max_zero] at ok
  rw [capacityFor]
  grind

/-- New storage has the slots that were asked for, and the capacity for them. -/
theorem extend_empty_eq {fresh : α}
    (ok : (empty : Slots α).extend fresh count stride align = .ok target) :
    target.count = count ∧ target.capacity = capacityFor count := by
  cases hreserve : (empty : Slots α).reserve count stride align with
  | error fault =>
    rw [extend_eq_error_of_reserve fresh hreserve] at ok
    exact absurd ok (by simp)
  | ok room =>
    rw [extend_eq_of_reserve fresh hreserve] at ok
    obtain rfl := Except.ok.inj ok
    have hroom : room.capacity = capacityFor count := capacity_reserve_empty hreserve
    exact ⟨Nat.zero_add count, hroom⟩

end Slots

namespace StorageCall

variable {α : Type} {held origin : Slots α} {stride align : Nat}

/-- Give the allocation back, and take slots into use in a new one. -/
def rebuild (fresh : α) (count stride align : Nat) : StorageCall α Nat := do
  free stride align
  add fresh count stride align

/-- Storage is built again for the elements of other storage that has the same stride and alignment,
without a stop. -/
theorem outcome_rebuild (heldSound : held.Sound stride align) (sound : origin.Sound stride align)
    (pos : 0 < stride) (fresh : α) :
    ∃ target : Slots α,
      (rebuild fresh origin.count stride align).outcome held = (.ok 0, target) ∧
      target.count = origin.count ∧ target.capacity = Slots.capacityFor origin.count := by
  obtain ⟨target, hextend, -⟩ := sound.extend_empty pos fresh
  refine ⟨target, ?_, Slots.extend_empty_eq hextend⟩
  have hadd := outcome_add (Slots.sound_empty stride align) pos fresh origin.count
  rw [hextend] at hadd
  rw [rebuild, outcome_bind, outcome_free heldSound]
  exact hadd

end StorageCall

/-! ### The storage in a value -/

/-- Storage, with the stride and the alignment that it is always used with. -/
structure Storage where
  slots : Slots Cell
  stride : Nat
  align : Nat

/-- Storage of slots that are not empty, as the operations on it leave it. -/
structure Storage.Sound (storage : Storage) : Prop where
  slots : storage.slots.Sound storage.stride storage.align
  stride_pos : 0 < storage.stride

namespace Kind

variable {kind : Kind} {m m' source : Block} {a b : Nat} {storage : Storage}

/-- The storage of a value, if it is a container. -/
def storage? : Kind → Block → Nat → Option Storage
  | .array element, m, a => some ⟨m.slots a, element.size, element.align⟩
  | .map key value, m, a => some ⟨m.slots a, key.pairSize value, key.pairAlign value⟩
  | _, _, _ => none

/-- The storage of the containers in a value: its own, and that of everything inside it. -/
inductive Holds : Kind → Block → Nat → Storage → Prop where
  | own {kind : Kind} {m : Block} {a : Nat} {storage : Storage}
    (h : kind.storage? m a = some storage) : Holds kind m a storage
  | field {type : TypeDescriptor} {m : Block} {a : Nat} {storage : Storage} {p : Property}
    (mem : p ∈ type.allProperties) {i : Nat} (hi : i < p.dim)
    (inner : p.kind.Holds m (Elements.address (a + p.offset) p.size i) storage) :
    Holds (.struct type) m a storage
  | element {element : Kind} {m : Block} {a : Nat} {storage : Storage} {i : Nat}
    (hi : i < (m.slots a).count)
    (inner : element.Holds (m.slots a).cells (Elements.address 0 element.size i) storage) :
    Holds (.array element) m a storage
  | key {key value : Kind} {m : Block} {a : Nat} {storage : Storage} {i : Nat}
    (hi : i < (m.slots a).count)
    (inner : key.Holds (m.slots a).cells (MapValue.keyAddress key value i) storage) :
    Holds (.map key value) m a storage
  | value {key value : Kind} {m : Block} {a : Nat} {storage : Storage} {i : Nat}
    (hi : i < (m.slots a).count)
    (inner : value.Holds (m.slots a).cells (MapValue.valueAddress key value i) storage) :
    Holds (.map key value) m a storage

/-- The storage of a usable container is sound. -/
theorem Usable.storage_sound (usable : kind.Usable m a) (h : kind.storage? m a = some storage) :
    storage.Sound := by
  have hsound := usable.sound
  have hlive := usable.live
  cases kind with
  | array element =>
    obtain rfl := Option.some.inj h
    cases hsound with
    | array elementSound =>
      exact ⟨(ArrayValue.live_array_iff.mp hlive).storage, elementSound.size_pos⟩
  | map key value =>
    obtain rfl := Option.some.inj h
    cases hsound with
    | map keySound valueSound =>
      exact ⟨(MapValue.live_map_iff.mp hlive).storage, pairSize_pos valueSound⟩
  | _ => exact absurd h (by simp [storage?])

/-- All storage in a usable value is sound, by induction on how deep it lies. -/
theorem Usable.holds_sound (usable : kind.Usable m a) (holds : kind.Holds m a storage) :
    storage.Sound := by
  induction holds with
  | own h => exact usable.storage_sound h
  | field mem hi _ ih => exact ih (usable.fieldAt mem hi)
  | element hi _ ih => exact ih (usable.elementAt hi)
  | key hi _ ih => exact ih (usable.keyAt hi)
  | value hi _ ih => exact ih (usable.valueAt hi)

/-- A container that was built again, whatever its slots were filled with, has as many slots as were
asked for. -/
theorem slots_of_rebuild {count stride align : Nat}
    {fill : Slots Cell → Except StorageFault Block} (ha : a < m.size)
    (ok : (do
      let target ← (m.slots a).release.extend default count stride align
      let cells ← fill target
      return m.setCell a (.slots { target with cells := cells })) = .ok m') :
    (m'.slots a).count = count ∧ (m'.slots a).capacity = Slots.capacityFor count := by
  obtain ⟨target, hextend, ok⟩ := exists_of_bind_eq_ok ok
  obtain ⟨cells, -, ok⟩ := exists_of_bind_eq_ok ok
  obtain rfl := Except.ok.inj ok
  have hnew : target.count = count ∧ target.capacity = Slots.capacityFor count :=
    Slots.extend_empty_eq hextend
  rw [Block.slots_setCell ha]
  exact hnew

/-- A container that was copied has storage for the elements of its source, and no more. -/
theorem storage?_copy (fits : a + kind.size ≤ m.size) (ok : kind.copy m a source b = .ok m')
    (h : kind.storage? source b = some storage) :
    ∃ slots : Slots Cell, kind.storage? m' a = some { storage with slots := slots } ∧
      slots.count = storage.slots.count ∧
      slots.capacity = Slots.capacityFor storage.slots.count := by
  cases kind with
  | array element =>
    obtain rfl := Option.some.inj h
    rw [copy] at ok
    exact ⟨m'.slots a, rfl, slots_of_rebuild (lt_of_handle_fits fits) ok⟩
  | map key value =>
    obtain rfl := Option.some.inj h
    rw [copy] at ok
    exact ⟨m'.slots a, rfl, slots_of_rebuild (lt_of_handle_fits fits) ok⟩
  | _ => exact absurd h (by simp [storage?])

end Kind

/-- Copying a value that has come about over another one cannot stop.  The storage of all containers
in the destination is given back, and a container in the source gets storage for as many slots as it
has elements, which it has room for itself, whether the destination has none yet or gives storage
with this stride and alignment back for it.  The result is a value with a history again. -/
theorem Kind.Produced.copy_completes {kind : Kind} {m source : Block} {a b : Nat}
    (dest : kind.Produced m a) (origin : kind.Produced source b) :
    (∀ held : Storage, kind.Holds m a held →
      (StorageCall.free held.stride held.align).outcome held.slots = (.ok (), .empty)) ∧
    (∀ asked : Storage, kind.Holds source b asked →
      Slots.capacityFor asked.slots.count ≤ asked.slots.capacity ∧
      ∀ held : Slots Cell, held = .empty ∨ kind.Holds m a ⟨held, asked.stride, asked.align⟩ →
        ∃ target : Slots Cell,
          (StorageCall.rebuild default asked.slots.count asked.stride asked.align).outcome held =
            (.ok 0, target) ∧
          target.count = asked.slots.count ∧
          target.capacity = Slots.capacityFor asked.slots.count) ∧
    ∃ m' : Block, kind.copy m a source b = .ok m' ∧ kind.Produced m' a ∧
      ∀ asked : Storage, kind.storage? source b = some asked →
        ∃ target : Slots Cell, kind.storage? m' a = some { asked with slots := target } ∧
          target.count = asked.slots.count ∧
          target.capacity = Slots.capacityFor asked.slots.count := by
  have hdest := dest.usable
  have horigin := origin.usable
  refine ⟨fun held hheld => ?_, fun asked hasked => ?_, ?_⟩
  · exact StorageCall.outcome_free (hdest.holds_sound hheld).slots
  · -- the source decides what is asked for, and the destination only has to be free of faults
    obtain ⟨hsound, hpos⟩ := horigin.holds_sound hasked
    refine ⟨hsound.capacityFor_le, fun held hheld => ?_⟩
    have hheldSound : held.Sound asked.stride asked.align := by
      rcases hheld with rfl | hheld
      · exact Slots.sound_empty _ _
      · exact (hdest.holds_sound hheld).slots
    exact StorageCall.outcome_rebuild hheldSound hsound hpos default
  · obtain ⟨m', hok, -, -⟩ :=
      hdest.sound.copiesFaithfully m a source b hdest.fits horigin.live
    exact ⟨m', hok, dest.copied origin hok, fun _ h => storage?_copy hdest.fits hok h⟩

/-- A map without votes. -/
def noVotes : Block := ballotVotes.kind.construct (Block.filled 24 0) 0

/-- Five votes, of which two are taken back. -/
def votesTakenBack : List MapValue.Change :=
  [.add (.ofBytes [1]) (.ofBytes [10]), .add (.ofBytes [2]) (.ofBytes [20]),
    .add (.ofBytes [3]) (.ofBytes [30]), .add (.ofBytes [4]) (.ofBytes [40]),
    .add (.ofBytes [5]) (.ofBytes [50]), .remove (.ofBytes [1]), .remove (.ofBytes [2])]

theorem produced_noVotes : ballotVotes.kind.Produced noVotes 0 :=
  .initialized described_ballotVotes (by decide)

/-- A byte in memory of its own. -/
theorem produced_ofBytes (byte : UInt8) :
    (Kind.scalar .uint8).Produced (MapValue.Operand.ofBytes [byte]).block 0 := by
  have hkey : (Property.ofKey (.scalar .uint8)).Described :=
    .nested described_ballotVotes List.mem_cons_self
  have hinitial := @Kind.Produced.initialized _ (Block.filled 1 0) 0 hkey (by decide)
  exact .written hinitial (.scalar .uint8) rfl

/-- The votes are stored in eight slots, and their copy in four. -/
theorem copy_completes_votes :
    ∃ votes m' : Block, (votes.slots 0).count = 3 ∧ (votes.slots 0).capacity = 8 ∧
      ballotVotes.kind.copy noVotes 0 votes 0 = .ok m' ∧
      (m'.slots 0).count = 3 ∧ (m'.slots 0).capacity = 4 := by
  have hcount : (countVotes votesTakenBack).toOption.map (fun pairs =>
      (pairs.count, pairs.capacity)) = some (3, 8) := by
    decide +kernel
  cases ran : countVotes votesTakenBack with
  | error fault =>
    rw [ran] at hcount
    exact absurd hcount (by simp [Except.toOption])
  | ok pairs =>
    rw [ran] at hcount
    obtain ⟨hpairs, hcapacity⟩ := Prod.mk.inj (Option.some.inj hcount)
    have operands : ∀ k v, MapValue.Change.add k v ∈ votesTakenBack →
        (Kind.scalar .uint8).Produced k.block k.address ∧
          (Kind.scalar .uint8).Produced v.block v.address := by
      intro k v h
      simp only [votesTakenBack, List.mem_cons, MapValue.Change.add.injEq, reduceCtorEq,
        List.not_mem_nil, or_false] at h
      rcases h with ⟨rfl, rfl⟩ | ⟨rfl, rfl⟩ | ⟨rfl, rfl⟩ | ⟨rfl, rfl⟩ | ⟨rfl, rfl⟩
      all_goals exact ⟨produced_ofBytes _, produced_ofBytes _⟩
    obtain ⟨votes, hvotes, rfl⟩ := produced_noVotes.run operands ran
    obtain ⟨-, -, m', hok, -, hstorage⟩ := produced_noVotes.copy_completes hvotes
    obtain ⟨target, htarget, hcopied, hroom⟩ := hstorage _ rfl
    obtain rfl : m'.slots 0 = target := congrArg Storage.slots (Option.some.inj htarget)
    refine ⟨votes, m', hpairs, hcapacity, hok, hcopied.trans hpairs, hroom.trans ?_⟩
    change Slots.capacityFor (votes.slots 0).count = 4
    rw [hpairs]
    rfl

end PropertyReflection
