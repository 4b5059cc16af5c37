import Mathlib
import PropertyReflection.Proofs.IdentityLaws
import PropertyReflection.Value.Located

/-!
# The laws of identity in memory

Values in memory lie at places, and a value is identical to itself even if it contains a NaN.  Apart
from that, what holds of values as data holds of values in memory: identity does not depend on the
order of the two places, it is transitive, and what is identical has one hash.  This is so for the
first element of a property as well as for all of them.

The places may be anywhere, in one instance or in several, inside containers or outside.
-/

namespace PropertyReflection

/-- The block a place is in, in a memory with a block for every instance. -/
def Place.block (memory : String → Block) (place : Place) : Block :=
  (memory place.owner).descend place.hops

namespace Property

variable {property : Property} {memory : String → Block} {p q r : Place}

/-- The first element at a place has no map with repeated keys. -/
def KeyedFirstAt (property : Property) (memory : String → Block) (p : Place) : Prop :=
  (property.readFirst (p.block memory) p.address).Keyed

/-- No element at a place has a map with repeated keys. -/
def KeyedAllAt (property : Property) (memory : String → Block) (p : Place) : Prop :=
  (property.readAll (p.block memory) p.address).Keyed

theorem identicalFirstAt_iff :
    property.identicalFirstAt (p.block memory) p (q.block memory) q = true ↔
      p = q ∨ (property.readFirst (p.block memory) p.address).identical
        (property.readFirst (q.block memory) q.address) = true := by
  rw [identicalFirstAt, identicalFirst_eq, Bool.or_eq_true, decide_eq_true_eq]

theorem identicalAllAt_iff :
    property.identicalAllAt (p.block memory) p (q.block memory) q = true ↔
      p = q ∨ (property.readAll (p.block memory) p.address).identical
        (property.readAll (q.block memory) q.address) = true := by
  rw [identicalAllAt, identicalAll_eq, Bool.or_eq_true, decide_eq_true_eq]

end Property

/-- A relation that is identity of the values at places, or equality of the places, obeys the laws
where the values do. -/
theorem comm_and_trans_of_identical (related : Place → Place → Bool) (valueAt : Place → Value)
    (iff : ∀ p q, related p q = true ↔ p = q ∨ (valueAt p).identical (valueAt q) = true)
    {p q r : Place} (hp : (valueAt p).Keyed) (hq : (valueAt q).Keyed) (hr : (valueAt r).Keyed) :
    related p q = related q p ∧
      (related p q = true → related q r = true → related p r = true) := by
  constructor
  · rw [Bool.eq_iff_iff, iff, iff, Value.identical_comm hp hq, eq_comm]
  · intro hpq hqr
    rw [iff] at hpq hqr ⊢
    rcases hpq with rfl | hpq
    · exact hqr
    rcases hqr with rfl | hqr
    · exact Or.inr hpq
    · exact Or.inr (Value.identical_trans hp hq hr hpq hqr)

/-- Identical values hash alike, wherever they lie: the first elements of a property, and all of
them together. -/
theorem hash_eq_of_identicalAt (property : Property) (memory : String → Block) (p q : Place) :
    (property.KeyedFirstAt memory p → property.KeyedFirstAt memory q →
      property.identicalFirstAt (p.block memory) p (q.block memory) q = true →
      property.hashFirst (p.block memory) p.address =
        property.hashFirst (q.block memory) q.address) ∧
    (property.KeyedAllAt memory p → property.KeyedAllAt memory q →
      property.identicalAllAt (p.block memory) p (q.block memory) q = true →
      property.hashAll (p.block memory) p.address =
        property.hashAll (q.block memory) q.address) := by
  constructor
  · intro hp hq h
    rw [Property.hashFirst_eq, Property.hashFirst_eq]
    rcases Property.identicalFirstAt_iff.mp h with rfl | h
    · rfl
    · exact Value.hash_eq_of_identical hp hq h
  · intro hp hq h
    rw [Property.hashAll_eq, Property.hashAll_eq]
    rcases Property.identicalAllAt_iff.mp h with rfl | h
    · rfl
    · exact Value.hash_eq_of_identical hp hq h

/-- A struct with a number, a boolean of two bits and a map. -/
def ballot : Property :=
  .ofKind "Ballot" (.struct {
    serial := 0
    name := "Ballot"
    size := 32
    align := 8
    superType := none
    properties :=
      [.ofKind "Weight" (.scalar .float32) 0 1 .none, .ofKind "bCounted" (.bool 6) 4 1 .none,
        .ofKind "Votes" (.map (.scalar .uint8) (.scalar .uint8)) 8 1 .none] }) 0 1 .none

/-- A ballot in memory: zero with a sign, true with some bits, and pairs in some order. -/
def ballotBlock (sign bits : UInt8) (pairs : List UInt8) : Block :=
  (#[.byte 0, .byte 0, .byte 0, .byte sign, .byte bits, .byte 0, .byte 0, .byte 0,
    .slots ⟨pairs.length / 2, 4, (pairs.map .byte).toArray⟩] : Block) ++
      Array.replicate 23 .sealed

/-- Ballots that mean the same and are stored differently. -/
def ballots (owner : String) : Block :=
  if owner = "first" then ballotBlock 0 2 [1, 10, 2, 20]
  else if owner = "second" then ballotBlock 0x80 4 [2, 20, 1, 10]
  else ballotBlock 0 6 [2, 20, 1, 10]

/-- What a ballot reads as. -/
def ballotReading (weight : UInt64) (bits : UInt8) (k v k' v' : UInt64) : Value :=
  .struct [("Weight", .scalar .float32 weight), ("bCounted", .bool bits),
    ("Votes", .map [(.scalar .uint8 k, .scalar .uint8 v), (.scalar .uint8 k', .scalar .uint8 v')])]

/-- A ballot with votes under different keys holds no key twice. -/
theorem keyed_ballotReading (weight : UInt64) (bits : UInt8) {k v k' v' : UInt64} (h : k ≠ k') :
    (ballotReading weight bits k v k' v').Keyed := by
  refine .struct ?_
  simp only [List.mem_cons, List.not_mem_nil, or_false, forall_eq_or_imp, forall_eq]
  refine ⟨.scalar _ _, .bool _, .map ?_ ?_ ?_⟩
  · simp [Value.Keyed.scalar]
  · simp [Value.Keyed.scalar]
  · simp [KeysDiffer, Value.identical, Scalar.same, Scalar.isFloat, h]

theorem readFirst_ballots :
    ballot.readFirst (ballots "first") 0 = ballotReading 0 2 1 10 2 20 ∧
      ballot.readFirst (ballots "second") 0 = ballotReading 0x80000000 4 2 20 1 10 ∧
      ballot.readFirst (ballots "third") 0 = ballotReading 0 6 2 20 1 10 :=
  ⟨rfl, rfl, rfl⟩

/-- The three ballots hold no key twice. -/
theorem keyedFirstAt_ballots :
    ballot.KeyedFirstAt ballots ⟨"first", [], 0⟩ ∧ ballot.KeyedFirstAt ballots ⟨"second", [], 0⟩ ∧
      ballot.KeyedFirstAt ballots ⟨"third", [], 0⟩ := by
  obtain ⟨hfirst, hsecond, hthird⟩ := readFirst_ballots
  refine ⟨?_, ?_, ?_⟩
  · change (ballot.readFirst (ballots "first") 0).Keyed
    rw [hfirst]
    exact keyed_ballotReading 0 2 (by decide)
  · change (ballot.readFirst (ballots "second") 0).Keyed
    rw [hsecond]
    exact keyed_ballotReading 0x80000000 4 (by decide)
  · change (ballot.readFirst (ballots "third") 0).Keyed
    rw [hthird]
    exact keyed_ballotReading 0 6 (by decide)

/-- Zeros of both signs, different bits and pairs in different orders make no difference. -/
theorem hash_eq_of_identicalAt_ballots :
    ballot.hashFirst (ballots "first") 0 = ballot.hashFirst (ballots "second") 0 ∧
      ballot.hashAll (ballots "first") 0 = ballot.hashAll (ballots "second") 0 := by
  have hlaw := hash_eq_of_identicalAt ballot ballots ⟨"first", [], 0⟩ ⟨"second", [], 0⟩
  obtain ⟨hfirst, hsecond, _⟩ := keyedFirstAt_ballots
  exact ⟨hlaw.1 hfirst hsecond (by decide +kernel), hlaw.2 hfirst hsecond (by decide +kernel)⟩

/-- Identity of values in memory is symmetric and transitive, for the first elements of a property
and for all of them. -/
theorem identicalAt_comm_and_trans (property : Property) (memory : String → Block)
    (p q r : Place) :
    (property.KeyedFirstAt memory p → property.KeyedFirstAt memory q →
      property.KeyedFirstAt memory r →
      property.identicalFirstAt (p.block memory) p (q.block memory) q =
          property.identicalFirstAt (q.block memory) q (p.block memory) p ∧
        (property.identicalFirstAt (p.block memory) p (q.block memory) q = true →
          property.identicalFirstAt (q.block memory) q (r.block memory) r = true →
          property.identicalFirstAt (p.block memory) p (r.block memory) r = true)) ∧
    (property.KeyedAllAt memory p → property.KeyedAllAt memory q →
      property.KeyedAllAt memory r →
      property.identicalAllAt (p.block memory) p (q.block memory) q =
          property.identicalAllAt (q.block memory) q (p.block memory) p ∧
        (property.identicalAllAt (p.block memory) p (q.block memory) q = true →
          property.identicalAllAt (q.block memory) q (r.block memory) r = true →
          property.identicalAllAt (p.block memory) p (r.block memory) r = true)) := by
  constructor
  · intro hp hq hr
    exact comm_and_trans_of_identical
      (fun p q => property.identicalFirstAt (p.block memory) p (q.block memory) q)
      (fun p => property.readFirst (p.block memory) p.address)
      (fun _ _ => Property.identicalFirstAt_iff) hp hq hr
  · intro hp hq hr
    exact comm_and_trans_of_identical
      (fun p q => property.identicalAllAt (p.block memory) p (q.block memory) q)
      (fun p => property.readAll (p.block memory) p.address)
      (fun _ _ => Property.identicalAllAt_iff) hp hq hr

/-- What holds between the first two ballots and the last two holds between the first and the last,
in both directions. -/
theorem identicalAt_comm_and_trans_ballots :
    ballot.identicalFirstAt (ballots "first") ⟨"first", [], 0⟩ (ballots "third")
        ⟨"third", [], 0⟩ = true ∧
      ballot.identicalAllAt (ballots "third") ⟨"third", [], 0⟩ (ballots "first")
        ⟨"first", [], 0⟩ = true := by
  obtain ⟨hfirst, hsecond, hthird⟩ := keyedFirstAt_ballots
  have hlaw := identicalAt_comm_and_trans ballot ballots ⟨"first", [], 0⟩ ⟨"second", [], 0⟩
    ⟨"third", [], 0⟩
  have hback := identicalAt_comm_and_trans ballot ballots ⟨"third", [], 0⟩ ⟨"first", [], 0⟩
    ⟨"second", [], 0⟩
  have hall := (hlaw.2 hfirst hsecond hthird).2 (by decide +kernel) (by decide +kernel)
  exact ⟨(hlaw.1 hfirst hsecond hthird).2 (by decide +kernel) (by decide +kernel),
    (hback.2 hthird hfirst hsecond).1.trans hall⟩

end PropertyReflection
