import Mathlib
import PropertyReflection.Proofs.DeepCopy
import PropertyReflection.Proofs.LayoutSoundness
import PropertyReflection.Proofs.OwnedBits
import PropertyReflection.Proofs.Scopes
import PropertyReflection.Proofs.SeparatePlaces

/-!
# Copies in memory

A value is copied from one place to another place apart, within one instance or between two.  The
copy succeeds whatever the destination held before, and `FaithfulCopy` collects what is true
afterwards: the destination means what the source meant, the source and everything in the
destination that belongs to no property are as they were, and the two values share nothing, so that
neither writing nor destroying the source changes the copy.

A copy hashes like its source.  It is identical to the source exactly if there is no NaN in it.
-/

namespace PropertyReflection

namespace Property

variable {property : Property} {m m' n source : Block} {a b : Nat}

/-- Elements in equal ranges read the same. -/
theorem readAll_congr_cells (sound : property.kind.Sound)
    (h : m.SameCells a n b property.totalSize) : property.readAll m a = property.readAll n b :=
  readAll_congr sound fun _ hi => .of_sameCells (h.element hi)

/-- A property means the same as another one if its elements do. -/
theorem meaning_readAll_eq (copied : ∀ i < property.dim,
    property.kind.IsCopy m (Elements.address a property.size i) source
      (Elements.address b property.size i)) :
    (property.readAll m a).meaning = (property.readAll source b).meaning := by
  rw [readAll, readAll, Value.meaning_ofElements, Value.meaning_ofElements]
  exact Value.ofElements_congr fun i hi => (copied i hi).meaning_eq

/-- The cells behind the elements of a property stay when the elements are changed. -/
theorem read_behind (sound : property.kind.Sound) (h : m.ChangedOnly m' a property.totalSize)
    {i : Nat} (hi : property.dim ≤ i) :
    property.kind.read m' (Elements.address a property.size i) =
      property.kind.read m (Elements.address a property.size i) := by
  refine sound.read_congr_cells (h.sameCells (Or.inr ?_))
  have hbehind : property.dim * property.size ≤ i * property.size := Nat.mul_le_mul_right _ hi
  rw [totalSize, Elements.address, Nat.mul_comm]
  omega

end Property

namespace Scope

/-- All elements that an operation is about are live. -/
def Live (scope : Scope) (property : Property) (m : Block) (a : Nat) : Prop :=
  ∀ i < (scope.view property).dim, property.kind.Live m (Elements.address a property.size i)

/-- What is true after a value was copied from `q` to `p`. -/
structure FaithfulCopy (scope : Scope) (property : Property) (memory after : String → Block)
    (p q : Place) : Prop where
  /-- The destination reads as the source: the same bits of numbers, the same texts, the same truth
  of booleans, and the same elements and pairs in the same order. -/
  meaning_eq : (scope.read property (p.block after) p.address).meaning =
    (scope.read property (q.block memory) q.address).meaning
  live : scope.Live property (p.block after) p.address
  source_same : (q.block after).SameCells q.address (q.block memory) q.address
    (scope.view property).totalSize
  /-- No bit of the block has changed but those that belong to the destination. -/
  kept : (p.block memory).KeptOutside (p.block after) ((scope.view property).OwnsAt p.address)
  /-- The elements behind those that were copied stay. -/
  others : ∀ i, (scope.view property).dim ≤ i →
    property.kind.read (p.block after) (Elements.address p.address property.size i) =
      property.kind.read (p.block memory) (Elements.address p.address property.size i)
  hash_eq : scope.hash property (p.block after) p.address =
    scope.hash property (q.block after) q.address
  identical_iff : scope.identicalAt property (p.block after) p (q.block after) q = true ↔
    ¬ (scope.read property (q.block memory) q.address).HasNaN
  /-- Whatever is written to the source later, the destination reads the same. -/
  independent : ∀ m' : Block,
    (q.block after).ChangedOnly m' q.address (scope.view property).totalSize →
    scope.read property (p.block (q.setBlock after m')) p.address =
      scope.read property (p.block after) p.address
  survives_destroy : scope.read property
      (p.block (q.setBlock after ((scope.view property).destroy (q.block after) q.address)))
      p.address =
    scope.read property (p.block after) p.address

end Scope

/-- Values are copied faithfully between places apart, the first element of a property as well as
all of them. -/
theorem copyAt_faithful {property : Property} (described : property.Described) (scope : Scope)
    {memory : String → Block} {p q : Place}
    (apart : p.Apart q (scope.view property).totalSize)
    (fits : p.address + (scope.view property).totalSize ≤ (p.block memory).size)
    (live : scope.Live property (q.block memory) q.address)
    (keyed : (scope.read property (q.block memory) q.address).Keyed) :
    ∃ m' : Block, scope.copyAt property (p.block memory) p (q.block memory) q = .ok m' ∧
      scope.FaithfulCopy property memory (p.setBlock memory m') p q := by
  have hsound : property.kind.Sound := described.sound
  have hview : (scope.view property).kind.Sound := by rwa [scope.kind_view]
  have hlive : ∀ i < (scope.view property).dim, (scope.view property).kind.Live (q.block memory)
      (Elements.address q.address (scope.view property).size i) := by
    rw [scope.kind_view, scope.size_view]
    exact live
  obtain ⟨m', hok, hconfined, hcopied⟩ :=
    Property.copyAll_ok hview hview.copiesFaithfully fits hlive
  refine ⟨m', (scope.copyAt_eq property apart.1 _ _).trans hok, ?_⟩
  have hblock : p.block (p.setBlock memory m') = m' :=
    Place.block_setBlock hconfined.changedOnly.size_eq
  have hsource := apart.sameCells hconfined.changedOnly
  have hsourceRead : scope.read property (q.block (p.setBlock memory m')) q.address =
      scope.read property (q.block memory) q.address := by
    rw [scope.read_eq, scope.read_eq]
    exact Property.readAll_congr_cells hview hsource
  have hmeaning : (scope.read property m' p.address).meaning =
      (scope.read property (q.block memory) q.address).meaning := by
    rw [scope.read_eq, scope.read_eq]
    exact Property.meaning_readAll_eq hcopied
  -- the source is as far from the destination as the destination from the source
  have hindependent : ∀ n : Block, (q.block (p.setBlock memory m')).ChangedOnly n q.address
      (scope.view property).totalSize →
      scope.read property (p.block (q.setBlock (p.setBlock memory m') n)) p.address =
        scope.read property (p.block (p.setBlock memory m')) p.address := by
    intro n hchanged
    rw [scope.read_eq, scope.read_eq]
    exact Property.readAll_congr_cells hview (apart.symm.sameCells hchanged)
  constructor
  case meaning_eq => rw [hblock, hmeaning]
  case live =>
    rw [hblock]
    intro i hi
    have hcopy := hcopied i hi
    rw [scope.kind_view, scope.size_view] at hcopy
    exact hcopy.live
  case source_same => exact hsource
  case kept =>
    rw [hblock]
    exact Property.keptOutside_copyAll hview hok
  case others =>
    intro i hi
    have hbehind := Property.read_behind hview hconfined.changedOnly hi
    rw [scope.kind_view, scope.size_view] at hbehind
    rw [hblock, hbehind]
  case hash_eq =>
    rw [hblock, scope.hash_eq, scope.hash_eq, hsourceRead]
    exact Value.hash_eq_of_meaning_eq hmeaning
  case identical_iff =>
    rw [scope.identicalAt_eq property apart.1, hblock, hsourceRead,
      Value.identical_eq_of_meaning_eq hmeaning, Value.identical_self_iff keyed]
  case independent => exact hindependent
  case survives_destroy =>
    exact hindependent _ (Property.confined_destroy hview _ q.address).changedOnly

/-- The votes of a ballot. -/
def ballotVotes : Property :=
  .ofKind "Votes" (.map (.scalar .uint8) (.scalar .uint8)) 8 1 .none

/-- The type of ballots. -/
def ballotType : TypeDescriptor where
  serial := 0
  name := "Ballot"
  size := 32
  align := 8
  superType := none
  properties :=
    [.ofKind "Weight" (.scalar .float32) 0 1 .none, .ofKind "bCounted" (.bool 6) 4 1 .none,
      .ofKind "Votes" (.map (.scalar .uint8) (.scalar .uint8)) 8 1 .none]

/-- A type that has a ballot and nothing else. -/
def envelope : TypeDescriptor where
  serial := 1
  name := "Envelope"
  size := 32
  align := 8
  superType := none
  properties := [ballot]

theorem built_envelope : envelope.Built := by
  have hballot : TypeDescriptor.build 0 "Ballot" none
      [{ name := "Weight", body := .field (.scalar .float32) },
        { name := "bCounted", body := .field (.bool 6) },
        { name := "Votes", body := .field (.mapOf (.scalar .uint8) (.scalar .uint8)) }] =
        .ok ballotType := by
    rfl
  have henvelope : TypeDescriptor.build 1 "Envelope" none
      [{ name := "Ballot", body := .field (.struct ballotType) }] = .ok envelope := by
    rfl
  have hballotBuilt : ballotType.Built := by
    refine .build (by simp) ?_ hballot
    simp only [List.forall_mem_cons, SpecBody.field.injEq, forall_eq', List.not_mem_nil]
    exact ⟨.scalar _, .bool _, .map (.scalar _) (.scalar _), fun _ h => h.elim⟩
  refine .build (by simp) ?_ henvelope
  simp only [List.mem_singleton, forall_eq, SpecBody.field.injEq]
  exact fun _ h => h ▸ .struct hballotBuilt

theorem described_ballot : ballot.Described :=
  .declared built_envelope (List.mem_singleton.mpr rfl)

theorem described_ballotVotes : ballotVotes.Described :=
  .nested described_ballot (List.mem_cons_of_mem _ (List.mem_cons_of_mem _ List.mem_cons_self))

/-- The votes of the first ballot are live. -/
theorem live_firstVotes : ballotVotes.kind.Live (ballots "first") 8 :=
  .map ⟨by decide, Or.inr ⟨by decide, by decide⟩, by decide⟩ (fun _ _ => .scalar _ _ _)
    fun _ _ => .scalar _ _ _

/-- The first ballot is live. -/
theorem live_firstBallot : Scope.all.Live ballot (ballots "first") 0 := by
  intro i hi
  obtain rfl : i = 0 := Nat.lt_one_iff.mp hi
  refine .struct ?_
  simp only [TypeDescriptor.allProperties, List.forall_mem_cons, List.not_mem_nil]
  refine ⟨fun _ _ => .scalar _ _ _, fun _ _ => .bool _ _ _, fun j hj => ?_, fun _ h => h.elim⟩
  obtain rfl : j = 0 := Nat.lt_one_iff.mp hj
  exact live_firstVotes

/-- One ballot is copied over another one. -/
theorem copyAt_faithful_ballots :
    ∃ m' : Block, Scope.all.copyAt ballot (ballots "second") ⟨"second", [], 0⟩ (ballots "first")
        ⟨"first", [], 0⟩ = .ok m' ∧
      Scope.all.FaithfulCopy ballot ballots (Place.setBlock ballots ⟨"second", [], 0⟩ m')
        ⟨"second", [], 0⟩ ⟨"first", [], 0⟩ := by
  have apart : Place.Apart ⟨"second", [], 0⟩ ⟨"first", [], 0⟩
      (Scope.all.view ballot).totalSize := ⟨by decide, Or.inl (by decide)⟩
  have fits : 0 + (Scope.all.view ballot).totalSize ≤ (ballots "second").size := by decide
  have keyed : (Scope.all.read ballot (ballots "first") 0).Keyed := keyedFirstAt_ballots.1
  exact copyAt_faithful described_ballot .all apart fits live_firstBallot keyed

end PropertyReflection
