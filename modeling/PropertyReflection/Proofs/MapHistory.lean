import Mathlib
import PropertyReflection.Proofs.FaithfulCopy
import PropertyReflection.Proofs.MapDictionary
import PropertyReflection.Proofs.PairOrder
import PropertyReflection.Proofs.Scopes

/-!
# Histories of maps

What a map holds after a history of changes is known from the history alone: `MapValue.associations`
keeps a list of entries as a user would who has never seen the storage.  `MapValue.Recorded` says
that the entries of the map are these, and like `MapValue.Reached` it is kept by every change.

So two histories that end with the same associations, in whatever order, give maps that are alike.
Together with what is known about values that are alike, `pairOrder_irrelevant` says that the order of
pairs does not count: not when two maps are compared, not inside of other values, and not when it
comes from the order of the changes.
-/

namespace PropertyReflection

/-! ### Entries by key -/

/-- The entries after a value was put under a key.  The first identical key keeps its place, and a new
key comes last. -/
def putEntry : List (Value × Value) → Value → Value → List (Value × Value)
  | [], k, v => [(k, v)]
  | e :: rest, k, v => if e.1.identical k then (e.1, v) :: rest else e :: putEntry rest k v

/-- The entries without the first one whose key is identical to a given one. -/
def dropEntry (entries : List (Value × Value)) (k : Value) : List (Value × Value) :=
  entries.eraseP fun e => e.1.identical k

/-- Two pairs mean the same. -/
def PairMeans (e f : Value × Value) : Prop :=
  e.1.meaning = f.1.meaning ∧ e.2.meaning = f.2.meaning

section Entries

variable {entries others : List (Value × Value)} {k k' v v' : Value} {i : Nat}

/-- Under a key that is there, the value is replaced. -/
theorem putEntry_eq_set (hi : i < entries.length) (same : entries[i].1.identical k = true)
    (first : ∀ j, (hj : j < i) → entries[j].1.identical k = false) :
    putEntry entries k v = entries.set i (entries[i].1, v) := by
  induction entries generalizing i with
  | nil => exact absurd hi (Nat.not_lt_zero i)
  | cons e rest ih =>
    cases i with
    | zero =>
      have same : e.1.identical k = true := same
      rw [putEntry, if_pos same]
      rfl
    | succ i =>
      have hhead : e.1.identical k = false := first 0 (Nat.succ_pos i)
      rw [putEntry, hhead, if_neg Bool.false_ne_true, List.set_cons_succ,
        ih (Nat.lt_of_succ_lt_succ hi) same fun j hj => first (j + 1) (Nat.succ_lt_succ hj)]
      rfl

/-- A pair under a new key is appended. -/
theorem putEntry_eq_append (new : ∀ e ∈ entries, e.1.identical k = false) :
    putEntry entries k v = entries ++ [(k, v)] := by
  induction entries with
  | nil => rfl
  | cons e rest ih =>
    rw [putEntry, new e List.mem_cons_self, if_neg Bool.false_ne_true,
      ih fun f hf => new f (List.mem_cons_of_mem _ hf)]
    rfl

/-- An entry is taken out at the index of its key. -/
theorem dropEntry_eq_eraseIdx (hi : i < entries.length) (same : entries[i].1.identical k = true)
    (first : ∀ j, (hj : j < i) → entries[j].1.identical k = false) :
    dropEntry entries k = entries.eraseIdx i := by
  have hfind : entries.findIdx? (fun e => e.1.identical k) = some i := by
    refine List.findIdx?_eq_some_iff_getElem.mpr ⟨hi, same, fun j hj => ?_⟩
    rw [first j hj]
    exact Bool.false_ne_true
  rw [dropEntry, List.eraseP_eq_eraseIdx, hfind]

/-- Under a key that is not there, nothing is taken out. -/
theorem dropEntry_eq_self (new : ∀ e ∈ entries, e.1.identical k = false) :
    dropEntry entries k = entries :=
  List.eraseP_of_forall_not fun e he => by
    rw [new e he]
    exact Bool.false_ne_true

/-- What is put among entries depends on meanings only. -/
theorem forall₂_putEntry (h : List.Forall₂ PairMeans entries others) (hk : k.meaning = k'.meaning)
    (hv : v.meaning = v'.meaning) :
    List.Forall₂ PairMeans (putEntry entries k v) (putEntry others k' v') := by
  induction h with
  | nil => exact .cons ⟨hk, hv⟩ .nil
  | @cons e f rest rest' hef hrest ih =>
    have hsame : e.1.identical k = f.1.identical k' := by
      rw [Value.identical_eq_of_meaning_eq hef.1, Value.identical_eq_of_meaning_eq_right hk]
    rw [putEntry, putEntry, hsame]
    split
    · exact .cons ⟨hef.1, hv⟩ hrest
    · exact .cons hef ih

/-- What is taken out depends on meanings only. -/
theorem forall₂_dropEntry (h : List.Forall₂ PairMeans entries others)
    (hk : k.meaning = k'.meaning) :
    List.Forall₂ PairMeans (dropEntry entries k) (dropEntry others k') := by
  induction h with
  | nil => exact .nil
  | @cons e f rest rest' hef hrest ih =>
    have hsame : e.1.identical k = f.1.identical k' := by
      rw [Value.identical_eq_of_meaning_eq hef.1, Value.identical_eq_of_meaning_eq_right hk]
    rw [dropEntry, dropEntry, List.eraseP_cons, List.eraseP_cons, hsame]
    cases f.1.identical k' with
    | true => exact hrest
    | false => exact .cons hef ih

/-- Values among entries were there before or have just been put. -/
theorem value_of_mem_putEntry {e : Value × Value} (h : e ∈ putEntry entries k v) :
    e.2 = v ∨ ∃ f ∈ entries, f.2 = e.2 := by
  induction entries with
  | nil =>
    rw [putEntry, List.mem_singleton] at h
    exact Or.inl (congrArg Prod.snd h)
  | cons f rest ih =>
    rw [putEntry] at h
    split at h
    · rcases List.mem_cons.mp h with rfl | h
      · exact Or.inl rfl
      · exact Or.inr ⟨e, List.mem_cons_of_mem _ h, rfl⟩
    · rcases List.mem_cons.mp h with rfl | h
      · exact Or.inr ⟨e, List.mem_cons_self, rfl⟩
      · rcases ih h with hnew | ⟨g, hg, hge⟩
        · exact Or.inl hnew
        · exact Or.inr ⟨g, List.mem_cons_of_mem _ hg, hge⟩

end Entries

namespace MapValue

variable {key value : Kind} {pairs after : Slots Cell} {changes : List Change}

/-! ### The associations of a history -/

/-- The entries after a change. -/
def Change.record (key value : Kind) (entries : List (Value × Value)) :
    Change → List (Value × Value)
  | .add k v => putEntry entries (k.read key) (v.read value)
  | .remove k => dropEntry entries (k.read key)
  | .clear => []

/-- What a map is known to hold after a history of changes. -/
def associations (key value : Kind) (changes : List Change) : List (Value × Value) :=
  changes.foldl (Change.record key value) []

theorem associations_concat (changes : List Change) (change : Change) :
    associations key value (changes ++ [change]) =
      change.record key value (associations key value changes) := by
  rw [associations, associations, List.foldl_append]
  rfl

/-- What is asked of a caller besides: values hold no key twice. -/
def Change.ValueKeyed (value : Kind) : Change → Prop
  | .add _ v => (v.read value).Keyed
  | .remove _ | .clear => True

/-- The values in a history hold no key twice, if those that were added do not. -/
theorem keyed_of_mem_associations (keyed : ∀ change ∈ changes, change.ValueKeyed value) :
    ∀ e ∈ associations key value changes, e.2.Keyed := by
  induction changes using List.reverseRecOn with
  | nil => exact fun e he => absurd he List.not_mem_nil
  | append_singleton changes change ih =>
    have hbefore := ih fun c hc => keyed c (List.mem_append_left _ hc)
    have hchange := keyed change (by simp)
    rw [associations_concat]
    intro e he
    cases change with
    | add k v =>
      rcases value_of_mem_putEntry he with hnew | ⟨f, hf, hfe⟩
      · rw [hnew]
        exact hchange
      · rw [← hfe]
        exact hbefore f hf
    | remove k => exact hbefore e (List.mem_of_mem_eraseP he)
    | clear => exact absurd he List.not_mem_nil

/-! ### Maps hold the associations of their histories -/

/-- The entries of a map mean what its history says. -/
def Recorded (key value : Kind) (changes : List Change) (pairs : Slots Cell) : Prop :=
  List.Forall₂ PairMeans (entries key value pairs) (associations key value changes)

/-- The pair that a search finds is the first one with an identical key. -/
theorem Reached.first_of_found (h : Reached key value changes pairs) {k : Operand} {i : Nat}
    (hk : (k.read key).Keyed) (found : findPair? key value pairs k.block k.address = some i) :
    ∃ hi : i < (entries key value pairs).length,
      (entries key value pairs)[i].1.identical (k.read key) = true ∧
      ∀ j, (hj : j < i) → (entries key value pairs)[j].1.identical (k.read key) = false := by
  obtain ⟨hi, hsame⟩ := of_findPair?_eq_some found
  have hlength : i < (entries key value pairs).length := by rwa [length_entries]
  have hsame : (entries key value pairs)[i].1.identical (k.read key) = true := by
    rw [getElem_entries]
    exact hsame
  refine ⟨hlength, hsame, fun j hj => ?_⟩
  by_contra hother
  rw [Bool.not_eq_false] at hother
  have hij := h.unique.eq_of_identical hk hlength (hj.trans hlength) hsame hother
  omega

/-- Every change is recorded. -/
theorem Recorded.apply (keySound : key.Sound) (valueSound : value.Sound)
    (reached : Reached key value changes pairs) (h : Recorded key value changes pairs)
    {change : Change} (valid : change.Valid key value)
    (ok : change.apply key value pairs = .ok after) :
    Recorded key value (changes ++ [change]) after := by
  rw [Recorded, associations_concat]
  cases change with
  | add k v =>
    obtain ⟨keyLive, hk, valueLive⟩ := valid
    have ok : MapValue.add key value pairs k.block k.address v.block v.address = .ok after := ok
    cases hfind : findPair? key value pairs k.block k.address with
    | some i =>
      obtain ⟨hlength, hsame, hfirst⟩ := reached.first_of_found hk hfind
      obtain ⟨stored, w, hadd, -, hentries, hw⟩ :=
        add_of_found keySound valueSound reached.live hfind valueLive
      obtain rfl : stored = after := Except.ok.inj (hadd.symm.trans ok)
      rw [← getElem_entries pairs hlength, ← putEntry_eq_set hlength hsame hfirst] at hentries
      rw [hentries]
      exact forall₂_putEntry h rfl hw
    | none =>
      cases hreserve : pairs.reserve 1 (key.pairSize value) (key.pairAlign value) with
      | error fault =>
        rw [add_of_no_room hfind hreserve] at ok
        exact absurd ok (by simp)
      | ok room =>
        obtain ⟨stored, x, w, hadd, -, hentries, hx, hw⟩ :=
          add_of_not_found keySound valueSound reached.live hfind hreserve keyLive valueLive
        obtain rfl : stored = after := Except.ok.inj (hadd.symm.trans ok)
        have hx : x.meaning = (k.read key).meaning := hx
        have hnew : ∀ e ∈ entries key value pairs, e.1.identical x = false := by
          intro e he
          rw [Value.identical_eq_of_meaning_eq_right hx]
          exact findPair?_eq_none_iff.mp hfind e he
        rw [hentries, ← putEntry_eq_append hnew]
        exact forall₂_putEntry h hx hw
  | remove k =>
    obtain rfl := Except.ok.inj ok
    cases hfind : findPair? key value pairs k.block k.address with
    | some i =>
      obtain ⟨hlength, hsame, hfirst⟩ := reached.first_of_found valid hfind
      obtain ⟨left, hremove, -, hentries⟩ :=
        remove?_of_found keySound valueSound reached.live hfind
      rw [hremove, Option.getD_some, hentries, ← dropEntry_eq_eraseIdx hlength hsame hfirst]
      exact forall₂_dropEntry h rfl
    | none =>
      have hnew : ∀ e ∈ entries key value pairs, e.1.identical (k.read key) = false :=
        findPair?_eq_none_iff.mp hfind
      have hdropped := forall₂_dropEntry h (rfl : (k.read key).meaning = (k.read key).meaning)
      rw [dropEntry_eq_self hnew] at hdropped
      rw [remove?_of_not_found hfind, Option.getD_none]
      exact hdropped
  | clear =>
    obtain rfl := Except.ok.inj ok
    exact .nil

/-- Every run is recorded. -/
theorem Recorded.run (keySound : key.Sound) (valueSound : value.Sound) {more : List Change}
    (reached : Reached key value changes pairs) (h : Recorded key value changes pairs)
    (valid : ∀ change ∈ more, change.Valid key value)
    (ran : MapValue.run key value pairs more = .ok after) :
    Reached key value (changes ++ more) after ∧ Recorded key value (changes ++ more) after := by
  induction more generalizing changes pairs with
  | nil =>
    obtain rfl := Except.ok.inj ran
    rw [List.append_nil]
    exact ⟨reached, h⟩
  | cons change rest ih =>
    rw [MapValue.run, List.foldlM_cons] at ran
    obtain ⟨next, hnext, ran⟩ := exists_of_bind_eq_ok ran
    have hvalid := valid change List.mem_cons_self
    have hrest := ih (reached.apply keySound valueSound hvalid hnext)
      (h.apply keySound valueSound reached hvalid hnext)
      (fun c hc => valid c (List.mem_cons_of_mem _ hc)) ran
    rwa [List.append_assoc] at hrest

/-- Pairs that mean the same are maps that mean the same. -/
theorem meaning_map_eq {ps qs : List (Value × Value)} (h : List.Forall₂ PairMeans ps qs) :
    (Value.map ps).meaning = (Value.map qs).meaning := by
  rw [Value.meaning, Value.meaning, meaningOfPairs_eq_map, meaningOfPairs_eq_map]
  congr 1
  induction h with
  | nil => rfl
  | cons hef _ ih => rw [List.map_cons, List.map_cons, hef.1, hef.2, ih]

/-- A map that was initialized and changed holds no key twice at any depth, and means what its history
says. -/
theorem run_recorded (made : (Kind.map key value).Made) {m : Block} {a : Nat}
    (fits : a + handleSize ≤ m.size)
    (valid : ∀ change ∈ changes, change.Valid key value ∧ change.ValueKeyed value)
    (ran : run key value (((Kind.map key value).construct m a).slots a) changes = .ok pairs) :
    (Value.map (entries key value pairs)).Keyed ∧
      (Value.map (entries key value pairs)).meaning =
        (Value.map (associations key value changes)).meaning := by
  have hsound : (Kind.map key value).Sound := made.sound
  cases hsound with
  | map keySound valueSound =>
    rw [Kind.slots_construct_map key value fits] at ran
    have hempty : Recorded key value [] .empty := .nil
    obtain ⟨hreached, hrecorded⟩ := hempty.run keySound valueSound (reached_empty key value)
      (fun change hchange => (valid change hchange).1) ran
    refine ⟨.map hreached.unique.keyed (fun e he => ?_) hreached.unique.differ,
      meaning_map_eq hrecorded⟩
    obtain ⟨f, hf, hef⟩ := exists_related_of_mem hrecorded he
    have hkeyed := keyed_of_mem_associations (fun change hchange => (valid change hchange).2) f hf
    exact hkeyed.of_meaning_eq hef.2

/-- The pairs of two maps can be matched one to one, with identical keys and identical values. -/
def Matched (key value : Kind) (pairs others : Slots Cell) : Prop :=
  ∃ matched : List (Value × Value), List.Forall₂ PairIdentical (entries key value pairs) matched ∧
    matched.Perm (entries key value others)

/-- What is read where the storage of a map was put. -/
theorem read_setCell_slots {m : Block} {a : Nat} (fits : a + handleSize ≤ m.size)
    (pairs : Slots Cell) :
    (Kind.map key value).read (m.setCell a (.slots pairs)) a = .map (entries key value pairs) := by
  rw [read_map_eq, Block.slots_setCell (lt_of_handle_fits fits)]

end MapValue

open MapValue

/-- The order in which maps store their pairs does not count: two maps are identical if and only if
their pairs can be matched; values that are alike have one hash and are identical to the same values,
from either side; and histories with the same associations give maps of one hash, which are identical
if there is no NaN in them. -/
theorem pairOrder_irrelevant :
    (∀ (property : Property) (key value : Kind), property.kind = .map key value →
      ∀ (memory : String → Block) (p q : Place), p ≠ q → property.KeyedFirstAt memory p →
        property.KeyedFirstAt memory q →
        (property.identicalFirstAt (p.block memory) p (q.block memory) q = true ↔
          Matched key value ((p.block memory).slots p.address)
            ((q.block memory).slots q.address))) ∧
    (∀ (scope : Scope) (property : Property) (m m' n : Block) (p p' q : Place),
      (scope.read property m p.address).Alike (scope.read property m' p'.address) →
      (scope.read property m p.address).Keyed →
        scope.hash property m p.address = scope.hash property m' p'.address ∧
        (p ≠ q → p' ≠ q → (scope.read property n q.address).Keyed →
          scope.identicalAt property m p n q = scope.identicalAt property m' p' n q ∧
          scope.identicalAt property n q m p = scope.identicalAt property n q m' p')) ∧
    ∀ key value : Kind, (Kind.map key value).Made → ∀ (m m' : Block) (a a' : Nat),
      a + handleSize ≤ m.size → a' + handleSize ≤ m'.size → ∀ changes changes' : List Change,
      (∀ change ∈ changes, change.Valid key value ∧ change.ValueKeyed value) →
      (∀ change ∈ changes', change.Valid key value ∧ change.ValueKeyed value) →
      ∀ pairs pairs' : Slots Cell,
      run key value (((Kind.map key value).construct m a).slots a) changes = .ok pairs →
      run key value (((Kind.map key value).construct m' a').slots a') changes' = .ok pairs' →
      (Value.map (associations key value changes)).Alike
        (.map (associations key value changes')) →
        (Kind.map key value).hash (m.setCell a (.slots pairs)) a =
          (Kind.map key value).hash (m'.setCell a' (.slots pairs')) a' ∧
        (¬ (Value.map (associations key value changes)).HasNaN →
          (Kind.map key value).identical (m.setCell a (.slots pairs)) a
              (m'.setCell a' (.slots pairs')) a' = true ∧
            (Kind.map key value).identical (m'.setCell a' (.slots pairs')) a'
              (m.setCell a (.slots pairs)) a = true) := by
  refine ⟨?_, ?_, ?_⟩
  · intro property key value hkind memory p q hne hp hq
    have hread : ∀ r : Place, property.readFirst (r.block memory) r.address =
        .map (entries key value ((r.block memory).slots r.address)) := by
      intro r
      rw [Property.readFirst, hkind, read_map_eq]
    rw [Property.KeyedFirstAt, hread] at hp hq
    rw [Property.identicalFirstAt_iff, hread, hread,
      identityOn_keyed.identical_map_iff hp.key hq.key hp.unique hq.unique]
    exact or_iff_right hne
  · intro scope property m m' n p p' q halike hx
    refine ⟨?_, fun hpq hpq' hz => ⟨?_, ?_⟩⟩
    · rw [scope.hash_eq, scope.hash_eq, halike.hash_eq]
    · rw [scope.identicalAt_eq property hpq, scope.identicalAt_eq property hpq',
        halike.identical_congr_left hx hz]
    · rw [scope.identicalAt_eq property hpq.symm, scope.identicalAt_eq property hpq'.symm,
        halike.identical_congr_right hx hz]
  · intro key value made m m' a a' fits fits' changes changes' valid valid' pairs pairs' ran ran'
      halike
    obtain ⟨hkeyed, hmeaning⟩ := run_recorded made fits valid ran
    obtain ⟨-, hmeaning'⟩ := run_recorded made fits' valid' ran'
    have hassociations : (Value.map (associations key value changes)).Keyed :=
      hkeyed.of_meaning_eq hmeaning.symm
    rw [Kind.hash_eq, Kind.hash_eq, Kind.identical_eq, Kind.identical_eq, read_setCell_slots fits,
      read_setCell_slots fits']
    constructor
    · rw [Value.hash_eq_of_meaning_eq hmeaning, Value.hash_eq_of_meaning_eq hmeaning',
        halike.hash_eq]
    · intro hnan
      rw [Value.identical_eq_of_meaning_eq hmeaning, Value.identical_eq_of_meaning_eq hmeaning',
        Value.identical_eq_of_meaning_eq_right hmeaning,
        Value.identical_eq_of_meaning_eq_right hmeaning']
      exact halike.identical_of_not_hasNaN hassociations hnan

/-- Two votes. -/
def earlyVotes : List Change :=
  [.add (.ofBytes [1]) (.ofBytes [10]), .add (.ofBytes [2]) (.ofBytes [20])]

/-- The same two votes in the other order, after one was changed and a third one taken back. -/
def lateVotes : List Change :=
  [.add (.ofBytes [2]) (.ofBytes [5]), .add (.ofBytes [3]) (.ofBytes [30]),
    .add (.ofBytes [1]) (.ofBytes [10]), .remove (.ofBytes [3]),
    .add (.ofBytes [2]) (.ofBytes [20])]

/-- The map of some votes. -/
def countVotes (changes : List Change) : Except StorageFault (Slots Cell) :=
  run (.scalar .uint8) (.scalar .uint8)
    (((Kind.map (.scalar .uint8) (.scalar .uint8)).construct (Block.filled 24 0) 0).slots 0) changes

/-- Every change to a map of numbers can be made. -/
theorem valid_votes (change : Change) :
    change.Valid (.scalar .uint8) (.scalar .uint8) ∧ change.ValueKeyed (.scalar .uint8) := by
  cases change with
  | add k v => exact ⟨⟨.scalar _ _ _, .scalar _ _, .scalar _ _ _⟩, .scalar _ _⟩
  | remove k => exact ⟨.scalar _ _, trivial⟩
  | clear => exact ⟨trivial, trivial⟩

/-- The map of the votes under the keys one and two. -/
def votesReading (pairs : List (UInt64 × UInt64)) : Value :=
  .map (pairs.map fun p => (.scalar .uint8 p.1, .scalar .uint8 p.2))

/-- Votes under different keys. -/
theorem keyed_votesReading {k v k' v' : UInt64} (h : k ≠ k') :
    (votesReading [(k, v), (k', v')]).Keyed :=
  (@keyed_ballotReading 0 0 k v k' v' h).field ("Votes", votesReading [(k, v), (k', v')])
    (by simp [votesReading])

/-- There is no NaN among numbers that are not floating-point numbers. -/
theorem not_hasNaN_votesReading (pairs : List (UInt64 × UInt64)) :
    ¬ (votesReading pairs).HasNaN := by
  have hnumber : ∀ bits : UInt64, ¬ (Value.scalar .uint8 bits).HasNaN := by
    intro bits hnan
    cases hnan with
    | scalar h => simp [Scalar.isNaN, Scalar.isFloat] at h
  intro hnan
  cases hnan with
  | key mem h =>
    obtain ⟨p, -, rfl⟩ := List.mem_map.mp mem
    exact hnumber p.1 h
  | value mem h =>
    obtain ⟨p, -, rfl⟩ := List.mem_map.mp mem
    exact hnumber p.2 h

theorem read_ofBytes (byte : UInt8) :
    (Operand.ofBytes [byte]).read (.scalar .uint8) = .scalar .uint8 byte.toUInt64 := by
  simp [Operand.read, Kind.read, Operand.ofBytes, Scalar.size, Block.word, Block.byte, Block.cell]

/-- Both histories end with the same associations. -/
theorem associations_votes :
    Value.map (associations (.scalar .uint8) (.scalar .uint8) earlyVotes) =
        votesReading [(1, 10), (2, 20)] ∧
      Value.map (associations (.scalar .uint8) (.scalar .uint8) lateVotes) =
        votesReading [(2, 20), (1, 10)] := by
  constructor
  · simp [associations, earlyVotes, Change.record, putEntry, read_ofBytes, Value.identical,
      Scalar.same, Scalar.isFloat, votesReading]
  · simp [associations, lateVotes, Change.record, putEntry, dropEntry, read_ofBytes,
      Value.identical, Scalar.same, Scalar.isFloat, votesReading]

/-- A count of votes that succeeds, with two votes. -/
theorem exists_countVotes {changes : List Change}
    (h : (countVotes changes).toOption.map (·.count) = some 2) :
    ∃ pairs : Slots Cell, countVotes changes = .ok pairs := by
  cases hcount : countVotes changes with
  | error fault =>
    rw [hcount] at h
    exact absurd h (by simp [Except.toOption])
  | ok pairs => exact ⟨pairs, rfl⟩

/-- Votes do not depend on the order in which they were stored or counted. -/
theorem pairOrder_irrelevant_votes :
    Matched (.scalar .uint8) (.scalar .uint8) ((ballots "first").slots 8)
        ((ballots "second").slots 8) ∧
      Scope.all.identicalAt ballot (ballots "first") ⟨"first", [], 0⟩ (ballots "third")
          ⟨"third", [], 0⟩ =
        Scope.all.identicalAt ballot (ballots "second") ⟨"second", [], 0⟩ (ballots "third")
          ⟨"third", [], 0⟩ ∧
      ∃ early late : Slots Cell, countVotes earlyVotes = .ok early ∧
        countVotes lateVotes = .ok late ∧
        (Kind.map (.scalar .uint8) (.scalar .uint8)).identical
          ((Block.filled 24 0).setCell 0 (.slots early)) 0
          ((Block.filled 24 0).setCell 0 (.slots late)) 0 = true := by
  obtain ⟨hmatch, halike, hhistory⟩ := pairOrder_irrelevant
  refine ⟨?_, ?_, ?_⟩
  · have hfirst : ballotVotes.KeyedFirstAt ballots ⟨"first", [], 8⟩ :=
      @keyed_votesReading 1 10 2 20 (by decide)
    have hsecond : ballotVotes.KeyedFirstAt ballots ⟨"second", [], 8⟩ :=
      @keyed_votesReading 2 20 1 10 (by decide)
    have hlaw := hmatch ballotVotes (.scalar .uint8) (.scalar .uint8) rfl ballots
      ⟨"first", [], 8⟩ ⟨"second", [], 8⟩ (by decide) hfirst hsecond
    exact hlaw.mp (by decide +kernel)
  · obtain ⟨hfirst, -, hthird⟩ := keyedFirstAt_ballots
    have hreordered : (Scope.all.read ballot (ballots "first") 0).Alike
        (Scope.all.read ballot (ballots "second") 0) := by
      obtain ⟨hfirst, hsecond, -⟩ := readFirst_ballots
      change (ballot.readFirst (ballots "first") 0).Alike (ballot.readFirst (ballots "second") 0)
      rw [hfirst, hsecond]
      refine .struct rfl ?_
      simp only [List.zip_cons_cons, List.zip_nil_right, List.forall_mem_cons, List.not_mem_nil]
      refine ⟨.scalar (Or.inr (by decide)), .bool (by decide), .of_perm (List.Perm.swap _ _ _),
        fun _ h => h.elim⟩
    have hlaw := halike .all ballot (ballots "first") (ballots "second") (ballots "third")
      ⟨"first", [], 0⟩ ⟨"second", [], 0⟩ ⟨"third", [], 0⟩ hreordered hfirst
    exact (hlaw.2 (by decide) (by decide) hthird).1
  · obtain ⟨early, hearly⟩ := @exists_countVotes earlyVotes (by decide +kernel)
    obtain ⟨late, hlate⟩ := @exists_countVotes lateVotes (by decide +kernel)
    obtain ⟨hassociations, hassociations'⟩ := associations_votes
    have hperm : (Value.map (associations (.scalar .uint8) (.scalar .uint8) earlyVotes)).Alike
        (.map (associations (.scalar .uint8) (.scalar .uint8) lateVotes)) := by
      rw [hassociations, hassociations']
      exact .of_perm (List.Perm.swap _ _ _)
    have made : (Kind.map (.scalar .uint8) (.scalar .uint8)).Made := .map (.scalar _) (.scalar _)
    have hlaw := hhistory (.scalar .uint8) (.scalar .uint8) made (Block.filled 24 0)
      (Block.filled 24 0) 0 0 (by decide) (by decide) earlyVotes lateVotes
      (fun change _ => valid_votes change) (fun change _ => valid_votes change) early late hearly
      hlate hperm
    rw [hassociations] at hlaw
    exact ⟨early, late, hearly, hlate, (hlaw.2 (not_hasNaN_votesReading _)).1⟩

end PropertyReflection
