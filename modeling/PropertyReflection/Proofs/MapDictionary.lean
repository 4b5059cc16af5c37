import Mathlib
import PropertyReflection.Proofs.LayoutSoundness
import PropertyReflection.Proofs.MapEntries
import PropertyReflection.Proofs.UniqueKeys

/-!
# Maps are dictionaries

A map is a dictionary that keeps the order of insertion and compares keys by identity.  However
often pairs are added, replaced and removed, no two keys are identical, and a search finds what was
added last.

The invariant is `MapValue.Reached`: the map is live, its keys are unique, and for every key the
entries say what the history says.  Uniqueness survives because a stored copy is identical to the
same keys as the original, and it is what makes the first match of a search the only one.

### Outline

* the operations on maps in terms of entries, once it is known what the search finds;
* `MapValue.Change`, a history of changes, and `MapValue.lastAdded`, what the history says;
* `MapValue.Reached.apply` and `MapValue.Reached.run`, the invariant for a step and a run;
* `MapValue.Dictionary`, which is what the invariant means for users of a map.
-/

namespace PropertyReflection

namespace MapValue

variable {key value : Kind} {pairs : Slots Cell} {m n : Block} {a b i : Nat}

/-! ### The operations, once the search is done -/

/-- The search in memory is the search among the entries. -/
theorem entryFor?_entries (pairs : Slots Cell) (m : Block) (a : Nat) :
    entryFor? (entries key value pairs) (key.read m a) =
      (findPair? key value pairs m a).map (entryAt key value pairs.cells) := by
  rw [entryFor?, entries, List.find?_map, findPair?]
  congr 2
  funext i
  rw [Kind.identical_eq]
  rfl

/-- If the keys are unique, the search finds the pair with an identical key. -/
theorem findPair?_eq_some (unique : UniqueKeys (entries key value pairs))
    (hk : (key.read m a).Keyed) (hi : i < pairs.count)
    (same : (entryAt key value pairs.cells i).1.identical (key.read m a) = true) :
    findPair? key value pairs m a = some i := by
  cases hfind : findPair? key value pairs m a with
  | none =>
    have hnone := findPair?_eq_none_iff.mp hfind _ (mem_entries.mpr ⟨i, hi, rfl⟩)
    rw [same] at hnone
    exact absurd hnone.symm Bool.false_ne_true
  | some j =>
    obtain ⟨hj, hjsame⟩ := of_findPair?_eq_some hfind
    have hij : i = j := unique.eq_of_identical hk (by simpa using hi) (by simpa using hj)
      (by rw [getElem_entries]; exact same) (by rw [getElem_entries]; exact hjsame)
    rw [hij]

/-- Under a key that is found, `add` replaces the value. -/
theorem add_of_found (keySound : key.Sound) (valueSound : value.Sound)
    (live : Live key value pairs) (found : findPair? key value pairs m a = some i)
    (valueLive : value.Live n b) :
    ∃ (after : Slots Cell) (w : Value), add key value pairs m a n b = .ok after ∧
      Live key value after ∧
      entries key value after =
        (entries key value pairs).set i ((entryAt key value pairs.cells i).1, w) ∧
      w.meaning = (value.read n b).meaning := by
  obtain ⟨hi, -⟩ := of_findPair?_eq_some found
  obtain ⟨cells, w, hok, hlive, hentries, hmeaning⟩ :=
    replace_ok keySound valueSound live hi valueLive
  refine ⟨{ pairs with cells := cells }, w, ?_, hlive, hentries, hmeaning⟩
  simp only [add, findValue?, found, Option.map_some, hok]
  rfl

/-- Under a key that is not found, `add` fails if there is no room. -/
theorem add_of_no_room (missing : findPair? key value pairs m a = none) {fault : StorageFault}
    (full : pairs.reserve 1 (key.pairSize value) (key.pairAlign value) = .error fault) :
    add key value pairs m a n b = .error fault := by
  have hextend := Slots.extend_eq_error_of_reserve (default : Cell) full
  simp only [add, findValue?, missing, Option.map_none, hextend]
  rfl

/-- Under a key that is not found, `add` appends a pair if there is room. -/
theorem add_of_not_found (keySound : key.Sound) (valueSound : value.Sound)
    (live : Live key value pairs) (missing : findPair? key value pairs m a = none)
    {room : Slots Cell}
    (hroom : pairs.reserve 1 (key.pairSize value) (key.pairAlign value) = .ok room)
    (keyLive : key.Live m a) (valueLive : value.Live n b) :
    ∃ (after : Slots Cell) (x w : Value), add key value pairs m a n b = .ok after ∧
      Live key value after ∧
      entries key value after = entries key value pairs ++ [(x, w)] ∧
      x.meaning = (key.read m a).meaning ∧ w.meaning = (value.read n b).meaning := by
  obtain ⟨taken, cells, x, w, htaken, hok, hlive, hentries, hx, hw⟩ :=
    append_ok keySound valueSound live hroom keyLive valueLive
  refine ⟨{ taken with cells := cells }, x, w, ?_, hlive, hentries, hx, hw⟩
  simp only [add, findValue?, missing, Option.map_none, htaken, ok_bind, hok]
  rfl

/-- A key that is found is removed together with its value. -/
theorem remove?_of_found (keySound : key.Sound) (valueSound : value.Sound)
    (live : Live key value pairs) (found : findPair? key value pairs m a = some i) :
    ∃ after : Slots Cell, remove? key value pairs m a = some after ∧ Live key value after ∧
      entries key value after = (entries key value pairs).eraseIdx i := by
  obtain ⟨hi, -⟩ := of_findPair?_eq_some found
  obtain ⟨hlive, hentries⟩ := remove_ok keySound valueSound live hi rfl
  refine ⟨_, ?_, hlive, hentries⟩
  rw [remove?, found]
  rfl

theorem remove?_of_not_found (missing : findPair? key value pairs m a = none) :
    remove? key value pairs m a = none := by
  rw [remove?, missing]
  rfl

theorem entries_clear (pairs : Slots Cell) : entries key value (clear pairs) = [] :=
  rfl

/-! ### Histories -/

/-- A value that a caller passes.  Its block is not the storage of the map. -/
structure Operand where
  block : Block
  address : Nat

/-- What an operand reads as. -/
def Operand.read (operand : Operand) (kind : Kind) : Value :=
  kind.read operand.block operand.address

/-- A change to a map. -/
inductive Change where
  | add (k v : Operand)
  | remove (k : Operand)
  | clear

namespace Change

/-- What is asked of a caller: values are live, and keys hold no key twice. -/
def Valid (key value : Kind) : Change → Prop
  | .add k v =>
    key.Live k.block k.address ∧ (k.read key).Keyed ∧ value.Live v.block v.address
  | .remove k => (k.read key).Keyed
  | .clear => True

/-- Carry out a change. -/
def apply (key value : Kind) (pairs : Slots Cell) : Change → Except StorageFault (Slots Cell)
  | .add k v => MapValue.add key value pairs k.block k.address v.block v.address
  | .remove k => .ok ((remove? key value pairs k.block k.address).getD pairs)
  | .clear => .ok (MapValue.clear pairs)

/-- What is known about the value under a key after a change. -/
def track (key value : Kind) (x : Value) (known : Option Value) : Change → Option Value
  | .add k v => if (k.read key).identical x then some (v.read value) else known
  | .remove k => if (k.read key).identical x then none else known
  | .clear => none

end Change

/-- Carry out changes in order. -/
def run (key value : Kind) (pairs : Slots Cell) (changes : List Change) :
    Except StorageFault (Slots Cell) :=
  changes.foldlM (Change.apply key value) pairs

/-- The value that was added last under an identical key and neither removed nor cleared since. -/
def lastAdded (key value : Kind) (changes : List Change) (x : Value) : Option Value :=
  changes.foldl (Change.track key value x) none

theorem lastAdded_concat (changes : List Change) (change : Change) (x : Value) :
    lastAdded key value (changes ++ [change]) x =
      change.track key value x (lastAdded key value changes x) := by
  rw [lastAdded, lastAdded, List.foldl_append]
  rfl

/-! ### The invariant -/

/-- The state of a map after a history of changes. -/
structure Reached (key value : Kind) (changes : List Change) (pairs : Slots Cell) : Prop where
  live : Live key value pairs
  unique : UniqueKeys (entries key value pairs)
  /-- The entries say of every key what the history says. -/
  lookup : ∀ x : Value, x.Keyed →
    (entryFor? (entries key value pairs) x).map (fun e => e.2.meaning) =
      (lastAdded key value changes x).map Value.meaning

theorem reached_empty (key value : Kind) : Reached key value [] .empty :=
  ⟨live_empty key value, UniqueKeys.nil, fun _ _ => rfl⟩

namespace Reached

variable {changes : List Change} {after : Slots Cell} {k v : Operand}

/-- Adding a pair keeps the invariant. -/
theorem add (keySound : key.Sound) (valueSound : value.Sound) (h : Reached key value changes pairs)
    (valid : (Change.add k v).Valid key value)
    (ok : MapValue.add key value pairs k.block k.address v.block v.address = .ok after) :
    Reached key value (changes ++ [.add k v]) after := by
  obtain ⟨keyLive, hk, valueLive⟩ := valid
  cases hfind : findPair? key value pairs k.block k.address with
  | some i =>
    obtain ⟨hi, hsame⟩ := of_findPair?_eq_some hfind
    obtain ⟨stored, w, hadd, hlive, hentries, hw⟩ :=
      add_of_found keySound valueSound h.live hfind valueLive
    obtain rfl : stored = after := Except.ok.inj (hadd.symm.trans ok)
    have hlength : i < (entries key value pairs).length := by rwa [length_entries]
    have hi' : (entries key value pairs)[i].1 = (entryAt key value pairs.cells i).1 := by
      rw [getElem_entries]
    have hki : (entries key value pairs)[i].1.Keyed :=
      h.unique.keyed _ (List.getElem_mem hlength)
    rw [← hi'] at hentries hsame
    refine ⟨hlive, hentries ▸ h.unique.set hlength, fun x hx => ?_⟩
    rw [hentries, h.unique.entryFor?_set hlength hx, lastAdded_concat, Change.track,
      Value.identical_congr_left hki hk hx hsame]
    split
    · exact congrArg some hw
    · exact h.lookup x hx
  | none =>
    have hnew : ∀ e ∈ entries key value pairs, e.1.identical (k.read key) = false :=
      findPair?_eq_none_iff.mp hfind
    cases hreserve : pairs.reserve 1 (key.pairSize value) (key.pairAlign value) with
    | error fault =>
      rw [add_of_no_room hfind hreserve] at ok
      exact absurd ok (by simp)
    | ok room =>
      obtain ⟨stored, y, w, hadd, hlive, hentries, hy, hw⟩ :=
        add_of_not_found keySound valueSound h.live hfind hreserve keyLive valueLive
      obtain rfl : stored = after := Except.ok.inj (hadd.symm.trans ok)
      -- the stored copy of the key is as good as the key itself
      have hy : y.meaning = (k.read key).meaning := hy
      have hyKeyed : y.Keyed := hk.of_meaning_eq hy
      have hynew : ∀ f ∈ entries key value pairs, f.1.identical y = false := by
        intro f hf
        rw [Value.identical_comm (h.unique.keyed f hf) hyKeyed, Value.identical_eq_of_meaning_eq hy,
          Value.identical_comm hk (h.unique.keyed f hf)]
        exact hnew f hf
      refine ⟨hlive, hentries ▸ h.unique.append hyKeyed hynew, fun x hx => ?_⟩
      rw [hentries, h.unique.entryFor?_append hyKeyed hx hynew, lastAdded_concat, Change.track,
        Value.identical_eq_of_meaning_eq hy]
      split
      · exact congrArg some hw
      · exact h.lookup x hx

/-- Removing a key keeps the invariant, whether or not the map has the key. -/
theorem remove (keySound : key.Sound) (valueSound : value.Sound)
    (h : Reached key value changes pairs) (hk : (k.read key).Keyed) :
    Reached key value (changes ++ [.remove k])
      ((remove? key value pairs k.block k.address).getD pairs) := by
  cases hfind : findPair? key value pairs k.block k.address with
  | some i =>
    obtain ⟨hi, hsame⟩ := of_findPair?_eq_some hfind
    obtain ⟨after, hremove, hlive, hentries⟩ :=
      remove?_of_found keySound valueSound h.live hfind
    have hlength : i < (entries key value pairs).length := by rwa [length_entries]
    have hki : (entries key value pairs)[i].1.Keyed :=
      h.unique.keyed _ (List.getElem_mem hlength)
    rw [hremove, Option.getD_some]
    refine ⟨hlive, hentries ▸ h.unique.eraseIdx hlength, fun x hx => ?_⟩
    have hcongr : (entries key value pairs)[i].1.identical x = (k.read key).identical x := by
      refine Value.identical_congr_left hki hk hx ?_
      rw [getElem_entries]
      exact hsame
    rw [hentries, h.unique.entryFor?_eraseIdx hlength hx, lastAdded_concat, Change.track, hcongr]
    split
    · rfl
    · exact h.lookup x hx
  | none =>
    have hnew : ∀ e ∈ entries key value pairs, e.1.identical (k.read key) = false :=
      findPair?_eq_none_iff.mp hfind
    rw [remove?_of_not_found hfind, Option.getD_none]
    refine ⟨h.live, h.unique, fun x hx => ?_⟩
    rw [lastAdded_concat, Change.track]
    split
    · next hkx =>
      have hnone : entryFor? (entries key value pairs) x = none := by
        refine UniqueKeys.entryFor?_eq_none fun f hf => ?_
        have hkf := h.unique.keyed f hf
        rw [Value.identical_comm hkf hx, ← Value.identical_congr_left hk hx hkf hkx,
          Value.identical_comm hk hkf]
        exact hnew f hf
      rw [hnone]
      rfl
    · exact h.lookup x hx

/-- A cleared map has no entries, whatever was added before. -/
theorem clear (changes : List Change) (pairs : Slots Cell) :
    Reached key value (changes ++ [.clear]) (MapValue.clear pairs) := by
  refine ⟨live_empty key value, UniqueKeys.nil, fun x _ => ?_⟩
  rw [lastAdded_concat]
  rfl

/-- Every change keeps the invariant. -/
theorem apply (keySound : key.Sound) (valueSound : value.Sound)
    (h : Reached key value changes pairs) {change : Change} (valid : change.Valid key value)
    (ok : change.apply key value pairs = .ok after) :
    Reached key value (changes ++ [change]) after := by
  cases change with
  | add k v => exact h.add keySound valueSound valid ok
  | remove k =>
    obtain rfl := Except.ok.inj ok
    exact h.remove keySound valueSound valid
  | clear =>
    obtain rfl := Except.ok.inj ok
    exact clear changes pairs

/-- Every run keeps the invariant. -/
theorem run (keySound : key.Sound) (valueSound : value.Sound) {more : List Change}
    (h : Reached key value changes pairs) (valid : ∀ change ∈ more, change.Valid key value)
    (ran : MapValue.run key value pairs more = .ok after) :
    Reached key value (changes ++ more) after := by
  induction more generalizing changes pairs with
  | nil =>
    obtain rfl := Except.ok.inj ran
    rwa [List.append_nil]
  | cons change rest ih =>
    rw [MapValue.run, List.foldlM_cons] at ran
    cases hnext : change.apply key value pairs with
    | error fault =>
      rw [hnext] at ran
      exact absurd ran (by simp [bind, Except.bind])
    | ok next =>
      rw [hnext, ok_bind] at ran
      have hstep := h.apply keySound valueSound (valid change List.mem_cons_self) hnext
      have hrest := ih hstep (fun c hc => valid c (List.mem_cons_of_mem _ hc)) ran
      rwa [List.append_assoc] at hrest

end Reached

/-! ### What users see -/

/-- A map as its users see it, after a history of changes: how it takes the next change, and what it
finds. -/
structure Dictionary (key value : Kind) (changes : List Change) (pairs : Slots Cell) : Prop where
  keys_differ : ∀ i < pairs.count, ∀ j < pairs.count, i ≠ j →
    key.identical pairs.cells (keyAddress key value i) pairs.cells (keyAddress key value j) = false
  /-- Adding under a key that is stored replaces the value; the stored key stays in its place, and
  so do all other pairs. -/
  replaces : ∀ k v : Operand, (Change.add k v).Valid key value → ∀ i < pairs.count,
    key.identical pairs.cells (keyAddress key value i) k.block k.address = true →
    ∃ (after : Slots Cell) (w : Value),
      add key value pairs k.block k.address v.block v.address = .ok after ∧
      entries key value after =
        (entries key value pairs).set i (key.read pairs.cells (keyAddress key value i), w) ∧
      w.meaning = (v.read value).meaning
  /-- Adding under any other key appends a copy of the key and of the value.  It fails only where
  the storage cannot grow. -/
  appends : ∀ k v : Operand, (Change.add k v).Valid key value →
    (∀ i < pairs.count,
      key.identical pairs.cells (keyAddress key value i) k.block k.address = false) →
    (∀ fault, pairs.reserve 1 (key.pairSize value) (key.pairAlign value) = .error fault →
      add key value pairs k.block k.address v.block v.address = .error fault) ∧
    ∀ room, pairs.reserve 1 (key.pairSize value) (key.pairAlign value) = .ok room →
      ∃ (after : Slots Cell) (x w : Value),
        add key value pairs k.block k.address v.block v.address = .ok after ∧
        entries key value after = entries key value pairs ++ [(x, w)] ∧
        x.meaning = (k.read key).meaning ∧ w.meaning = (v.read value).meaning
  /-- Removing a key that is stored takes out its pair, and the others keep their order. -/
  removes : ∀ k : Operand, (k.read key).Keyed → ∀ i < pairs.count,
    key.identical pairs.cells (keyAddress key value i) k.block k.address = true →
    ∃ after : Slots Cell, remove? key value pairs k.block k.address = some after ∧
      entries key value after = (entries key value pairs).eraseIdx i
  /-- Any other key is reported as missing, and nothing changes. -/
  keeps : ∀ k : Operand, (k.read key).Keyed →
    (∀ i < pairs.count,
      key.identical pairs.cells (keyAddress key value i) k.block k.address = false) →
    remove? key value pairs k.block k.address = none
  clears : entries key value (MapValue.clear pairs) = []
  /-- What is found under a key is what was added last. -/
  finds : ∀ k : Operand, (k.read key).Keyed →
    (findValue? key value pairs k.block k.address).map
        (fun address => (value.read pairs.cells address).meaning) =
      (lastAdded key value changes (k.read key)).map Value.meaning
  /-- A key with a NaN is never found. -/
  finds_no_nan : ∀ k : Operand, (k.read key).Keyed → (k.read key).HasNaN →
    findValue? key value pairs k.block k.address = none

/-- No stored key is identical to a key that is not found. -/
theorem findPair?_eq_none_of_forall {k : Operand}
    (h : ∀ i < pairs.count,
      key.identical pairs.cells (keyAddress key value i) k.block k.address = false) :
    findPair? key value pairs k.block k.address = none := by
  rw [findPair?, List.find?_eq_none]
  intro i hi
  rw [Bool.not_eq_true]
  exact h i (List.mem_range.mp hi)

/-- Whoever keeps the invariant is a dictionary. -/
theorem Reached.dictionary (keySound : key.Sound) (valueSound : value.Sound)
    {changes : List Change} (h : Reached key value changes pairs) :
    Dictionary key value changes pairs := by
  -- with unique keys, the pair that is named is the pair that is found
  have hfound : ∀ k : Operand, (k.read key).Keyed → ∀ i < pairs.count,
      key.identical pairs.cells (keyAddress key value i) k.block k.address = true →
      findPair? key value pairs k.block k.address = some i := by
    intro k hk i hi hsame
    rw [Kind.identical_eq] at hsame
    exact findPair?_eq_some h.unique hk hi hsame
  constructor
  case keys_differ =>
    intro i hi j hj hne
    have hdiffer := h.unique.identical_eq_false_of_ne (by simpa using hi) (by simpa using hj) hne
    rw [getElem_entries, getElem_entries] at hdiffer
    rw [Kind.identical_eq]
    exact hdiffer
  case replaces =>
    intro k v valid i hi hsame
    obtain ⟨-, hk, valueLive⟩ := valid
    obtain ⟨after, w, hadd, -, hentries, hw⟩ :=
      add_of_found keySound valueSound h.live (hfound k hk i hi hsame) valueLive
    exact ⟨after, w, hadd, hentries, hw⟩
  case appends =>
    intro k v valid hnew
    obtain ⟨keyLive, hk, valueLive⟩ := valid
    have hmissing := findPair?_eq_none_of_forall hnew
    refine ⟨fun fault hfault => add_of_no_room hmissing hfault, fun room hroom => ?_⟩
    obtain ⟨after, x, w, hadd, -, hentries, hx, hw⟩ :=
      add_of_not_found keySound valueSound h.live hmissing hroom keyLive valueLive
    exact ⟨after, x, w, hadd, hentries, hx, hw⟩
  case removes =>
    intro k hk i hi hsame
    obtain ⟨after, hremove, -, hentries⟩ :=
      remove?_of_found keySound valueSound h.live (hfound k hk i hi hsame)
    exact ⟨after, hremove, hentries⟩
  case keeps =>
    intro k hk hnew
    exact remove?_of_not_found (findPair?_eq_none_of_forall hnew)
  case clears => exact entries_clear pairs
  case finds =>
    intro k hk
    have hlookup := h.lookup (k.read key) hk
    rw [Operand.read, entryFor?_entries, Option.map_map] at hlookup
    rw [findValue?, Option.map_map]
    exact hlookup
  case finds_no_nan =>
    intro k hk hnan
    have hmissing : findPair? key value pairs k.block k.address = none := by
      refine findPair?_eq_none_iff.mpr fun e he => ?_
      have hke := h.unique.keyed e he
      exact (Value.identical_comm hke hk).trans (Value.identical_eq_false_of_hasNaN hk hke hnan)
    rw [findValue?, hmissing]
    rfl

/-- However a map that was initialized is changed, it is a dictionary. -/
theorem run_dictionary {key value : Kind} (made : (Kind.map key value).Made) {m : Block} {a : Nat}
    (fits : a + handleSize ≤ m.size) {changes : List Change}
    (valid : ∀ change ∈ changes, change.Valid key value) {pairs : Slots Cell}
    (ran : run key value (((Kind.map key value).construct m a).slots a) changes = .ok pairs) :
    Dictionary key value changes pairs := by
  have hsound : (Kind.map key value).Sound := made.sound
  cases hsound with
  | map keySound valueSound =>
    rw [Kind.slots_construct_map key value fits] at ran
    have hreached := (reached_empty key value).run keySound valueSound valid ran
    exact hreached.dictionary keySound valueSound

/-- An operand from its bytes. -/
def Operand.ofBytes (bytes : List UInt8) : Operand :=
  ⟨(bytes.map Cell.byte).toArray, 0⟩

/-- Changes to a map from floating-point numbers to bytes: both zeros are one key, a NaN is stored
like any other number, and one is taken out again. -/
def floatChanges : List Change :=
  [.add (.ofBytes [0, 0, 0, 0]) (.ofBytes [1]), .add (.ofBytes [0, 0, 0x80, 0x3f]) (.ofBytes [2]),
    .add (.ofBytes [0, 0, 0, 0x80]) (.ofBytes [3]),
    .add (.ofBytes [0, 0, 0xc0, 0x7f]) (.ofBytes [4]), .remove (.ofBytes [0, 0, 0x80, 0x3f])]

/-- The changes carried out on a map that was just initialized. -/
def floatRun : Except StorageFault (Slots Cell) :=
  run (.scalar .float32) (.scalar .uint8)
    (((Kind.map (.scalar .float32) (.scalar .uint8)).construct (Block.filled 24 0) 0).slots 0)
    floatChanges

/-- The changes succeed, and the map with two pairs that they leave is a dictionary. -/
theorem run_dictionary_floatRun :
    ∃ pairs : Slots Cell, floatRun = .ok pairs ∧ pairs.count = 2 ∧
      Dictionary (.scalar .float32) (.scalar .uint8) floatChanges pairs := by
  have made : (Kind.map (.scalar .float32) (.scalar .uint8)).Made :=
    .map (.scalar .float32) (.scalar .uint8)
  have fits : 0 + handleSize ≤ (Block.filled 24 0).size := by decide
  have valid : ∀ change ∈ floatChanges, change.Valid (.scalar .float32) (.scalar .uint8) := by
    simp only [floatChanges, List.forall_mem_cons, Change.Valid]
    refine ⟨?_, ?_, ?_, ?_, ?_, fun _ h => absurd h List.not_mem_nil⟩
    case _ | _ | _ | _ => exact ⟨.scalar _ _ _, .scalar _ _, .scalar _ _ _⟩
    case _ => exact .scalar _ _
  have hcount : floatRun.toOption.map (·.count) = some 2 := by decide +kernel
  cases ran : floatRun with
  | error fault =>
    rw [ran] at hcount
    exact absurd hcount (by simp [Except.toOption])
  | ok pairs =>
    rw [ran] at hcount
    exact ⟨pairs, rfl, Option.some.inj hcount, run_dictionary made fits valid ran⟩

end MapValue

end PropertyReflection
