import Mathlib
import PropertyReflection.Proofs.Descriptions
import PropertyReflection.Value.Digest
import PropertyReflection.Value.Identity
import PropertyReflection.Value.Reading

/-!
# Identity and hashes of values as data

Values in memory are compared and hashed through their kinds.  Here the same is said of values as
data: `Value.identical` and `Value.hash` look at what a value means and not at where it lies.
`Kind.identical_eq` and `Kind.hash_eq` show that nothing else matters in memory either, so the laws
of identity and hashing can be proved on data, without kinds and addresses.

A map is searched for each key of the other one from its first pair on, and the stored key is the
left one in the comparison.  Both are as they are in memory: where keys are not unique the outcome
depends on them.
-/

namespace PropertyReflection

/-! ### Identity -/

mutual

/-- Value equality. -/
def Value.identical : Value → Value → Bool
  | .bool x, .bool y => (x != 0) == (y != 0)
  | .scalar s x, .scalar t y => decide (s = t) && s.same x y
  | .text x, .text y => x == y
  | .struct xs, .struct ys => identicalFieldLists xs ys
  | .list xs, .list ys => identicalLists xs ys
  | .map ps, .map qs => ps.length == qs.length && areFoundIn ps qs
  | _, _ => false
termination_by x y => sizeOf x + sizeOf y

/-- True if two structs have identical properties in the same order. -/
def identicalFieldLists : List (String × Value) → List (String × Value) → Bool
  | [], [] => true
  | (_, x) :: xs, (_, y) :: ys => x.identical y && identicalFieldLists xs ys
  | _, _ => false
termination_by xs ys => sizeOf xs + sizeOf ys

/-- True if two lists have identical elements in the same order. -/
def identicalLists : List Value → List Value → Bool
  | [], [] => true
  | x :: xs, y :: ys => x.identical y && identicalLists xs ys
  | _, _ => false
termination_by xs ys => sizeOf xs + sizeOf ys

/-- True if every pair is found among others. -/
def areFoundIn : List (Value × Value) → List (Value × Value) → Bool
  | [], _ => true
  | (key, value) :: rest, pairs => isFoundIn key value pairs && areFoundIn rest pairs
termination_by ps qs => sizeOf ps + sizeOf qs

/-- True if the first pair with an identical key has an identical value. -/
def isFoundIn (key value : Value) : List (Value × Value) → Bool
  | [] => false
  | (k, v) :: rest => if k.identical key then value.identical v else isFoundIn key value rest
termination_by pairs => sizeOf key + sizeOf value + sizeOf pairs

end

/-! ### Hashes -/

mutual

/-- The hash of a value. -/
def Value.hash : Value → UInt32
  | .bool bits => if bits != 0 then 1 else 0
  | .scalar s bits => s.hash bits
  | .text contents => hashText contents
  | .struct fields => hashOfFields 0 fields
  | .list elements => hashOfList (UInt32.ofNat elements.length) elements
  | .map pairs => hashCombine (UInt32.ofNat pairs.length) (hashOfPairs 0 pairs)

/-- Mix the hashes of properties into `seed`. -/
def hashOfFields : UInt32 → List (String × Value) → UInt32
  | seed, [] => seed
  | seed, (_, value) :: rest => hashOfFields (hashCombine seed value.hash) rest

/-- Mix the hashes of elements into `seed`. -/
def hashOfList : UInt32 → List Value → UInt32
  | seed, [] => seed
  | seed, value :: rest => hashOfList (hashCombine seed value.hash) rest

/-- Add the hashes of pairs to `sum`. -/
def hashOfPairs : UInt32 → List (Value × Value) → UInt32
  | sum, [] => sum
  | sum, (key, value) :: rest => hashOfPairs (sum + hashCombine key.hash value.hash) rest

end

theorem hashOfFields_eq_foldl (seed : UInt32) (fields : List (String × Value)) :
    hashOfFields seed fields = fields.foldl (fun seed f => hashCombine seed f.2.hash) seed := by
  induction fields generalizing seed with
  | nil => rfl
  | cons field rest ih => simp [hashOfFields, ih]

theorem hashOfList_eq_foldl (seed : UInt32) (elements : List Value) :
    hashOfList seed elements = elements.foldl (fun seed x => hashCombine seed x.hash) seed := by
  induction elements generalizing seed with
  | nil => rfl
  | cons x rest ih => simp [hashOfList, ih]

theorem hashOfPairs_eq_foldl (sum : UInt32) (pairs : List (Value × Value)) :
    hashOfPairs sum pairs =
      pairs.foldl (fun sum p => sum + hashCombine p.1.hash p.2.hash) sum := by
  induction pairs generalizing sum with
  | nil => rfl
  | cons p rest ih => simp [hashOfPairs, ih]

/-! ### Identity of lists -/

/-- Two structs are identical if their properties are, in order. -/
theorem identicalFieldLists_iff {xs ys : List (String × Value)} :
    identicalFieldLists xs ys = true ↔
      List.Forall₂ (fun x y => x.2.identical y.2 = true) xs ys := by
  induction xs generalizing ys with
  | nil => cases ys <;> simp [identicalFieldLists]
  | cons x xs ih =>
    obtain ⟨_, x⟩ := x
    cases ys with
    | nil => simp [identicalFieldLists]
    | cons y ys =>
      obtain ⟨_, y⟩ := y
      simp [identicalFieldLists, ih]

/-- Two lists are identical if their elements are, in order. -/
theorem identicalLists_iff {xs ys : List Value} :
    identicalLists xs ys = true ↔ List.Forall₂ (fun x y => x.identical y = true) xs ys := by
  induction xs generalizing ys with
  | nil => cases ys <;> simp [identicalLists]
  | cons x xs ih => cases ys <;> simp [identicalLists, ih]

/-- A pair is found if the first pair with an identical key has an identical value. -/
theorem isFoundIn_iff {key value : Value} {pairs : List (Value × Value)} :
    isFoundIn key value pairs = true ↔
      ∃ q, pairs.find? (fun q => q.1.identical key) = some q ∧ value.identical q.2 = true := by
  induction pairs with
  | nil => simp [isFoundIn]
  | cons q rest ih =>
    rw [isFoundIn, List.find?_cons]
    by_cases h : q.1.identical key = true
    · simp [h]
    · simp [h, ih]

theorem areFoundIn_iff {ps qs : List (Value × Value)} :
    areFoundIn ps qs = true ↔ ∀ p ∈ ps, isFoundIn p.1 p.2 qs = true := by
  induction ps with
  | nil => simp [areFoundIn]
  | cons p rest ih =>
    obtain ⟨key, value⟩ := p
    simp [areFoundIn, ih]

namespace Value

theorem identical_struct_iff {xs ys : List (String × Value)} :
    (Value.struct xs).identical (.struct ys) = true ↔
      List.Forall₂ (fun x y => x.2.identical y.2 = true) xs ys := by
  rw [identical, identicalFieldLists_iff]

theorem identical_list_iff {xs ys : List Value} :
    (Value.list xs).identical (.list ys) = true ↔
      List.Forall₂ (fun x y => x.identical y = true) xs ys := by
  rw [identical, identicalLists_iff]

/-- Two maps are identical if they have equally many pairs and those of the first are found in the
second. -/
theorem identical_map_iff {ps qs : List (Value × Value)} :
    (Value.map ps).identical (.map qs) = true ↔ ps.length = qs.length ∧
      ∀ p ∈ ps, ∃ q, qs.find? (fun q => q.1.identical p.1) = some q ∧
        p.2.identical q.2 = true := by
  rw [identical, Bool.and_eq_true, beq_iff_eq, areFoundIn_iff]
  simp only [isFoundIn_iff]

end Value

/-! ### What kinds compare and hash is what they read -/

/-- Two rows are related element by element if they are equally long and related at each index. -/
theorem forall₂_map_range {α β : Type*} {R : α → β → Prop} {f : Nat → α} {g : Nat → β}
    {count other : Nat} :
    List.Forall₂ R ((List.range count).map f) ((List.range other).map g) ↔
      count = other ∧ ∀ i < count, R (f i) (g i) := by
  rw [List.forall₂_iff_get]
  simp only [List.length_map, List.length_range, List.get_eq_getElem, List.getElem_map,
    List.getElem_range]
  constructor
  · rintro ⟨rfl, h⟩
    exact ⟨rfl, fun i hi => h i hi hi⟩
  · rintro ⟨rfl, h⟩
    exact ⟨rfl, fun i hi _ => h i hi⟩

/-- Rows of elements are identical if their values are. -/
theorem Value.identical_ofElements {dim : Nat} {f g : Nat → Value} :
    (Value.ofElements dim f).identical (Value.ofElements dim g) =
      (List.range dim).all fun i => (f i).identical (g i) := by
  unfold Value.ofElements
  split
  · next h => simp [h]
  · rw [Bool.eq_iff_iff, identical_list_iff, forall₂_map_range]
    simp

/-- The hash of a row of elements is that of their values. -/
theorem Value.hash_ofElements {dim : Nat} {f : Nat → Value} :
    (Value.ofElements dim f).hash =
      if dim = 1 then (f 0).hash
      else (List.range dim).foldl (fun seed i => hashCombine seed (f i).hash)
        (UInt32.ofNat dim) := by
  unfold Value.ofElements
  split
  · rfl
  · simp [Value.hash, hashOfList_eq_foldl, List.foldl_map]

/-- Values are identical in memory if what is read is identical. -/
theorem Kind.identical_eq (kind : Kind) (m : Block) (a : Nat) (n : Block) (b : Nat) :
    kind.identical m a n b = (kind.read m a).identical (kind.read n b) := by
  induction kind using Kind.inductionOn generalizing m a n b with
  | bool mask => simp [Kind.identical, Kind.read, Value.identical, Block.bool]
  | scalar s => simp [Kind.identical, Kind.read, Value.identical]
  | string => simp [Kind.identical, Kind.read, Value.identical]
  | struct type ih =>
    rw [Kind.identical, Kind.read, Kind.read, TypeDescriptor.identicalFields_eq_all,
      TypeDescriptor.readFields_eq_map, TypeDescriptor.readFields_eq_map, Bool.eq_iff_iff,
      Value.identical_struct_iff, List.forall₂_map_left_iff, List.forall₂_map_right_iff,
      List.forall₂_same, List.all_eq_true]
    refine forall₂_congr fun p hp => ?_
    rw [Property.readAll, Property.readAll, Value.identical_ofElements, Property.identicalAll,
      Elements.all]
    simp only [ih p hp]
  | array element ih =>
    rw [Bool.eq_iff_iff, Kind.read, Kind.read, Value.identical_list_iff, forall₂_map_range]
    simp [Kind.identical, Elements.all, ih]
  | map key value ihKey ihValue =>
    rw [Bool.eq_iff_iff, Kind.read, Kind.read, Value.identical_map_iff]
    simp only [Kind.identical, Bool.and_eq_true, beq_iff_eq, List.all_eq_true, List.mem_range,
      List.length_map, List.length_range, List.forall_mem_map, List.find?_map,
      Option.map_eq_some_iff, Function.comp_def, ← ihKey]
    refine and_congr Iff.rfl (forall₂_congr fun i hi => ?_)
    split
    · next j hj => simp [hj, ihValue]
    · next hnone => simp [hnone]

/-- The hash of a value in memory is that of what is read. -/
theorem Kind.hash_eq (kind : Kind) (m : Block) (a : Nat) :
    kind.hash m a = (kind.read m a).hash := by
  induction kind using Kind.inductionOn generalizing m a with
  | bool mask => simp [Kind.hash, Kind.read, Value.hash, Block.bool]
  | scalar s => simp [Kind.hash, Kind.read, Value.hash]
  | string => simp [Kind.hash, Kind.read, Value.hash]
  | struct type ih =>
    rw [Kind.hash, Kind.read, TypeDescriptor.hashFields_eq_foldl,
      TypeDescriptor.readFields_eq_map, Value.hash, hashOfFields_eq_foldl, List.foldl_map]
    refine List.foldl_ext _ _ _ fun seed p hp => ?_
    rw [Property.readAll, Value.hash_ofElements, Property.hashAll, Elements.hashAll, Elements.hash]
    simp only [ih p hp]
    simp [Elements.address]
  | array element ih =>
    simp [Kind.hash, Kind.read, Value.hash, hashOfList_eq_foldl, List.foldl_map, Elements.hash, ih]
  | map key value ihKey ihValue =>
    simp [Kind.hash, Kind.read, Value.hash, hashOfPairs_eq_foldl, List.foldl_map, ihKey, ihValue]

namespace Property

theorem identicalFirst_eq (property : Property) (m : Block) (a : Nat) (n : Block) (b : Nat) :
    property.identicalFirst m a n b =
      (property.readFirst m a).identical (property.readFirst n b) :=
  property.kind.identical_eq m a n b

theorem identicalAll_eq (property : Property) (m : Block) (a : Nat) (n : Block) (b : Nat) :
    property.identicalAll m a n b =
      (property.readAll m a).identical (property.readAll n b) := by
  rw [readAll, readAll, Value.identical_ofElements, identicalAll, Elements.all]
  simp only [Kind.identical_eq]

theorem hashFirst_eq (property : Property) (m : Block) (a : Nat) :
    property.hashFirst m a = (property.readFirst m a).hash :=
  property.kind.hash_eq m a

theorem hashAll_eq (property : Property) (m : Block) (a : Nat) :
    property.hashAll m a = (property.readAll m a).hash := by
  rw [readAll, Value.hash_ofElements, hashAll, Elements.hashAll, Elements.hash]
  simp only [Kind.hash_eq]
  simp [Elements.address]

end Property

end PropertyReflection
