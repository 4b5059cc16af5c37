import Mathlib
import PropertyReflection.Proofs.IdentityLaws

/-!
# Values with one meaning

The bits of a true boolean are lost when it is copied, and `Value.meaning` forgets them.  Nothing
that is said about identity notices: values of one meaning are identical to the same values, have
one hash, and hold repeated keys in the same places.
-/

namespace PropertyReflection

/-- Induction on values.  A struct consists of the values of its properties, and a map of keys and
values. -/
@[elab_as_elim]
theorem Value.inductionOn {motive : Value → Prop} (x : Value)
    (bool : ∀ bits, motive (.bool bits))
    (scalar : ∀ s bits, motive (.scalar s bits))
    (text : ∀ contents, motive (.text contents))
    (struct : ∀ fields : List (String × Value), (∀ f ∈ fields, motive f.2) →
      motive (.struct fields))
    (list : ∀ elements : List Value, (∀ y ∈ elements, motive y) → motive (.list elements))
    (map : ∀ pairs : List (Value × Value), (∀ p ∈ pairs, motive p.1 ∧ motive p.2) →
      motive (.map pairs)) :
    motive x := by
  refine @Value.rec motive (fun fields => ∀ f ∈ fields, motive f.2)
    (fun elements => ∀ y ∈ elements, motive y)
    (fun pairs => ∀ p ∈ pairs, motive p.1 ∧ motive p.2)
    (fun f => motive f.2) (fun p => motive p.1 ∧ motive p.2)
    bool scalar text struct list map ?_ ?consField ?_ ?consElement ?_ ?consPair
    (fun _ _ h => h) (fun _ _ hkey hvalue => ⟨hkey, hvalue⟩) x
  case consField =>
    intro f rest hf hrest other hmem
    rcases List.mem_cons.mp hmem with rfl | hmem
    · exact hf
    · exact hrest other hmem
  case consElement =>
    intro y rest hy hrest other hmem
    rcases List.mem_cons.mp hmem with rfl | hmem
    · exact hy
    · exact hrest other hmem
  case consPair =>
    intro p rest hp hrest other hmem
    rcases List.mem_cons.mp hmem with rfl | hmem
    · exact hp
    · exact hrest other hmem
  all_goals
    intro _ hmem
    exact absurd hmem List.not_mem_nil

/-! ### Meanings part by part -/

theorem meaningOfFields_eq_map (fields : List (String × Value)) :
    meaningOfFields fields = fields.map fun f => (f.1, f.2.meaning) := by
  induction fields with
  | nil => rfl
  | cons f rest ih =>
    obtain ⟨name, value⟩ := f
    rw [meaningOfFields, ih, List.map_cons]

theorem meaningOfList_eq_map (elements : List Value) :
    meaningOfList elements = elements.map Value.meaning := by
  induction elements with
  | nil => rfl
  | cons x rest ih => rw [meaningOfList, ih, List.map_cons]

theorem meaningOfPairs_eq_map (pairs : List (Value × Value)) :
    meaningOfPairs pairs = pairs.map fun p => (p.1.meaning, p.2.meaning) := by
  induction pairs with
  | nil => rfl
  | cons p rest ih =>
    obtain ⟨key, value⟩ := p
    rw [meaningOfPairs, ih, List.map_cons]

namespace Value

/-- The meaning of a row is the row of the meanings. -/
theorem meaning_ofElements (dim : Nat) (f : Nat → Value) :
    (Value.ofElements dim f).meaning = Value.ofElements dim fun i => (f i).meaning := by
  unfold Value.ofElements
  split
  · rfl
  · rw [meaning, meaningOfList_eq_map, List.map_map]
    rfl

theorem truth_meaning (bits : UInt8) :
    ((if bits = 0 then 0 else 1 : UInt8) != 0) = (bits != 0) := by
  by_cases h : bits = 0 <;> simp [h]

/-- Booleans of one truth have one meaning. -/
theorem meaning_bool_eq {bits other : UInt8} (h : (bits != 0) = (other != 0)) :
    (Value.bool bits).meaning = (Value.bool other).meaning := by
  have hzero : bits = 0 ↔ other = 0 := by
    rw [Bool.eq_iff_iff, bne_iff_ne, bne_iff_ne] at h
    exact not_iff_not.mp h
  simp only [meaning, hzero]

/-! ### Identity looks at meanings only -/

/-- On either side of a comparison a value can be replaced by its meaning. -/
theorem meaning_identical_and_identical_meaning (x : Value) :
    (∀ y : Value, x.meaning.identical y = x.identical y) ∧
      ∀ y : Value, y.identical x.meaning = y.identical x := by
  induction x using Value.inductionOn with
  | bool bits =>
    constructor <;> intro y <;> cases y <;> simp only [meaning, identical, truth_meaning]
  | scalar s bits => exact ⟨fun _ => rfl, fun _ => rfl⟩
  | text contents => exact ⟨fun _ => rfl, fun _ => rfl⟩
  | struct fields ih =>
    rw [meaning, meaningOfFields_eq_map]
    constructor
    · intro y
      cases y with
      | struct ys =>
        rw [Bool.eq_iff_iff, identical_struct_iff, identical_struct_iff, List.forall₂_map_left_iff]
        exact forall₂_iff_of_mem fun f hf g _ => by rw [(ih f hf).1]
      | _ => simp only [identical]
    · intro y
      cases y with
      | struct ys =>
        rw [Bool.eq_iff_iff, identical_struct_iff, identical_struct_iff, List.forall₂_map_right_iff]
        exact forall₂_iff_of_mem fun g _ f hf => by rw [(ih f hf).2]
      | _ => simp only [identical]
  | list elements ih =>
    rw [meaning, meaningOfList_eq_map]
    constructor
    · intro y
      cases y with
      | list ys =>
        rw [Bool.eq_iff_iff, identical_list_iff, identical_list_iff, List.forall₂_map_left_iff]
        exact forall₂_iff_of_mem fun a ha b _ => by rw [(ih a ha).1]
      | _ => simp only [identical]
    · intro y
      cases y with
      | list ys =>
        rw [Bool.eq_iff_iff, identical_list_iff, identical_list_iff, List.forall₂_map_right_iff]
        exact forall₂_iff_of_mem fun b _ a ha => by rw [(ih a ha).2]
      | _ => simp only [identical]
  | map pairs ih =>
    rw [meaning, meaningOfPairs_eq_map]
    constructor
    · intro y
      cases y with
      | map qs =>
        rw [Bool.eq_iff_iff, identical_map_iff, identical_map_iff, List.length_map,
          List.forall_mem_map]
        refine and_congr Iff.rfl (forall₂_congr fun p hp => exists_congr fun q => ?_)
        simp only [(ih p hp).1, (ih p hp).2]
      | _ => simp only [identical]
    · intro y
      cases y with
      | map qs =>
        rw [Bool.eq_iff_iff, identical_map_iff, identical_map_iff, List.length_map]
        refine and_congr Iff.rfl (forall₂_congr fun q _ => ?_)
        have hfind : pairs.find? (fun p => p.1.meaning.identical q.1) =
            pairs.find? fun p => p.1.identical q.1 :=
          List.find?_congr fun p hp => (ih p hp).1.1 q.1
        rw [List.find?_map, Function.comp_def, hfind]
        constructor
        · rintro ⟨_, hfound, hvalue⟩
          obtain ⟨p, hp, rfl⟩ := Option.map_eq_some_iff.mp hfound
          rw [(ih p (List.mem_of_find?_eq_some hp)).2.2] at hvalue
          exact ⟨p, hp, hvalue⟩
        · rintro ⟨p, hp, hvalue⟩
          refine ⟨_, congrArg _ hp, ?_⟩
          rwa [(ih p (List.mem_of_find?_eq_some hp)).2.2]
      | _ => simp only [identical]

theorem meaning_identical (x y : Value) : x.meaning.identical y = x.identical y :=
  x.meaning_identical_and_identical_meaning.1 y

theorem identical_meaning (x y : Value) : y.identical x.meaning = y.identical x :=
  x.meaning_identical_and_identical_meaning.2 y

/-- Values of one meaning are identical to the same values. -/
theorem identical_eq_of_meaning_eq {x x' : Value} (h : x.meaning = x'.meaning) (y : Value) :
    x.identical y = x'.identical y := by
  rw [← meaning_identical x, h, meaning_identical]

/-- The same values are identical to values of one meaning. -/
theorem identical_eq_of_meaning_eq_right {x x' : Value} (h : x.meaning = x'.meaning) (y : Value) :
    y.identical x = y.identical x' := by
  rw [← identical_meaning x, h, identical_meaning]

/-- The hash of a value is that of its meaning. -/
theorem hash_meaning (x : Value) : x.meaning.hash = x.hash := by
  induction x using Value.inductionOn with
  | bool bits => rw [meaning, hash, hash, truth_meaning]
  | scalar s bits => rfl
  | text contents => rfl
  | struct fields ih =>
    rw [meaning, meaningOfFields_eq_map, hash, hash, hashOfFields_eq_foldl, hashOfFields_eq_foldl,
      List.foldl_map]
    exact List.foldl_ext _ _ _ fun seed f hf => by rw [ih f hf]
  | list elements ih =>
    rw [meaning, meaningOfList_eq_map, hash, hash, hashOfList_eq_foldl, hashOfList_eq_foldl,
      List.foldl_map, List.length_map]
    exact List.foldl_ext _ _ _ fun seed x hx => by rw [ih x hx]
  | map pairs ih =>
    rw [meaning, meaningOfPairs_eq_map, hash, hash, hashOfPairs_eq_foldl, hashOfPairs_eq_foldl,
      List.foldl_map, List.length_map]
    congr 1
    exact List.foldl_ext _ _ _ fun sum p hp => by rw [(ih p hp).1, (ih p hp).2]

/-- Values of one meaning have one hash. -/
theorem hash_eq_of_meaning_eq {x x' : Value} (h : x.meaning = x'.meaning) : x.hash = x'.hash := by
  rw [← hash_meaning x, h, hash_meaning]

/-- A map holds no key twice if the map of its meanings does not. -/
theorem keyed_of_keyed_meaning {x : Value} (h : x.meaning.Keyed) : x.Keyed := by
  induction x using Value.inductionOn with
  | bool bits => exact .bool bits
  | scalar s bits => exact .scalar s bits
  | text contents => exact .text contents
  | struct fields ih =>
    rw [meaning, meaningOfFields_eq_map] at h
    exact .struct fun f hf => ih f hf (h.field _ (List.mem_map_of_mem hf))
  | list elements ih =>
    rw [meaning, meaningOfList_eq_map] at h
    exact .list fun x hx => ih x hx (h.element _ (List.mem_map_of_mem hx))
  | map pairs ih =>
    rw [meaning, meaningOfPairs_eq_map] at h
    refine .map (fun p hp => (ih p hp).1 (h.key _ (List.mem_map_of_mem hp)))
      (fun p hp => (ih p hp).2 (h.value _ (List.mem_map_of_mem hp))) ?_
    have hunique := h.unique
    rw [KeysDiffer, List.pairwise_map] at hunique
    exact hunique.imp fun hpq => by rwa [meaning_identical, identical_meaning] at hpq

/-- The meaning of a value holds no key twice if the value does not. -/
theorem Keyed.meaning {x : Value} (h : x.Keyed) : x.meaning.Keyed := by
  induction h with
  | bool bits => exact .bool _
  | scalar s bits => exact .scalar s bits
  | text contents => exact .text contents
  | struct _ ih =>
    rw [Value.meaning, meaningOfFields_eq_map]
    exact .struct (List.forall_mem_map.mpr ih)
  | list _ ih =>
    rw [Value.meaning, meaningOfList_eq_map]
    exact .list (List.forall_mem_map.mpr ih)
  | map _ _ unique ihKeys ihValues =>
    rw [Value.meaning, meaningOfPairs_eq_map]
    refine .map (List.forall_mem_map.mpr ihKeys) (List.forall_mem_map.mpr ihValues) ?_
    rw [KeysDiffer, List.pairwise_map]
    exact unique.imp fun hpq => by rwa [meaning_identical, identical_meaning]

/-- A copy of a value without repeated keys has none. -/
theorem Keyed.of_meaning_eq {x x' : Value} (hx : x.Keyed) (h : x'.meaning = x.meaning) :
    x'.Keyed :=
  keyed_of_keyed_meaning (h ▸ hx.meaning)

end Value

end PropertyReflection
