import Mathlib
import PropertyReflection.Proofs.Meaning

/-!
# The order of pairs

A map keeps its pairs in some order, and no question about identity depends on it.  `Value.Alike`
relates values that differ in the order of the pairs of any maps in them, and besides in what stands
for a truth value or a zero.  Values that are alike have one hash and are identical to the same
values.

Both are proved part by part, but identity needs more: that a map without repeated keys stays one
when it is reordered, and when its keys are replaced by others that are alike.  So this is shown
together with what the values are identical to.
-/

namespace PropertyReflection

namespace Value

/-- Two values are the same but for the order in which maps store their pairs, at any depth.  A
boolean can have other bits for its truth, and a zero the other sign; every other number has its
bits, so that a NaN is alike itself. -/
inductive Alike : Value → Value → Prop where
  | bool {bits other : UInt8} (truth : (bits != 0) = (other != 0)) :
    Alike (.bool bits) (.bool other)
  | scalar {s : Scalar} {bits other : UInt64} (h : bits = other ∨ s.same bits other = true) :
    Alike (.scalar s bits) (.scalar s other)
  | text (contents : String) : Alike (.text contents) (.text contents)
  | struct {xs ys : List (String × Value)} (length_eq : xs.length = ys.length)
    (fields : ∀ z ∈ xs.zip ys, z.1.2.Alike z.2.2) : Alike (.struct xs) (.struct ys)
  | list {xs ys : List Value} (length_eq : xs.length = ys.length)
    (elements : ∀ z ∈ xs.zip ys, z.1.Alike z.2) : Alike (.list xs) (.list ys)
  | map {ps matched qs : List (Value × Value)} (length_eq : ps.length = matched.length)
    (keys : ∀ z ∈ ps.zip matched, z.1.1.Alike z.2.1)
    (values : ∀ z ∈ ps.zip matched, z.1.2.Alike z.2.2) (perm : matched.Perm qs) :
    Alike (.map ps) (.map qs)

/-! ### Lists of parts -/

section Forall₂

variable {α β γ : Type*} {R : α → β → Prop} {as : List α} {bs : List β} {cs : List γ}

/-- Lists of one length are related if the elements in the same place are. -/
theorem forall₂_of_zip (length_eq : as.length = bs.length)
    (h : ∀ z ∈ as.zip bs, R z.1 z.2) : List.Forall₂ R as bs :=
  List.forall₂_iff_zip.mpr ⟨length_eq, fun hmem => h _ hmem⟩

/-- A relation to the elements of a list is a property of them. -/
theorem forall_right_of_forall₂ {P : β → Prop} (h : List.Forall₂ R as bs)
    (right : ∀ a ∈ as, ∀ b, R a b → P b) : ∀ b ∈ bs, P b := by
  intro b hb
  have hflip : List.Forall₂ (fun b a => R a b) bs as := h.flip
  obtain ⟨a, ha, hab⟩ := exists_related_of_mem hflip hb
  exact right a ha b hab

/-- Related lists are related to the same third lists, if their elements are related to the same
elements. -/
theorem forall₂_congr_left {S : α → γ → Prop} {T : β → γ → Prop} (h : List.Forall₂ R as bs)
    (same : ∀ a ∈ as, ∀ b ∈ bs, R a b → ∀ c ∈ cs, S a c ↔ T b c) :
    List.Forall₂ S as cs ↔ List.Forall₂ T bs cs := by
  constructor
  · intro hS
    exact forall₂_comp_of_mem h.flip hS fun b hb a ha c hc hab hac =>
      (same a ha b hb hab c hc).mp hac
  · intro hT
    exact forall₂_comp_of_mem h hT fun a ha b hb c hc hab hbc =>
      (same a ha b hb hab c hc).mpr hbc

end Forall₂

/-- What holds of every element with itself holds along the list. -/
theorem forall_zip_self {α : Type*} {R : α → α → Prop} {as : List α} (h : ∀ a ∈ as, R a a) :
    ∀ z ∈ as.zip as, R z.1 z.2 :=
  fun _ hz => (List.forall₂_iff_zip.mp (List.forall₂_same.mpr h)).2 hz

/-! ### Reordering -/

theorem Alike.refl (x : Value) : x.Alike x := by
  induction x using Value.inductionOn with
  | bool bits => exact .bool rfl
  | scalar s bits => exact .scalar (Or.inl rfl)
  | text contents => exact .text contents
  | struct fields ih =>
    exact .struct rfl (@forall_zip_self _ (fun f g => f.2.Alike g.2) fields ih)
  | list elements ih => exact .list rfl (forall_zip_self ih)
  | map pairs ih =>
    exact .map rfl (@forall_zip_self _ (fun p q => p.1.Alike q.1) pairs fun p hp => (ih p hp).1)
      (@forall_zip_self _ (fun p q => p.2.Alike q.2) pairs fun p hp => (ih p hp).2)
      (List.Perm.refl pairs)

/-- Permuting the pairs of a map gives a map that is alike. -/
theorem Alike.of_perm {ps qs : List (Value × Value)} (h : ps.Perm qs) :
    (Value.map ps).Alike (.map qs) :=
  .map rfl (@forall_zip_self _ (fun p q => p.1.Alike q.1) ps fun p _ => .refl p.1)
    (@forall_zip_self _ (fun p q => p.2.Alike q.2) ps fun p _ => .refl p.2) h

/-! ### Hashes -/

/-- Values that are alike hash alike. -/
theorem Alike.hash_eq {x y : Value} (h : x.Alike y) : x.hash = y.hash := by
  induction h with
  | bool truth => rw [hash, hash, truth]
  | scalar h =>
    rw [hash, hash]
    rcases h with rfl | hsame
    · rfl
    · exact Scalar.hash_eq_of_same hsame
  | text contents => rfl
  | struct length_eq _ ih =>
    rw [hash, hash, hashOfFields_eq_foldl, hashOfFields_eq_foldl]
    exact foldl_eq_of_forall₂ (forall₂_of_zip length_eq fun z hz seed => by rw [ih z hz]) 0
  | list length_eq _ ih =>
    rw [hash, hash, hashOfList_eq_foldl, hashOfList_eq_foldl, length_eq]
    exact foldl_eq_of_forall₂ (forall₂_of_zip length_eq fun z hz seed => by rw [ih z hz]) _
  | @map ps matched qs length_eq _ _ perm ihKeys ihValues =>
    have hsum : hashOfPairs 0 ps = hashOfPairs 0 matched := by
      rw [hashOfPairs_eq_foldl, hashOfPairs_eq_foldl]
      exact foldl_eq_of_forall₂ (forall₂_of_zip length_eq fun z hz sum => by
        rw [ihKeys z hz, ihValues z hz]) 0
    rw [hash, hash, hsum, hashOfPairs_perm perm, length_eq, perm.length_eq]

/-! ### Identity -/

/-- A value has no repeated keys and is identical to the same values as another one. -/
structure StandsFor (y x : Value) : Prop where
  keyed : y.Keyed
  identical_eq : ∀ z : Value, z.Keyed → x.identical z = y.identical z

/-- Keys that are not identical are replaced by keys that are not identical. -/
theorem StandsFor.identical_eq_false {x x' y y' : Value} (hx : x.Keyed) (hx' : x'.Keyed)
    (h : y.StandsFor x) (h' : y'.StandsFor x') (hne : x.identical x' = false) :
    y.identical y' = false := by
  rw [← h.identical_eq y' h'.keyed, identical_comm hx h'.keyed, ← h'.identical_eq x hx,
    identical_comm hx' hx, hne]

/-- When the keys of a map are replaced, none of them is repeated. -/
theorem keysDiffer_of_forall₂ {ps qs : List (Value × Value)}
    (h : List.Forall₂ (fun p q => q.1.StandsFor p.1) ps qs) (keyed : ∀ p ∈ ps, p.1.Keyed)
    (unique : KeysDiffer ps) : KeysDiffer qs := by
  induction h with
  | nil => exact List.Pairwise.nil
  | @cons p q ps qs hpq hrest ih =>
    obtain ⟨hdiffer, hunique⟩ := List.pairwise_cons.mp unique
    have hp : p.1.Keyed := keyed p List.mem_cons_self
    have hkeyed : ∀ r ∈ ps, r.1.Keyed := fun r hr => keyed r (List.mem_cons_of_mem _ hr)
    refine List.pairwise_cons.mpr ⟨?_, ih hkeyed hunique⟩
    exact forall_right_of_forall₂ hrest fun r hr s hrs =>
      StandsFor.identical_eq_false hp (hkeyed r hr) hpq hrs (hdiffer r hr)

/-- Reordering the pairs of a map repeats no key. -/
theorem keysDiffer_of_perm {ps qs : List (Value × Value)} (h : ps.Perm qs)
    (keyed : ∀ p ∈ ps, p.1.Keyed) (unique : KeysDiffer ps) : KeysDiffer qs := by
  -- among keys without repeated keys it does not matter which one comes first
  have hdiffer : ps.Pairwise fun p q => p.1.Keyed ∧ q.1.Keyed ∧ p.1.identical q.1 = false :=
    unique.imp_of_mem fun hp hq hpq => ⟨keyed _ hp, keyed _ hq, hpq⟩
  have hperm : qs.Pairwise fun p q => p.1.Keyed ∧ q.1.Keyed ∧ p.1.identical q.1 = false := by
    refine h.pairwise hdiffer fun hpq => ?_
    exact ⟨hpq.2.1, hpq.1, by rw [identical_comm hpq.2.1 hpq.1, hpq.2.2]⟩
  exact hperm.imp fun hpq => hpq.2.2

/-- When the pairs of a map are replaced and reordered, the map is identical to the same maps. -/
theorem identical_map_congr {ps matched qs rs : List (Value × Value)}
    (h : List.Forall₂ (fun p q => q.1.StandsFor p.1 ∧ q.2.StandsFor p.2) ps matched)
    (perm : matched.Perm qs) (hps : (Value.map ps).Keyed) (hqs : (Value.map qs).Keyed)
    (hrs : (Value.map rs).Keyed) :
    (Value.map ps).identical (.map rs) = (Value.map qs).identical (.map rs) := by
  have hpairs : ∀ other : List (Value × Value), other.Perm rs →
      (List.Forall₂ PairIdentical ps other ↔ List.Forall₂ PairIdentical matched other) := by
    intro other hother
    refine forall₂_congr_left h fun p _ q _ hpq r hr => ?_
    have hr : r ∈ rs := hother.mem_iff.mp hr
    rw [PairIdentical, PairIdentical, hpq.1.identical_eq r.1 (hrs.key r hr),
      hpq.2.identical_eq r.2 (hrs.value r hr)]
  rw [Bool.eq_iff_iff,
    identityOn_keyed.identical_map_iff hps.key hrs.key hps.unique hrs.unique,
    identityOn_keyed.identical_map_iff hqs.key hrs.key hqs.unique hrs.unique]
  constructor
  · rintro ⟨other, hforall, hother⟩
    obtain ⟨reordered, hreordered, hsame⟩ :=
      List.perm_comp_forall₂ perm.symm ((hpairs other hother).mp hforall)
    exact ⟨reordered, hreordered, hsame.trans hother⟩
  · rintro ⟨other, hforall, hother⟩
    obtain ⟨reordered, hreordered, hsame⟩ := List.perm_comp_forall₂ perm hforall
    exact ⟨reordered, (hpairs reordered (hsame.trans hother)).mpr hreordered,
      hsame.trans hother⟩

/-- A value that is alike one without repeated keys stands for it. -/
theorem Alike.standsFor {x y : Value} (h : x.Alike y) (hx : x.Keyed) : y.StandsFor x := by
  induction h with
  | @bool bits other truth =>
    refine ⟨.bool other, fun z _ => ?_⟩
    cases z <;> simp only [identical, truth]
  | @scalar s bits other h =>
    refine ⟨.scalar s other, fun z hz => ?_⟩
    rcases h with rfl | hsame
    · rfl
    · have hidentical : (Value.scalar s bits).identical (.scalar s other) = true := by
        rw [identical, hsame, decide_eq_true rfl, Bool.and_self]
      exact identical_congr_left hx (.scalar s other) hz hidentical
  | text contents => exact ⟨.text contents, fun _ _ => rfl⟩
  | @struct xs ys length_eq _ ih =>
    have hparts : List.Forall₂ (fun x y => y.2.StandsFor x.2) xs ys :=
      forall₂_of_zip length_eq fun z hz => ih z hz (hx.field _ (List.of_mem_zip hz).1)
    refine ⟨.struct (forall_right_of_forall₂ hparts fun _ _ _ hab => hab.keyed), fun z hz => ?_⟩
    cases z with
    | struct zs =>
      rw [Bool.eq_iff_iff, identical_struct_iff, identical_struct_iff]
      refine forall₂_congr_left hparts fun a _ b _ hab c hc => ?_
      rw [hab.identical_eq c.2 (hz.field c hc)]
    | _ => simp only [identical]
  | @list xs ys length_eq _ ih =>
    have hparts : List.Forall₂ (fun x y => y.StandsFor x) xs ys :=
      forall₂_of_zip length_eq fun z hz => ih z hz (hx.element _ (List.of_mem_zip hz).1)
    refine ⟨.list (forall_right_of_forall₂ hparts fun _ _ _ hab => hab.keyed), fun z hz => ?_⟩
    cases z with
    | list zs =>
      rw [Bool.eq_iff_iff, identical_list_iff, identical_list_iff]
      refine forall₂_congr_left hparts fun a _ b _ hab c hc => ?_
      rw [hab.identical_eq c (hz.element c hc)]
    | _ => simp only [identical]
  | @map ps matched qs length_eq _ _ perm ihKeys ihValues =>
    have hpairs : List.Forall₂ (fun p q => q.1.StandsFor p.1 ∧ q.2.StandsFor p.2) ps matched := by
      refine forall₂_of_zip length_eq fun z hz => ?_
      have hp : z.1 ∈ ps := (List.of_mem_zip hz).1
      exact ⟨ihKeys z hz (hx.key _ hp), ihValues z hz (hx.value _ hp)⟩
    have hkeys := forall_right_of_forall₂ hpairs fun _ _ _ hpq => hpq.1.keyed
    have hvalues := forall_right_of_forall₂ hpairs fun _ _ _ hpq => hpq.2.keyed
    have hunique : KeysDiffer matched :=
      keysDiffer_of_forall₂ (hpairs.imp fun _ _ hpq => hpq.1) hx.key hx.unique
    have hqs : (Value.map qs).Keyed :=
      .map (fun q hq => hkeys q (perm.mem_iff.mpr hq)) (fun q hq => hvalues q (perm.mem_iff.mpr hq))
        (keysDiffer_of_perm perm hkeys hunique)
    refine ⟨hqs, fun z hz => ?_⟩
    cases z with
    | map rs => exact identical_map_congr hpairs perm hx hqs hz
    | _ => simp only [identical]

variable {x y : Value}

/-- Values that are alike are identical to the same values. -/
theorem Alike.identical_congr_left (h : x.Alike y) (hx : x.Keyed) {z : Value} (hz : z.Keyed) :
    x.identical z = y.identical z :=
  (h.standsFor hx).identical_eq z hz

/-- The same values are identical to values that are alike. -/
theorem Alike.identical_congr_right (h : x.Alike y) (hx : x.Keyed) {z : Value} (hz : z.Keyed) :
    z.identical x = z.identical y := by
  rw [identical_comm hz hx, identical_comm hz (h.standsFor hx).keyed, h.identical_congr_left hx hz]

/-- Values that are alike are identical, if there is no NaN in them. -/
theorem Alike.identical_of_not_hasNaN (h : x.Alike y) (hx : x.Keyed) (hnan : ¬ x.HasNaN) :
    x.identical y = true ∧ y.identical x = true := by
  have hself : x.identical x = true := identical_self_of_not_hasNaN hx hnan
  constructor
  · rw [← h.identical_congr_right hx hx, hself]
  · rw [← h.identical_congr_left hx hx, hself]

end Value

end PropertyReflection
