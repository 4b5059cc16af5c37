import Mathlib
import PropertyReflection.Proofs.ValueIdentity

/-!
# The laws of identity

Identity is a partial equivalence: symmetric and transitive, but a NaN is not identical to itself.
All of this rests on maps that hold no key twice, which `Value.Keyed` demands at every depth.  Two
such maps are identical if and only if their pairs can be matched one to one, so that the search
from one side that compares them finds the same from the other side.

### Outline

* `KeysDiffer` and `Value.Keyed`, the values that operations on maps produce;
* `IdentityOn.identical_map_iff`, which turns the search into a matching wherever the laws
  hold for the keys;
* `identityOn_keyed`, the laws for all such values, by induction on their size;
* `Value.hash_eq_of_identical`, `Value.identical_eq_false_of_hasNaN` and
  `Value.identical_self_iff`.
-/

namespace PropertyReflection

/-! ### Maps without repeated keys -/

/-- No key is identical to an earlier one. -/
def KeysDiffer (pairs : List (Value × Value)) : Prop :=
  pairs.Pairwise fun p q => p.1.identical q.1 = false

namespace Value

/-- The values in which no map holds a key twice, at any depth. -/
inductive Keyed : Value → Prop where
  | bool (bits : UInt8) : Keyed (.bool bits)
  | scalar (s : Scalar) (bits : UInt64) : Keyed (.scalar s bits)
  | text (contents : String) : Keyed (.text contents)
  | struct {fields : List (String × Value)} (h : ∀ f ∈ fields, f.2.Keyed) :
    Keyed (.struct fields)
  | list {elements : List Value} (h : ∀ x ∈ elements, x.Keyed) : Keyed (.list elements)
  | map {pairs : List (Value × Value)} (keys : ∀ p ∈ pairs, p.1.Keyed)
    (values : ∀ p ∈ pairs, p.2.Keyed) (unique : KeysDiffer pairs) : Keyed (.map pairs)

/-- The values that contain a NaN, as a key or anywhere else. -/
inductive HasNaN : Value → Prop where
  | scalar {s : Scalar} {bits : UInt64} (h : s.isNaN bits = true) : HasNaN (.scalar s bits)
  | field {fields : List (String × Value)} {f : String × Value} (mem : f ∈ fields)
    (h : f.2.HasNaN) : HasNaN (.struct fields)
  | element {elements : List Value} {x : Value} (mem : x ∈ elements) (h : x.HasNaN) :
    HasNaN (.list elements)
  | key {pairs : List (Value × Value)} {p : Value × Value} (mem : p ∈ pairs) (h : p.1.HasNaN) :
    HasNaN (.map pairs)
  | value {pairs : List (Value × Value)} {p : Value × Value} (mem : p ∈ pairs)
    (h : p.2.HasNaN) : HasNaN (.map pairs)

variable {x y z : Value} {fields : List (String × Value)} {elements : List Value}
  {pairs : List (Value × Value)}

namespace Keyed

theorem field (h : (Value.struct fields).Keyed) : ∀ f ∈ fields, f.2.Keyed := by
  cases h with
  | struct h => exact h

theorem element (h : (Value.list elements).Keyed) : ∀ x ∈ elements, x.Keyed := by
  cases h with
  | list h => exact h

theorem key (h : (Value.map pairs).Keyed) : ∀ p ∈ pairs, p.1.Keyed := by
  cases h with
  | map keys _ _ => exact keys

theorem value (h : (Value.map pairs).Keyed) : ∀ p ∈ pairs, p.2.Keyed := by
  cases h with
  | map _ values _ => exact values

theorem unique (h : (Value.map pairs).Keyed) : KeysDiffer pairs := by
  cases h with
  | map _ _ unique => exact unique

end Keyed

/-! ### What a value is identical to -/

theorem exists_of_identical_bool {bits : UInt8} (h : (Value.bool bits).identical y = true) :
    ∃ other, y = .bool other ∧ ((bits != 0) = (other != 0)) := by
  cases y with
  | bool other => exact ⟨other, rfl, by simpa [identical] using h⟩
  | _ => simp [identical] at h

theorem exists_of_identical_scalar {s : Scalar} {bits : UInt64}
    (h : (Value.scalar s bits).identical y = true) :
    ∃ other, y = .scalar s other ∧ s.same bits other = true := by
  cases y with
  | scalar t other =>
    rw [identical, Bool.and_eq_true, decide_eq_true_eq] at h
    obtain ⟨rfl, h⟩ := h
    exact ⟨other, rfl, h⟩
  | _ => simp [identical] at h

theorem eq_of_identical_text {contents : String}
    (h : (Value.text contents).identical y = true) : y = .text contents := by
  cases y with
  | text other =>
    rw [identical, beq_iff_eq] at h
    rw [h]
  | _ => simp [identical] at h

theorem exists_of_identical_struct {xs : List (String × Value)}
    (h : (Value.struct xs).identical y = true) :
    ∃ ys, y = .struct ys ∧ List.Forall₂ (fun x y => x.2.identical y.2 = true) xs ys := by
  cases y with
  | struct ys => exact ⟨ys, rfl, identical_struct_iff.mp h⟩
  | _ => simp [identical] at h

theorem exists_of_identical_list {xs : List Value} (h : (Value.list xs).identical y = true) :
    ∃ ys, y = .list ys ∧ List.Forall₂ (fun x y => x.identical y = true) xs ys := by
  cases y with
  | list ys => exact ⟨ys, rfl, identical_list_iff.mp h⟩
  | _ => simp [identical] at h

theorem exists_of_identical_map {ps : List (Value × Value)}
    (h : (Value.map ps).identical y = true) : ∃ qs, y = .map qs := by
  cases y with
  | map qs => exact ⟨qs, rfl⟩
  | _ => simp [identical] at h

/-! ### Parts are smaller -/

theorem sizeOf_field_lt {f : String × Value} (h : f ∈ fields) :
    sizeOf f.2 < sizeOf (Value.struct fields) := by
  have := List.sizeOf_lt_of_mem h
  obtain ⟨name, value⟩ := f
  simp only [Prod.mk.sizeOf_spec, struct.sizeOf_spec] at this ⊢
  omega

theorem sizeOf_element_lt (h : x ∈ elements) :
    sizeOf x < sizeOf (Value.list elements) := by
  have := List.sizeOf_lt_of_mem h
  simp only [list.sizeOf_spec]
  omega

theorem sizeOf_pair_lt {p : Value × Value} (h : p ∈ pairs) :
    sizeOf p.1 < sizeOf (Value.map pairs) ∧ sizeOf p.2 < sizeOf (Value.map pairs) := by
  have := List.sizeOf_lt_of_mem h
  obtain ⟨key, value⟩ := p
  simp only [Prod.mk.sizeOf_spec, map.sizeOf_spec] at this ⊢
  omega

end Value

/-! ### Relations between lists -/

section Forall₂

variable {α β γ : Type*} {R : α → β → Prop} {as : List α} {bs : List β} {cs : List γ}

/-- Lists that are related element by element are related the other way round, if their elements
are. -/
theorem forall₂_flip_of_mem {S : β → α → Prop} (h : List.Forall₂ R as bs)
    (flip : ∀ a ∈ as, ∀ b ∈ bs, R a b → S b a) : List.Forall₂ S bs as := by
  induction h with
  | nil => exact .nil
  | cons hab _ ih =>
    refine .cons (flip _ (by simp) _ (by simp) hab) (ih fun a ha b hb => ?_)
    exact flip a (List.mem_cons_of_mem _ ha) b (List.mem_cons_of_mem _ hb)

/-- Two relations between lists compose, if they do for the elements. -/
theorem forall₂_comp_of_mem {S : β → γ → Prop} {T : α → γ → Prop} (h : List.Forall₂ R as bs)
    (h' : List.Forall₂ S bs cs) (comp : ∀ a ∈ as, ∀ b ∈ bs, ∀ c ∈ cs, R a b → S b c → T a c) :
    List.Forall₂ T as cs := by
  induction h generalizing cs with
  | nil =>
    cases h'
    exact .nil
  | cons hab _ ih =>
    cases h' with
    | cons hbc hrest =>
      refine .cons (comp _ (by simp) _ (by simp) _ (by simp) hab hbc)
        (ih hrest fun a ha b hb c hc => ?_)
      exact comp a (List.mem_cons_of_mem _ ha) b (List.mem_cons_of_mem _ hb) c
        (List.mem_cons_of_mem _ hc)

/-- An element of a list is related to some element of a list that is related to it. -/
theorem exists_related_of_mem (h : List.Forall₂ R as bs) {a : α} (ha : a ∈ as) :
    ∃ b ∈ bs, R a b := by
  induction h with
  | nil => simp at ha
  | @cons a' b _ _ hab _ ih =>
    rcases List.mem_cons.mp ha with rfl | ha
    · exact ⟨b, List.mem_cons_self, hab⟩
    · obtain ⟨c, hc, hac⟩ := ih ha
      exact ⟨c, List.mem_cons_of_mem _ hc, hac⟩

/-- A relation between lists may be weakened for their elements. -/
theorem forall₂_of_mem {S : α → β → Prop} (h : List.Forall₂ R as bs)
    (weaken : ∀ a ∈ as, ∀ b ∈ bs, R a b → S a b) : List.Forall₂ S as bs :=
  (forall₂_flip_of_mem (S := flip S) h weaken).flip

/-- Relations that agree on the elements relate the same lists. -/
theorem forall₂_iff_of_mem {S : α → β → Prop} (h : ∀ a ∈ as, ∀ b ∈ bs, R a b ↔ S a b) :
    List.Forall₂ R as bs ↔ List.Forall₂ S as bs :=
  ⟨fun hR => forall₂_of_mem hR fun a ha b hb => (h a ha b hb).mp,
    fun hS => forall₂_of_mem hS fun a ha b hb => (h a ha b hb).mpr⟩

/-- Folds over related lists agree, if related elements do the same. -/
theorem foldl_eq_of_forall₂ {δ : Type*} {f : δ → α → δ} {g : δ → β → δ}
    (h : List.Forall₂ (fun a b => ∀ d, f d a = g d b) as bs) (d : δ) :
    as.foldl f d = bs.foldl g d := by
  induction h generalizing d with
  | nil => rfl
  | cons hab _ ih => rw [List.foldl_cons, List.foldl_cons, hab, ih]

end Forall₂

/-- The hash of pairs does not depend on their order. -/
theorem hashOfPairs_perm {ps qs : List (Value × Value)} (h : ps.Perm qs) (sum : UInt32) :
    hashOfPairs sum ps = hashOfPairs sum qs := by
  rw [hashOfPairs_eq_foldl, hashOfPairs_eq_foldl]
  refine h.foldl_eq' (fun p _ q _ sum => ?_) sum
  rw [UInt32.add_assoc, UInt32.add_assoc, UInt32.add_comm (hashCombine _ _)]

/-! ### Identical maps are matched pair by pair -/

/-- Two pairs with identical keys and identical values. -/
def PairIdentical (p q : Value × Value) : Prop :=
  p.1.identical q.1 = true ∧ p.2.identical q.2 = true

/-- The laws of identity among the values that satisfy `P`. -/
structure IdentityOn (P : Value → Prop) : Prop where
  symm : ∀ {x y : Value}, P x → P y → x.identical y = true → y.identical x = true
  trans : ∀ {x y z : Value}, P x → P y → P z → x.identical y = true → y.identical z = true →
    x.identical z = true

namespace IdentityOn

variable {P : Value → Prop} {ps qs matched : List (Value × Value)}

/-- If every pair is found among equally many others, the pairs can be matched.  A pair that was
found for one key is found for no other one, so it can be taken out before the rest is matched. -/
theorem exists_matching (laws : IdentityOn P) (hps : ∀ p ∈ ps, P p.1) (hqs : ∀ q ∈ qs, P q.1)
    (unique : KeysDiffer ps) (length_eq : ps.length = qs.length)
    (found : ∀ p ∈ ps, ∃ q, qs.find? (fun q => q.1.identical p.1) = some q ∧
      p.2.identical q.2 = true) :
    ∃ matched : List (Value × Value), List.Forall₂ PairIdentical ps matched ∧
      matched.Perm qs := by
  induction ps generalizing qs with
  | nil =>
    have hnil : qs = [] := List.length_eq_zero_iff.mp length_eq.symm
    exact ⟨[], .nil, by rw [hnil]⟩
  | cons p rest ih =>
    obtain ⟨q, hfind, hvalue⟩ := found p List.mem_cons_self
    obtain ⟨hkey, front, back, rfl, hfront⟩ := List.find?_eq_some_iff_append.mp hfind
    have hq : P q.1 := hqs q (by simp)
    have hp : P p.1 := hps p List.mem_cons_self
    have hpq : p.1.identical q.1 = true := laws.symm hq hp hkey
    have hrest : ∀ r ∈ rest, P r.1 := fun r hr => hps r (List.mem_cons_of_mem _ hr)
    obtain ⟨hdiffer, hunique⟩ := List.pairwise_cons.mp unique
    -- the key of `q` is identical to no other key of the first map
    have hother : ∀ r ∈ rest, q.1.identical r.1 = false := by
      intro r hr
      by_contra h
      rw [Bool.not_eq_false] at h
      have hpr := laws.trans hp hq (hrest r hr) hpq h
      rw [hdiffer r hr] at hpr
      exact Bool.false_ne_true hpr
    have hremaining : ∀ r ∈ front ++ back, P r.1 := by
      intro r hr
      rcases List.mem_append.mp hr with hr | hr <;> exact hqs r (by simp [hr])
    have hlength : rest.length = (front ++ back).length := by
      simp only [List.length_cons, List.length_append] at length_eq ⊢
      omega
    have hfound : ∀ r ∈ rest, ∃ s, (front ++ back).find? (fun q => q.1.identical r.1) = some s ∧
        r.2.identical s.2 = true := by
      intro r hr
      obtain ⟨s, hs, hsvalue⟩ := found r (List.mem_cons_of_mem _ hr)
      rw [List.find?_append, List.find?_cons, hother r hr] at hs
      rw [List.find?_append]
      exact ⟨s, hs, hsvalue⟩
    obtain ⟨matched, hmatched, hperm⟩ := ih hrest hremaining hunique hlength hfound
    exact ⟨q :: matched, .cons ⟨hpq, hvalue⟩ hmatched,
      (hperm.cons q).trans List.perm_middle.symm⟩

/-- If the pairs can be matched, each is found: a key before the matched one that is identical would
be identical to the matched one too. -/
theorem found_of_matching (laws : IdentityOn P) (hps : ∀ p ∈ ps, P p.1) (hqs : ∀ q ∈ qs, P q.1)
    (unique : KeysDiffer qs) (hmatched : List.Forall₂ PairIdentical ps matched)
    (hperm : matched.Perm qs) {p : Value × Value} (hp : p ∈ ps) :
    ∃ q, qs.find? (fun q => q.1.identical p.1) = some q ∧ p.2.identical q.2 = true := by
  obtain ⟨q, hq, hkey, hvalue⟩ := exists_related_of_mem hmatched hp
  have hq : q ∈ qs := hperm.mem_iff.mp hq
  have hPp := hps p hp
  have hPq := hqs q hq
  obtain ⟨front, back, rfl⟩ := List.append_of_mem hq
  refine ⟨q, List.find?_eq_some_iff_append.mpr
    ⟨laws.symm hPp hPq hkey, front, back, rfl, fun r hr => ?_⟩, hvalue⟩
  have hdiffer := (List.pairwise_append.mp unique).2.2 r hr q List.mem_cons_self
  rw [Bool.not_eq_true']
  by_contra h
  rw [Bool.not_eq_false] at h
  have hrq := laws.trans (hqs r (by simp [hr])) hPp hPq h hkey
  rw [hdiffer] at hrq
  exact Bool.false_ne_true hrq

/-- Two maps are identical if and only if their pairs can be matched one to one. -/
theorem identical_map_iff (laws : IdentityOn P) (hps : ∀ p ∈ ps, P p.1) (hqs : ∀ q ∈ qs, P q.1)
    (unique : KeysDiffer ps) (unique' : KeysDiffer qs) :
    (Value.map ps).identical (.map qs) = true ↔
      ∃ matched : List (Value × Value), List.Forall₂ PairIdentical ps matched ∧
        matched.Perm qs := by
  rw [Value.identical_map_iff]
  constructor
  · rintro ⟨length_eq, found⟩
    exact laws.exists_matching hps hqs unique length_eq found
  · rintro ⟨matched, hmatched, hperm⟩
    exact ⟨hmatched.length_eq.trans hperm.length_eq,
      fun p hp => laws.found_of_matching hps hqs unique' hmatched hperm hp⟩

end IdentityOn

/-! ### The laws hold for values without repeated keys -/

namespace Scalar

theorem same_trans {s : Scalar} {x y z : UInt64} (h : s.same x y = true)
    (h' : s.same y z = true) : s.same x z = true := by
  unfold same at *
  split at h <;> grind

/-- The two zeros have one hash; other numbers that are equal have the same bits. -/
theorem hash_eq_of_same {s : Scalar} {x y : UInt64} (h : s.same x y = true) :
    s.hash x = s.hash y := by
  cases s with
  | float32 | float64 =>
    simp only [same, isFloat, if_true, Bool.and_eq_true, Bool.or_eq_true, beq_iff_eq] at h
    rcases h.2 with rfl | ⟨hx, hy⟩
    · rfl
    · simp [hash, hx, hy]
  | _ =>
    have hxy : x = y := by simpa [same, isFloat] using h
    rw [hxy]

end Scalar

/-- The values without repeated keys whose size is below a bound. -/
def KeyedBelow (bound : Nat) (x : Value) : Prop :=
  x.Keyed ∧ sizeOf x < bound

namespace KeyedBelow

variable {bound : Nat} {fields : List (String × Value)} {elements : List Value}
  {pairs : List (Value × Value)}

theorem field (h : KeyedBelow (bound + 1) (.struct fields)) :
    ∀ f ∈ fields, KeyedBelow bound f.2 := by
  intro f mem
  have hlt := Value.sizeOf_field_lt mem
  have hsize := h.2
  exact ⟨h.1.field f mem, by omega⟩

theorem element (h : KeyedBelow (bound + 1) (.list elements)) :
    ∀ x ∈ elements, KeyedBelow bound x := by
  intro x mem
  have hlt := Value.sizeOf_element_lt mem
  have hsize := h.2
  exact ⟨h.1.element x mem, by omega⟩

theorem key (h : KeyedBelow (bound + 1) (.map pairs)) : ∀ p ∈ pairs, KeyedBelow bound p.1 := by
  intro p mem
  have hlt := (Value.sizeOf_pair_lt mem).1
  have hsize := h.2
  exact ⟨h.1.key p mem, by omega⟩

theorem value (h : KeyedBelow (bound + 1) (.map pairs)) : ∀ p ∈ pairs, KeyedBelow bound p.2 := by
  intro p mem
  have hlt := (Value.sizeOf_pair_lt mem).2
  have hsize := h.2
  exact ⟨h.1.value p mem, by omega⟩

end KeyedBelow

namespace IdentityOn

variable {bound : Nat} {x y z : Value}

/-- Symmetry for values whose parts obey the laws. -/
theorem symm_succ (laws : IdentityOn (KeyedBelow bound)) (hx : KeyedBelow (bound + 1) x)
    (hy : KeyedBelow (bound + 1) y) (h : x.identical y = true) : y.identical x = true := by
  cases x with
  | bool bits =>
    obtain ⟨other, rfl, hbits⟩ := Value.exists_of_identical_bool h
    rw [Value.identical, hbits, beq_self_eq_true]
  | scalar s bits =>
    obtain ⟨other, rfl, hsame⟩ := Value.exists_of_identical_scalar h
    rw [Value.identical, Scalar.same_comm, hsame, decide_eq_true rfl, Bool.and_self]
  | text contents =>
    obtain rfl := Value.eq_of_identical_text h
    exact h
  | struct xs =>
    obtain ⟨ys, rfl, hparts⟩ := Value.exists_of_identical_struct h
    exact Value.identical_struct_iff.mpr (forall₂_flip_of_mem hparts fun a ha b hb =>
      laws.symm (hx.field _ ha) (hy.field _ hb))
  | list xs =>
    obtain ⟨ys, rfl, hparts⟩ := Value.exists_of_identical_list h
    exact Value.identical_list_iff.mpr (forall₂_flip_of_mem hparts fun a ha b hb =>
      laws.symm (hx.element _ ha) (hy.element _ hb))
  | map ps =>
    obtain ⟨qs, rfl⟩ := Value.exists_of_identical_map h
    obtain ⟨matched, hmatched, hperm⟩ :=
      (laws.identical_map_iff hx.key hy.key hx.1.unique hy.1.unique).mp h
    have hback : List.Forall₂ PairIdentical matched ps := by
      refine forall₂_flip_of_mem hmatched fun p hp q hq hpq => ?_
      have hq : q ∈ qs := hperm.mem_iff.mp hq
      exact ⟨laws.symm (hx.key p hp) (hy.key q hq) hpq.1,
        laws.symm (hx.value p hp) (hy.value q hq) hpq.2⟩
    exact (laws.identical_map_iff hy.key hx.key hy.1.unique hx.1.unique).mpr
      (List.perm_comp_forall₂ hperm.symm hback)

/-- Transitivity for values whose parts obey the laws. -/
theorem trans_succ (laws : IdentityOn (KeyedBelow bound)) (hx : KeyedBelow (bound + 1) x)
    (hy : KeyedBelow (bound + 1) y) (hz : KeyedBelow (bound + 1) z) (h : x.identical y = true)
    (h' : y.identical z = true) : x.identical z = true := by
  cases x with
  | bool bits =>
    obtain ⟨other, rfl, hbits⟩ := Value.exists_of_identical_bool h
    obtain ⟨third, rfl, hbits'⟩ := Value.exists_of_identical_bool h'
    rw [Value.identical, hbits, hbits', beq_self_eq_true]
  | scalar s bits =>
    obtain ⟨other, rfl, hsame⟩ := Value.exists_of_identical_scalar h
    obtain ⟨third, rfl, hsame'⟩ := Value.exists_of_identical_scalar h'
    rw [Value.identical, Scalar.same_trans hsame hsame', decide_eq_true rfl, Bool.and_self]
  | text contents =>
    obtain rfl := Value.eq_of_identical_text h
    exact h'
  | struct xs =>
    obtain ⟨ys, rfl, hparts⟩ := Value.exists_of_identical_struct h
    obtain ⟨zs, rfl, hparts'⟩ := Value.exists_of_identical_struct h'
    exact Value.identical_struct_iff.mpr (forall₂_comp_of_mem hparts hparts' fun a ha b hb c hc =>
      laws.trans (hx.field _ ha) (hy.field _ hb) (hz.field _ hc))
  | list xs =>
    obtain ⟨ys, rfl, hparts⟩ := Value.exists_of_identical_list h
    obtain ⟨zs, rfl, hparts'⟩ := Value.exists_of_identical_list h'
    exact Value.identical_list_iff.mpr (forall₂_comp_of_mem hparts hparts' fun a ha b hb c hc =>
      laws.trans (hx.element _ ha) (hy.element _ hb) (hz.element _ hc))
  | map ps =>
    obtain ⟨qs, rfl⟩ := Value.exists_of_identical_map h
    obtain ⟨rs, rfl⟩ := Value.exists_of_identical_map h'
    obtain ⟨matched, hmatched, hperm⟩ :=
      (laws.identical_map_iff hx.key hy.key hx.1.unique hy.1.unique).mp h
    obtain ⟨others, hothers, hperm'⟩ :=
      (laws.identical_map_iff hy.key hz.key hy.1.unique hz.1.unique).mp h'
    -- bring the second matching into the order of the first
    obtain ⟨thirds, hthirds, hreorder⟩ := List.perm_comp_forall₂ hperm hothers
    have hthird : thirds.Perm rs := hreorder.trans hperm'
    refine (laws.identical_map_iff hx.key hz.key hx.1.unique hz.1.unique).mpr
      ⟨thirds, forall₂_comp_of_mem hmatched hthirds fun p hp q hq r hr hpq hqr => ?_, hthird⟩
    have hq : q ∈ qs := hperm.mem_iff.mp hq
    have hr : r ∈ rs := hthird.mem_iff.mp hr
    exact ⟨laws.trans (hx.key p hp) (hy.key q hq) (hz.key r hr) hpq.1 hqr.1,
      laws.trans (hx.value p hp) (hy.value q hq) (hz.value r hr) hpq.2 hqr.2⟩

end IdentityOn

/-- The laws of identity for values up to every size.  Both laws need both for the keys of maps, so
they are proved together. -/
theorem identityOn_keyedBelow (bound : Nat) : IdentityOn (KeyedBelow bound) := by
  induction bound with
  | zero =>
    exact ⟨fun h => absurd h.2 (Nat.not_lt_zero _), fun h => absurd h.2 (Nat.not_lt_zero _)⟩
  | succ bound ih => exact ⟨ih.symm_succ, ih.trans_succ⟩

/-- Identity is symmetric and transitive. -/
theorem identityOn_keyed : IdentityOn Value.Keyed where
  symm {x y} hx hy :=
    (identityOn_keyedBelow (sizeOf x + sizeOf y + 1)).symm ⟨hx, by omega⟩ ⟨hy, by omega⟩
  trans {x y z} hx hy hz :=
    (identityOn_keyedBelow (sizeOf x + sizeOf y + sizeOf z + 1)).trans ⟨hx, by omega⟩
      ⟨hy, by omega⟩ ⟨hz, by omega⟩

namespace Value

variable {x y z : Value}

theorem identical_comm (hx : x.Keyed) (hy : y.Keyed) : x.identical y = y.identical x :=
  Bool.eq_iff_iff.mpr ⟨identityOn_keyed.symm hx hy, identityOn_keyed.symm hy hx⟩

theorem identical_trans (hx : x.Keyed) (hy : y.Keyed) (hz : z.Keyed)
    (h : x.identical y = true) (h' : y.identical z = true) : x.identical z = true :=
  identityOn_keyed.trans hx hy hz h h'

/-- Values that are identical to one another are identical to the same values. -/
theorem identical_congr_left (hx : x.Keyed) (hy : y.Keyed) (hz : z.Keyed)
    (h : x.identical y = true) : x.identical z = y.identical z := by
  refine Bool.eq_iff_iff.mpr ⟨fun hxz => ?_, fun hyz => identical_trans hx hy hz h hyz⟩
  exact identical_trans hy hx hz (identityOn_keyed.symm hx hy h) hxz

/-- Identical values have equal hashes. -/
theorem hash_eq_of_identical (hx : x.Keyed) (hy : y.Keyed) (h : x.identical y = true) :
    x.hash = y.hash := by
  induction hx generalizing y with
  | bool bits =>
    obtain ⟨other, rfl, hbits⟩ := exists_of_identical_bool h
    rw [hash, hash, hbits]
  | scalar s bits =>
    obtain ⟨other, rfl, hsame⟩ := exists_of_identical_scalar h
    exact Scalar.hash_eq_of_same hsame
  | text contents => rw [eq_of_identical_text h]
  | @struct xs hxs ih =>
    obtain ⟨ys, rfl, hparts⟩ := exists_of_identical_struct h
    rw [hash, hash, hashOfFields_eq_foldl, hashOfFields_eq_foldl]
    refine foldl_eq_of_forall₂ (forall₂_of_mem hparts fun a ha b hb hab seed => ?_) 0
    rw [ih a ha (hy.field b hb) hab]
  | @list xs hxs ih =>
    obtain ⟨ys, rfl, hparts⟩ := exists_of_identical_list h
    rw [hash, hash, hashOfList_eq_foldl, hashOfList_eq_foldl, hparts.length_eq]
    refine foldl_eq_of_forall₂ (forall₂_of_mem hparts fun a ha b hb hab seed => ?_) _
    rw [ih a ha (hy.element b hb) hab]
  | @map ps hkeys hvalues unique ihKeys ihValues =>
    obtain ⟨qs, rfl⟩ := exists_of_identical_map h
    obtain ⟨matched, hmatched, hperm⟩ :=
      (identityOn_keyed.identical_map_iff hkeys hy.key unique hy.unique).mp h
    -- matched pairs contribute the same, and a sum does not depend on the order
    have hsum : hashOfPairs 0 ps = hashOfPairs 0 matched := by
      rw [hashOfPairs_eq_foldl, hashOfPairs_eq_foldl]
      refine foldl_eq_of_forall₂ (forall₂_of_mem hmatched fun p hp q hq hpq sum => ?_) 0
      have hq : q ∈ qs := hperm.mem_iff.mp hq
      rw [ihKeys p hp (hy.key q hq) hpq.1, ihValues p hp (hy.value q hq) hpq.2]
    rw [hash, hash, hsum, hashOfPairs_perm hperm, hmatched.length_eq, hperm.length_eq]

/-- A value with a NaN is identical to nothing. -/
theorem identical_eq_false_of_hasNaN (hx : x.Keyed) (hy : y.Keyed) (hnan : x.HasNaN) :
    x.identical y = false := by
  by_contra h
  rw [Bool.not_eq_false] at h
  induction hnan generalizing y with
  | @scalar s bits hnan =>
    obtain ⟨other, rfl, hsame⟩ := exists_of_identical_scalar h
    have hfloat : s.isFloat = true := by
      rw [Scalar.isNaN, Bool.and_eq_true] at hnan
      exact hnan.1
    simp [Scalar.same, hfloat, hnan] at hsame
  | field mem _ ih =>
    obtain ⟨ys, rfl, hparts⟩ := exists_of_identical_struct h
    obtain ⟨g, hg, hfg⟩ := exists_related_of_mem hparts mem
    exact ih (hx.field _ mem) (hy.field g hg) hfg
  | element mem _ ih =>
    obtain ⟨ys, rfl, hparts⟩ := exists_of_identical_list h
    obtain ⟨b, hb, hab⟩ := exists_related_of_mem hparts mem
    exact ih (hx.element _ mem) (hy.element b hb) hab
  | key mem _ ih =>
    obtain ⟨qs, rfl⟩ := exists_of_identical_map h
    obtain ⟨matched, hmatched, hperm⟩ :=
      (identityOn_keyed.identical_map_iff hx.key hy.key hx.unique hy.unique).mp h
    obtain ⟨q, hq, hpq⟩ := exists_related_of_mem hmatched mem
    exact ih (hx.key _ mem) (hy.key q (hperm.mem_iff.mp hq)) hpq.1
  | value mem _ ih =>
    obtain ⟨qs, rfl⟩ := exists_of_identical_map h
    obtain ⟨q, hfind, hpq⟩ := (identical_map_iff.mp h).2 _ mem
    exact ih (hx.value _ mem) (hy.value q (List.mem_of_find?_eq_some hfind)) hpq

/-- A value without NaN is identical to itself. -/
theorem identical_self_of_not_hasNaN (hx : x.Keyed) (hnan : ¬ x.HasNaN) :
    x.identical x = true := by
  induction hx with
  | bool bits => rw [identical, beq_self_eq_true]
  | scalar s bits =>
    have hnumber : s.isNaN bits = false := by
      rw [← Bool.not_eq_true]
      exact fun h => hnan (.scalar h)
    rw [identical, Scalar.same_self, hnumber, decide_eq_true rfl]
    rfl
  | text contents => rw [identical, beq_self_eq_true]
  | struct _ ih =>
    exact identical_struct_iff.mpr (List.forall₂_same.mpr fun f hf =>
      ih f hf fun h => hnan (.field hf h))
  | list _ ih =>
    exact identical_list_iff.mpr (List.forall₂_same.mpr fun y hy =>
      ih y hy fun h => hnan (.element hy h))
  | map keys _ unique ihKeys ihValues =>
    -- every pair is matched with itself
    refine (identityOn_keyed.identical_map_iff keys keys unique unique).mpr
      ⟨_, List.forall₂_same.mpr fun p hp => ⟨?_, ?_⟩, List.Perm.refl _⟩
    · exact ihKeys p hp fun h => hnan (.key hp h)
    · exact ihValues p hp fun h => hnan (.value hp h)

/-- NaNs are all that keeps a value from being identical to itself. -/
theorem identical_self_iff (hx : x.Keyed) : x.identical x = true ↔ ¬ x.HasNaN := by
  constructor
  · intro h hnan
    rw [identical_eq_false_of_hasNaN hx hx hnan] at h
    exact Bool.false_ne_true h
  · exact identical_self_of_not_hasNaN hx

end Value

end PropertyReflection
