import Mathlib
import PropertyReflection.Proofs.IdentityLaws

/-!
# Entries with unique keys

A dictionary as data is a list of entries in which no two keys are identical.  Since identity is
symmetric and transitive, a search for a key then has at most one match, and it is easily said what
a search finds after a value was replaced, an entry appended or an entry taken out.

The lemmas come first for an entry with those before and behind it, and then for the entry at an
index.
-/

namespace PropertyReflection

/-- No key occurs twice, in the list or inside a key. -/
structure UniqueKeys (entries : List (Value × Value)) : Prop where
  keyed : ∀ e ∈ entries, e.1.Keyed
  differ : KeysDiffer entries

/-- The first entry whose key is identical to the given one. -/
def entryFor? (entries : List (Value × Value)) (x : Value) : Option (Value × Value) :=
  entries.find? fun e => e.1.identical x

namespace UniqueKeys

variable {entries front back : List (Value × Value)} {e : Value × Value} {x k w : Value}

theorem nil : UniqueKeys [] :=
  ⟨fun _ h => absurd h List.not_mem_nil, List.Pairwise.nil⟩

/-- Two keys at different places are not identical. -/
theorem identical_eq_false_of_ne (unique : UniqueKeys entries) {i j : Nat}
    (hi : i < entries.length) (hj : j < entries.length) (hne : i ≠ j) :
    entries[i].1.identical entries[j].1 = false := by
  have hki : entries[i].1.Keyed := unique.keyed _ (List.getElem_mem hi)
  have hkj : entries[j].1.Keyed := unique.keyed _ (List.getElem_mem hj)
  have hdiffer := List.pairwise_iff_getElem.mp unique.differ
  rcases Nat.lt_or_gt_of_ne hne with h | h
  · exact hdiffer i j hi hj h
  · rw [Value.identical_comm hki hkj]
    exact hdiffer j i hj hi h

/-- Only one key is identical to a given one. -/
theorem eq_of_identical (unique : UniqueKeys entries) (hx : x.Keyed) {i j : Nat}
    (hi : i < entries.length) (hj : j < entries.length)
    (hix : entries[i].1.identical x = true) (hjx : entries[j].1.identical x = true) : i = j := by
  have hki : entries[i].1.Keyed := unique.keyed _ (List.getElem_mem hi)
  have hkj : entries[j].1.Keyed := unique.keyed _ (List.getElem_mem hj)
  have hij : entries[i].1.identical entries[j].1 = true :=
    Value.identical_trans hki hx hkj hix (identityOn_keyed.symm hkj hx hjx)
  by_contra hne
  rw [unique.identical_eq_false_of_ne hi hj hne] at hij
  exact Bool.false_ne_true hij

/-- What is identical to one key is identical to no other one. -/
theorem identical_eq_false_of_mem (unique : UniqueKeys (front ++ e :: back)) (hx : x.Keyed)
    (hex : e.1.identical x = true) : ∀ f ∈ front ++ back, f.1.identical x = false := by
  obtain ⟨-, hback, hfront⟩ := List.pairwise_append.mp unique.differ
  have hback := (List.pairwise_cons.mp hback).1
  have hke : e.1.Keyed := unique.keyed e (by simp)
  intro f hf
  have hkf : f.1.Keyed := unique.keyed f (by
    rcases List.mem_append.mp hf with hf | hf <;> simp [hf])
  by_contra hfx
  rw [Bool.not_eq_false] at hfx
  have hfe : f.1.identical e.1 = true :=
    Value.identical_trans hkf hx hke hfx (identityOn_keyed.symm hke hx hex)
  rcases List.mem_append.mp hf with hf | hf
  · rw [hfront f hf e List.mem_cons_self] at hfe
    exact Bool.false_ne_true hfe
  · rw [Value.identical_comm hkf hke, hback f hf] at hfe
    exact Bool.false_ne_true hfe

theorem entryFor?_eq_none (h : ∀ f ∈ entries, f.1.identical x = false) :
    entryFor? entries x = none := by
  rw [entryFor?, List.find?_eq_none]
  intro f hf
  rw [h f hf]
  exact Bool.false_ne_true

/-- Replacing a value changes what is found for the keys identical to its key. -/
theorem entryFor?_replace (unique : UniqueKeys (front ++ e :: back)) (hx : x.Keyed) :
    entryFor? (front ++ (e.1, w) :: back) x =
      if e.1.identical x then some (e.1, w) else entryFor? (front ++ e :: back) x := by
  by_cases hex : e.1.identical x = true
  · have hfront : entryFor? front x = none := entryFor?_eq_none fun f hf =>
      unique.identical_eq_false_of_mem hx hex f (List.mem_append_left _ hf)
    rw [entryFor?] at hfront
    rw [entryFor?, List.find?_append, hfront, List.find?_cons, hex, if_pos rfl]
    rfl
  · rw [Bool.not_eq_true] at hex
    rw [entryFor?, entryFor?, List.find?_append, List.find?_append, List.find?_cons,
      List.find?_cons, hex, if_neg Bool.false_ne_true]

/-- Taking an entry out leaves nothing to find for the keys identical to its key. -/
theorem entryFor?_erase (unique : UniqueKeys (front ++ e :: back)) (hx : x.Keyed) :
    entryFor? (front ++ back) x =
      if e.1.identical x then none else entryFor? (front ++ e :: back) x := by
  by_cases hex : e.1.identical x = true
  · rw [if_pos hex]
    exact entryFor?_eq_none (unique.identical_eq_false_of_mem hx hex)
  · rw [Bool.not_eq_true] at hex
    rw [entryFor?, entryFor?, List.find?_append, List.find?_append, List.find?_cons, hex,
      if_neg Bool.false_ne_true]

/-- An entry that is appended under a new key is found for the keys identical to it. -/
theorem entryFor?_append (unique : UniqueKeys entries) (hk : k.Keyed) (hx : x.Keyed)
    (new : ∀ f ∈ entries, f.1.identical k = false) :
    entryFor? (entries ++ [(k, w)]) x =
      if k.identical x then some (k, w) else entryFor? entries x := by
  by_cases hkx : k.identical x = true
  · have hnone : entryFor? entries x = none := by
      refine entryFor?_eq_none fun f hf => ?_
      have hfx := Value.identical_congr_left hx hk (unique.keyed f hf)
        (identityOn_keyed.symm hk hx hkx)
      rw [Value.identical_comm (unique.keyed f hf) hx, hfx,
        Value.identical_comm hk (unique.keyed f hf), new f hf]
    rw [entryFor?] at hnone
    rw [entryFor?, List.find?_append, hnone, List.find?_singleton, hkx, if_pos rfl]
    rfl
  · rw [Bool.not_eq_true] at hkx
    rw [entryFor?, entryFor?, List.find?_append, List.find?_singleton, hkx,
      if_neg Bool.false_ne_true, if_neg Bool.false_ne_true, Option.or_none]

/-- Whether keys are unique does not depend on the values. -/
theorem of_keys_eq {other : List (Value × Value)} (unique : UniqueKeys entries)
    (h : other.map Prod.fst = entries.map Prod.fst) : UniqueKeys other := by
  have hkeyed : ∀ y ∈ other.map Prod.fst, y.Keyed := h ▸ List.forall_mem_map.mpr unique.keyed
  have hdiffer : (other.map Prod.fst).Pairwise fun x y => x.identical y = false :=
    h ▸ List.pairwise_map.mpr unique.differ
  exact ⟨List.forall_mem_map.mp hkeyed, List.pairwise_map.mp hdiffer⟩

/-- Replacing a value leaves the keys unique. -/
theorem replace (unique : UniqueKeys (front ++ e :: back)) :
    UniqueKeys (front ++ (e.1, w) :: back) :=
  unique.of_keys_eq (by simp)

theorem erase (unique : UniqueKeys (front ++ e :: back)) : UniqueKeys (front ++ back) := by
  have hsub : (front ++ back).Sublist (front ++ e :: back) :=
    (List.sublist_cons_self e back).append_left front
  exact ⟨fun f hf => unique.keyed f (hsub.subset hf), unique.differ.sublist hsub⟩

theorem append (unique : UniqueKeys entries) (hk : k.Keyed)
    (new : ∀ f ∈ entries, f.1.identical k = false) : UniqueKeys (entries ++ [(k, w)]) := by
  constructor
  · intro f hf
    rcases List.mem_append.mp hf with hf | hf
    · exact unique.keyed f hf
    · rw [List.mem_singleton.mp hf]
      exact hk
  · refine List.pairwise_append.mpr ⟨unique.differ, List.pairwise_singleton _ _, ?_⟩
    intro f hf g hg
    rw [List.mem_singleton.mp hg]
    exact new f hf

/-! ### At an index -/

variable {i : Nat}

/-- The entries before an index, the one there and those behind it. -/
theorem split (unique : UniqueKeys entries) (hi : i < entries.length) :
    UniqueKeys (entries.take i ++ entries[i] :: entries.drop (i + 1)) := by
  rw [List.getElem_cons_drop, List.take_append_drop]
  exact unique

theorem set (unique : UniqueKeys entries) (hi : i < entries.length) :
    UniqueKeys (entries.set i (entries[i].1, w)) := by
  rw [List.set_eq_take_append_cons_drop, if_pos hi]
  exact (unique.split hi).replace

theorem eraseIdx (unique : UniqueKeys entries) (hi : i < entries.length) :
    UniqueKeys (entries.eraseIdx i) := by
  rw [List.eraseIdx_eq_take_drop_succ]
  exact (unique.split hi).erase

theorem entryFor?_set (unique : UniqueKeys entries) (hi : i < entries.length) (hx : x.Keyed) :
    entryFor? (entries.set i (entries[i].1, w)) x =
      if entries[i].1.identical x then some (entries[i].1, w) else entryFor? entries x := by
  rw [List.set_eq_take_append_cons_drop, if_pos hi, (unique.split hi).entryFor?_replace hx,
    List.getElem_cons_drop, List.take_append_drop]

theorem entryFor?_eraseIdx (unique : UniqueKeys entries) (hi : i < entries.length)
    (hx : x.Keyed) :
    entryFor? (entries.eraseIdx i) x =
      if entries[i].1.identical x then none else entryFor? entries x := by
  rw [List.eraseIdx_eq_take_drop_succ, (unique.split hi).entryFor?_erase hx,
    List.getElem_cons_drop, List.take_append_drop]

end UniqueKeys

end PropertyReflection
