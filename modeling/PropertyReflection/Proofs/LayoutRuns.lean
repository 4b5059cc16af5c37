import Mathlib
import PropertyReflection.Proofs.Footprint
import PropertyReflection.Proofs.LayoutSoundness

/-!
# Layouts, one declaration after the other

A layout goes through the declarations in order and stops at the first that is refused.  A
declaration can be refused for its name or its dimension before it is placed, which is what
`TypeDescriptor.refusal?` finds, and the rest is up to `Placement.place`.

### Outline

* `TypeDescriptor.placeAll_cons`, which says everything that one declaration does to a layout, and
  `TypeDescriptor.Admits`, for the declarations that are not refused;
* `TypeDescriptor.placeAll_append` and `TypeDescriptor.exists_of_placeAll_error`, for a run and for
  the declaration that it stops at;
* `TypeDescriptor.placeAll_invariant`: what every placement keeps is kept by the whole run;
* `TypeDescriptor.Reaches`, the states in which a build places its declarations.
-/

namespace PropertyReflection

namespace TypeDescriptor

variable {parent : Option TypeDescriptor} {spec : PropertySpec} {specs rest : List PropertySpec}
  {p q : Placement} {placed properties : List Property} {failure : BuildFailure}

/-! ### One declaration -/

/-- What is wrong with a declaration before it is placed. -/
def refusal? (parent : Option TypeDescriptor) (placed : List Property) (spec : PropertySpec) :
    Option LayoutFault :=
  if inherits parent spec.name || placed.any (·.name == spec.name) then
    some (.duplicateProperty spec.name)
  else if spec.dim = 0 then some (.zeroArrayDim spec.name)
  else none

/-- The first of several declarations is refused, or it is placed and the others follow. -/
theorem placeAll_cons (parent : Option TypeDescriptor) (spec : PropertySpec)
    (rest : List PropertySpec) (p : Placement) (placed : List Property) :
    placeAll parent (spec :: rest) p placed =
      match refusal? parent placed spec with
      | some fault => .error (.rejected fault)
      | none => p.place spec >>= fun next => placeAll parent rest next.1 (placed ++ [next.2]) := by
  rw [placeAll, refusal?]
  by_cases hname : (inherits parent spec.name || placed.any (·.name == spec.name)) = true
  · rw [if_pos hname, if_pos hname]
    rfl
  · rw [if_neg hname, if_neg hname]
    by_cases hdim : spec.dim = 0
    · rw [if_pos hdim, if_pos hdim]
      rfl
    · rw [if_neg hdim, if_neg hdim]

/-- A declaration can come next: its name is neither inherited nor taken, and it has elements. -/
structure Admits (parent : Option TypeDescriptor) (placed : List Property) (spec : PropertySpec) :
    Prop where
  notInherited : inherits parent spec.name = false
  notPlaced : ∀ x ∈ placed, x.name ≠ spec.name
  dim_pos : 0 < spec.dim

theorem refusal?_eq_none_iff : refusal? parent placed spec = none ↔ Admits parent placed spec := by
  unfold refusal?
  constructor
  · intro h
    split at h
    · exact absurd h (by simp)
    next hname =>
      split at h
      · exact absurd h (by simp)
      next hdim =>
        rw [Bool.or_eq_true, not_or, Bool.not_eq_true, Bool.not_eq_true, List.any_eq_false]
          at hname
        exact ⟨hname.1, fun x hx heq => hname.2 x hx (by simpa using heq), Nat.pos_of_ne_zero hdim⟩
  · intro h
    have hplaced : placed.any (·.name == spec.name) = false := by
      rw [List.any_eq_false]
      exact fun x hx heq => h.notPlaced x hx (by simpa using heq)
    rw [h.notInherited, hplaced, if_neg (by simp), if_neg h.dim_pos.ne']

/-- A declaration that can come next is placed. -/
theorem placeAll_cons_of_admits (h : Admits parent placed spec) :
    placeAll parent (spec :: rest) p placed =
      (p.place spec >>= fun next => placeAll parent rest next.1 (placed ++ [next.2])) := by
  rw [placeAll_cons, refusal?_eq_none_iff.mpr h]

/-! ### Runs -/

/-- Declarations can be placed in two goes. -/
theorem placeAll_append (before after : List PropertySpec) (p : Placement)
    (placed : List Property) :
    placeAll parent (before ++ after) p placed =
      (placeAll parent before p placed >>= fun next => placeAll parent after next.1 next.2) := by
  induction before generalizing p placed with
  | nil => rfl
  | cons spec before ih =>
    rw [List.cons_append, placeAll_cons, placeAll_cons]
    cases refusal? parent placed spec with
    | some fault => rfl
    | none =>
      cases p.place spec with
      | error failure => rfl
      | ok next => exact ih next.1 (placed ++ [next.2])

/-- A run that fails stops at some declaration, which is refused or cannot be placed. -/
theorem exists_of_placeAll_error (h : placeAll parent specs p placed = .error failure) :
    ∃ before spec after q own, specs = before ++ spec :: after ∧
      placeAll parent before p placed = .ok (q, own) ∧
      ((∃ fault, refusal? parent own spec = some fault ∧ failure = .rejected fault) ∨
        (Admits parent own spec ∧ q.place spec = .error failure)) := by
  induction specs generalizing p placed with
  | nil => exact absurd h (by simp [placeAll])
  | cons spec rest ih =>
    rw [placeAll_cons] at h
    cases hrefusal : refusal? parent placed spec with
    | some fault =>
      rw [hrefusal] at h
      exact ⟨[], spec, rest, p, placed, rfl, rfl,
        Or.inl ⟨fault, hrefusal, (Except.error.inj h).symm⟩⟩
    | none =>
      rw [hrefusal] at h
      have hadmits := refusal?_eq_none_iff.mp hrefusal
      cases hplace : p.place spec with
      | error failure' =>
        rw [hplace] at h
        obtain rfl : failure' = failure := Except.error.inj h
        exact ⟨[], spec, rest, p, placed, rfl, rfl, Or.inr ⟨hadmits, hplace⟩⟩
      | ok next =>
        rw [hplace, ok_bind] at h
        obtain ⟨before, other, after, q, own, rfl, hbefore, hstop⟩ := ih h
        refine ⟨spec :: before, other, after, q, own, rfl, ?_, hstop⟩
        rw [placeAll_cons_of_admits hadmits, hplace, ok_bind, hbefore]

/-- What every placement keeps is kept by a run, by induction on the declarations. -/
theorem placeAll_invariant (Inv : Placement → List Property → Prop)
    (step : ∀ spec ∈ specs, ∀ p placed, Inv p placed → Admits parent placed spec →
      ∀ q x, p.place spec = .ok (q, x) → Inv q (placed ++ [x]))
    (start : Inv p placed) (ok : placeAll parent specs p placed = .ok (q, properties)) :
    Inv q properties := by
  induction specs generalizing p placed with
  | nil =>
    cases ok
    exact start
  | cons spec rest ih =>
    rw [placeAll_cons] at ok
    cases hrefusal : refusal? parent placed spec with
    | some fault =>
      rw [hrefusal] at ok
      exact absurd ok (by simp)
    | none =>
      rw [hrefusal] at ok
      obtain ⟨⟨next, x⟩, hplace, hrest⟩ := exists_of_bind_eq_ok ok
      have hfirst := step spec List.mem_cons_self p placed start (refusal?_eq_none_iff.mp hrefusal)
        next x hplace
      exact ih (fun other hother => step other (List.mem_cons_of_mem _ hother)) hfirst hrest

/-! ### Builds -/

/-- A build gets as far as a declaration: those before it are placed, and it can come next. -/
def Reaches (parent : Option TypeDescriptor) (specs : List PropertySpec) (p : Placement)
    (spec : PropertySpec) : Prop :=
  ∃ before after placed, specs = before ++ spec :: after ∧
    placeAll parent before (.start parent) [] = .ok (p, placed) ∧ Admits parent placed spec

/-- A build gets to the end of its declarations. -/
def Completes (parent : Option TypeDescriptor) (specs : List PropertySpec) (p : Placement) : Prop :=
  ∃ placed, placeAll parent specs (.start parent) [] = .ok (p, placed)

variable {serial : Nat} {name : String}

/-- A build fails for the reason for which a declaration cannot be placed. -/
theorem build_eq_error_of_reaches (h : Reaches parent specs p spec)
    (fails : p.place spec = .error failure) : build serial name parent specs = .error failure := by
  obtain ⟨before, after, placed, rfl, hbefore, hadmits⟩ := h
  rw [build, placeAll_append, hbefore, ok_bind, placeAll_cons_of_admits hadmits, fails]
  rfl

/-- When all declarations are placed, what is left is the size. -/
theorem build_eq_map (h : placeAll parent specs (.start parent) [] = .ok (p, placed)) :
    build serial name parent specs =
      (finalSize p.cursor p.align).map fun size =>
        { serial, name, size, align := p.align, superType := parent, properties := placed } := by
  rw [build, h, ok_bind]
  rfl

/-- When all declarations are placed, a build can still fail for the size of the type. -/
theorem build_eq_error_of_completes (h : Completes parent specs p)
    (fails : finalSize p.cursor p.align = .error failure) :
    build serial name parent specs = .error failure := by
  obtain ⟨placed, hplace⟩ := h
  rw [build_eq_map hplace, fails]
  rfl

/-- A build that fails does so at a declaration, which is refused or cannot be placed, or at the
end. -/
theorem exists_of_build_error (h : build serial name parent specs = .error failure) :
    (∃ own spec fault, refusal? parent own spec = some fault ∧ failure = .rejected fault) ∨
      (∃ p spec, Reaches parent specs p spec ∧ p.place spec = .error failure) ∨
        ∃ p, Completes parent specs p ∧ finalSize p.cursor p.align = .error failure := by
  cases hplace : placeAll parent specs (.start parent) [] with
  | error failure' =>
    rw [build, hplace] at h
    obtain rfl : failure' = failure := Except.error.inj h
    obtain ⟨before, spec, after, q, own, hspecs, hbefore, ⟨fault, hrefusal, hfault⟩ |
      ⟨hadmits, hstop⟩⟩ := exists_of_placeAll_error hplace
    · exact Or.inl ⟨own, spec, fault, hrefusal, hfault⟩
    · exact Or.inr (Or.inl ⟨q, spec, ⟨before, after, own, hspecs, hbefore, hadmits⟩, hstop⟩)
  | ok result =>
    rw [build_eq_map hplace] at h
    refine Or.inr (Or.inr ⟨result.1, ⟨result.2, hplace⟩, ?_⟩)
    cases hsize : finalSize result.1.cursor result.1.align with
    | error failure' =>
      rw [hsize] at h
      exact congrArg Except.error (Except.error.inj h)
    | ok size =>
      rw [hsize] at h
      exact absurd h (by simp [Except.map])

end TypeDescriptor

end PropertyReflection
