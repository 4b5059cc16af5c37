import Mathlib
import PropertyReflection.Proofs.Ancestors

/-!
# The registry over time

Whatever is registered and unregistered, the registry is a partial map from names to descriptors.
What it has for a name is decided by the last call about the name that succeeded: the descriptor
that was registered, or nothing if the type was taken out.  Calls that fail decide nothing.

The registry does not own what it files.  A descriptor that somebody holds is the same after its
name, or the name of its parent, is taken out or given to another type, and it has the same
ancestors: these are descriptors, not names.

### Outline

* `Registry.perform` and `Registry.run`, for one call and for several, with `Registry.get?_perform`
  as the step and `Registry.get?_run` as the run;
* `Registry.IsMap`, what it means that a registry is a partial map;
* `Workspace.lookUp_types_askAll` and `Workspace.Keeps.askAll`, for the descriptors that a workspace
  holds while it is asked for types;
* `registry_refines_map`, which puts the two together.
-/

namespace PropertyReflection

namespace Registry

/-! ### Calls -/

/-- A call that changes a registry. -/
inductive Call where
  | register (type : TypeDescriptor)
  | unregister (name : String)

/-- The name that a call is about. -/
def Call.name : Call → String
  | .register type => type.name
  | .unregister name => name

/-- What the registry has for the name of a call that succeeded. -/
def Call.filed? : Call → Option TypeDescriptor
  | .register type => some type
  | .unregister _ => none

/-- What a call answers, and the registry after it. -/
def perform (registry : Registry) : Call → Except RegistryFault TypeDescriptor × Registry
  | .register type =>
    match (registry.register type).value with
    | .ok next => (.ok type, next)
    | .error fault => (.error fault, registry)
  | .unregister name =>
    match (registry.unregister name).value with
    | .ok (type, next) => (.ok type, next)
    | .error fault => (.error fault, registry)

/-- The registry after several calls. -/
def run (registry : Registry) (calls : List Call) : Registry :=
  calls.foldl (fun registry call => (registry.perform call).2) registry

/-- Those of several calls that succeed. -/
def successes : Registry → List Call → List Call
  | _, [] => []
  | registry, call :: rest =>
    match registry.perform call with
    | (.ok _, next) => call :: next.successes rest
    | (.error _, next) => next.successes rest

/-- The last of several calls that is about a name and succeeds. -/
def decisive? (registry : Registry) (calls : List Call) (name : String) : Option Call :=
  ((registry.successes calls).filter (·.name == name)).getLast?

variable {registry next : Registry} {type : TypeDescriptor} {name : String} {call : Call}
  {calls : List Call} {fault : RegistryFault}

theorem perform_register_of_contains (h : registry.contains type.name = true) :
    registry.perform (.register type) = (.error (.typeAlreadyRegistered type.name), registry) := by
  simp only [perform, register, h, if_true]

theorem perform_register_of_not_contains (h : registry.contains type.name = false) :
    registry.perform (.register type) = (.ok type, ⟨registry.types ++ [type]⟩) := by
  simp [perform, register, h]

theorem perform_unregister_of_none (h : registry.get? name = none) :
    registry.perform (.unregister name) = (.error (.typeNotFound name), registry) := by
  simp only [perform, unregister, h]

theorem perform_unregister_of_some (h : registry.get? name = some type) :
    registry.perform (.unregister name) =
      (.ok type, ⟨registry.types.filter (·.name != name)⟩) := by
  simp only [perform, unregister, h]

/-- A call that fails changes nothing. -/
theorem eq_of_perform_error (h : registry.perform call = (.error fault, next)) :
    next = registry := by
  cases call with
  | register type =>
    cases hcontains : registry.contains type.name with
    | true =>
      rw [perform_register_of_contains hcontains] at h
      exact (Prod.mk.inj h).2.symm
    | false =>
      rw [perform_register_of_not_contains hcontains] at h
      exact absurd h (by simp)
  | unregister name =>
    cases hget : registry.get? name with
    | none =>
      rw [perform_unregister_of_none hget] at h
      exact (Prod.mk.inj h).2.symm
    | some type =>
      rw [perform_unregister_of_some hget] at h
      exact absurd h (by simp)

/-- A call that succeeds adds a type under a name that was free, or takes out the type of a name. -/
theorem perform_ok (h : registry.perform call = (.ok type, next)) :
    (call = .register type ∧ registry.get? type.name = none ∧
      next = ⟨registry.types ++ [type]⟩) ∨
    ∃ name, call = .unregister name ∧ registry.get? name = some type ∧
      next = ⟨registry.types.filter (·.name != name)⟩ := by
  cases call with
  | register new =>
    left
    cases hcontains : registry.contains new.name with
    | true =>
      rw [perform_register_of_contains hcontains] at h
      exact absurd h (by simp)
    | false =>
      rw [perform_register_of_not_contains hcontains] at h
      cases h
      exact ⟨rfl, by simpa [contains] using hcontains, rfl⟩
  | unregister name =>
    right
    cases hget : registry.get? name with
    | none =>
      rw [perform_unregister_of_none hget] at h
      exact absurd h (by simp)
    | some found =>
      rw [perform_unregister_of_some hget] at h
      cases h
      exact ⟨name, rfl, hget, rfl⟩

/-- A call that succeeds decides about its name and leaves the others alone. -/
theorem get?_perform (h : registry.perform call = (.ok type, next)) (name : String) :
    next.get? name = if call.name = name then call.filed? else registry.get? name := by
  rcases perform_ok h with ⟨rfl, hfree, rfl⟩ | ⟨old, rfl, -, rfl⟩
  · simp only [get?, List.find?_append, Call.name, Call.filed?] at hfree ⊢
    by_cases hname : type.name = name
    · subst hname
      simp [hfree]
    · simp [hname]
  · by_cases hname : (Call.unregister old).name = name
    · rw [if_pos hname, get?, List.find?_filter]
      refine List.find?_eq_none.mpr fun t _ ht => ?_
      simp_all [Call.name]
    · rw [if_neg hname, get?, get?, List.find?_filter]
      congr 1
      funext t
      grind [Call.name]

/-- A name is contained if it is among those of the types. -/
theorem contains_iff_mem_typeNames : registry.contains name = true ↔ name ∈ registry.typeNames := by
  simp [contains, get?, typeNames]

/-- Calls never file two types under one name. -/
theorem typeNames_nodup_perform (h : registry.perform call = (.ok type, next))
    (nodup : registry.typeNames.Nodup) : next.typeNames.Nodup := by
  rcases perform_ok h with ⟨-, hfree, rfl⟩ | ⟨old, -, -, rfl⟩
  · have hnew : type.name ∉ registry.typeNames := by
      rw [← contains_iff_mem_typeNames, contains, hfree]
      simp
    simpa [typeNames, List.nodup_append] using And.intro nodup hnew
  · exact nodup.sublist (List.filter_sublist.map _)

/-! ### Runs -/

/-- What a registry has for a name after several calls is up to the last one that is about the name
and succeeds, by induction on the calls. -/
theorem get?_run (registry : Registry) (calls : List Call) (name : String) :
    (registry.run calls).get? name =
      (registry.decisive? calls name).elim (registry.get? name) Call.filed? := by
  induction calls generalizing registry with
  | nil => rfl
  | cons call rest ih =>
    rw [run, List.foldl_cons]
    change ((registry.perform call).2.run rest).get? name = _
    rw [ih, decisive?, decisive?, successes]
    rcases hperform : registry.perform call with ⟨_ | type, next⟩
    · rw [eq_of_perform_error hperform]
    · simp only [get?_perform hperform name, List.filter_cons]
      by_cases hname : call.name = name
      · rw [if_pos hname, if_pos (by simpa using hname), List.getLast?_cons]
        cases ((next.successes rest).filter (·.name == name)).getLast? <;> rfl
      · rw [if_neg hname, if_neg (by simpa using hname)]

/-- However often the registry is called, no name is there twice. -/
theorem typeNames_nodup_run (nodup : registry.typeNames.Nodup) (calls : List Call) :
    (registry.run calls).typeNames.Nodup := by
  induction calls generalizing registry with
  | nil => exact nodup
  | cons call rest ih =>
    change ((registry.perform call).2.run rest).typeNames.Nodup
    refine ih ?_
    rcases hperform : registry.perform call with ⟨_ | type, next⟩
    · exact eq_of_perform_error hperform ▸ nodup
    · exact typeNames_nodup_perform hperform nodup

/-- The registry is a partial map from names to descriptors. -/
structure IsMap (registry : Registry) (m : String → Option TypeDescriptor) : Prop where
  get?_eq : ∀ name, registry.get? name = m name
  contains_eq : ∀ name, registry.contains name = (m name).isSome
  typeNames_nodup : registry.typeNames.Nodup
  mem_typeNames : ∀ name, name ∈ registry.typeNames ↔ (m name).isSome = true
  size_eq : registry.size = Set.ncard {name | (m name).isSome = true}
  /-- Every descriptor is filed under its own name, and under no other. -/
  filed_iff : ∀ name type, m name = some type ↔ type ∈ registry.types ∧ type.name = name

/-- A registry without a name that is there twice is a partial map. -/
theorem isMap_of_nodup (nodup : registry.typeNames.Nodup) : registry.IsMap registry.get? where
  get?_eq _ := rfl
  contains_eq _ := rfl
  typeNames_nodup := nodup
  mem_typeNames _ := contains_iff_mem_typeNames.symm
  size_eq := by
    have hnames : {name | (registry.get? name).isSome = true} = ↑registry.typeNames.toFinset := by
      ext name
      rw [Set.mem_ofPred_eq, Finset.mem_coe, List.mem_toFinset]
      exact contains_iff_mem_typeNames
    rw [hnames, Set.ncard_coe_finset, List.toFinset_card_of_nodup nodup, typeNames, List.length_map]
    rfl
  filed_iff name type := by
    constructor
    · intro h
      exact ⟨List.mem_of_find?_eq_some h, name_of_get? h⟩
    · rintro ⟨hmem, rfl⟩
      have hcontains : registry.contains type.name = true :=
        contains_iff_mem_typeNames.mpr (List.mem_map_of_mem hmem)
      obtain ⟨found, hfound⟩ := Option.isSome_iff_exists.mp hcontains
      rw [hfound, List.inj_on_of_nodup_map nodup (List.mem_of_find?_eq_some hfound) hmem
        (name_of_get? hfound)]

end Registry

/-! ### Descriptors that are held -/

namespace Request

variable {α β : Type}

/-- A request that is refused does not go on. -/
theorem perform_bind (x : Request α) (f : α → Request β) (ws : Workspace) :
    ((x >>= f).perform ws).value =
      match (x.perform ws).value with
      | (.ok a, ws') => ((f a).perform ws').value
      | (.error refusal, ws') => (.error refusal, ws') := by
  have hcont : ((x >>= f).perform ws).value =
      (ExceptT.bindCont f (x.perform ws).value.1 (x.perform ws).value.2).value := rfl
  rw [hcont]
  rcases (x.perform ws).value with ⟨_ | a, ws'⟩ <;> rfl

end Request

/-- A request about types: to build one, with a type that is held for its parent, or to take one out
of the registry. -/
inductive TypeRequest where
  | build (id name : String) (parent : Option String) (specs : List PropertySpec) (register : Bool)
  | unregister (name : String)

namespace TypeRequest

/-- The name under which a request keeps a new type. -/
def id? : TypeRequest → Option String
  | .build id .. => some id
  | .unregister _ => none

/-- The kinds of the declarations can be made. -/
def Made : TypeRequest → Prop
  | .build _ _ _ specs _ => ∀ spec ∈ specs, ∀ kind, spec.body = .field kind → kind.Made
  | .unregister _ => True

end TypeRequest

namespace Workspace

variable {ws later : Workspace} {types : List TypeDescriptor} {type s t : TypeDescriptor}
  {id : String} {request : TypeRequest} {requests : List TypeRequest}

/-- The workspace after a request about types. -/
def ask (ws : Workspace) : TypeRequest → Workspace
  | .build id name parent specs register =>
    (Request.perform (do build id name (← parent.mapM typeOf) specs register) ws).value.2
  | .unregister name => ((unregister name).perform ws).value.2

/-- The workspace after several requests about types. -/
def askAll (ws : Workspace) (requests : List TypeRequest) : Workspace := requests.foldl ask ws

/-! #### What is held under a name -/

theorem lookUp_file {α : Type} (pairs : List (String × α)) (name other : String) (a : α) :
    lookUp (file pairs name a) other = if name = other then some a else lookUp pairs other := by
  unfold lookUp file
  by_cases h : name = other
  · simp [h]
  · rw [if_neg h, List.find?_cons_of_neg (by simpa using h), List.find?_filter]
    congr 2
    funext entry
    grind

theorem exists_mem_of_lookUp {α : Type} {pairs : List (String × α)} {name : String} {a : α}
    (h : lookUp pairs name = some a) : ∃ entry ∈ pairs, entry.2 = a := by
  obtain ⟨entry, hentry, rfl⟩ := Option.map_eq_some_iff.mp h
  exact ⟨entry, List.mem_of_find?_eq_some hentry, rfl⟩

/-- A type is found under the name by which it is held. -/
theorem perform_typeOf (ws : Workspace) (id : String) :
    ((typeOf id).perform ws).value = ((lookUp ws.types id).elim (.error .noType) .ok, ws) := by
  rw [typeOf, Request.perform_get_bind]
  cases lookUp ws.types id <;> rfl

theorem perform_mapM_typeOf (ws : Workspace) (id : String) :
    (((some id).mapM typeOf).perform ws).value =
      ((lookUp ws.types id).elim (.error .noType) (.ok ∘ some), ws) := by
  change ((typeOf id >>= fun type => pure (some type) : Request _).perform ws).value = _
  rw [Request.perform_bind, perform_typeOf]
  cases lookUp ws.types id <;> rfl

/-- The answers of the lookups by name come from the type that is held. -/
theorem perform_lookup (ws : Workspace) (id : String)
    (name : Except Refusal (Option (List UInt8))) :
    ((lookup (some id) name).perform ws).value =
      ((lookUp ws.types id).elim (.error .noType) fun type => name.map fun name =>
        let answers := Calls.lookups false (some type) name
        ⟨answers.property.map (·.name), answers.offset, answers.dim, answers.mask⟩, ws) := by
  rw [lookup, Request.perform_bind, perform_mapM_typeOf]
  cases lookUp ws.types id with
  | none => rfl
  | some type => rcases name with _ | _ | name <;> rfl

/-! #### Requests about types -/

/-- Taking a type out of the registry changes nothing but the registry. -/
theorem ask_unregister (ws : Workspace) (name : String) :
    ws.ask (.unregister name) =
      { ws with registry := (ws.registry.perform (.unregister name)).2 } := by
  rw [ask, unregister, Request.perform_get_bind, Request.perform_report_bind, Registry.perform]
  cases (ws.registry.unregister name).value <;> rfl

/-- Building a type changes nothing if there is no such parent, or adds the type, which is
registered if asked for. -/
theorem ask_build (ws : Workspace) (id name : String) (parent : Option String)
    (specs : List PropertySpec) (register : Bool) :
    ws.ask (.build id name parent specs register) = ws ∨
      ∃ super, (∀ t, super = some t → ∃ p, lookUp ws.types p = some t) ∧
        ws.ask (.build id name parent specs register) =
          ((build id name super specs register).perform ws).value.2 := by
  cases parent with
  | none => exact Or.inr ⟨none, by simp, rfl⟩
  | some p =>
    rw [ask, Request.perform_bind, perform_mapM_typeOf]
    cases hfound : lookUp ws.types p with
    | none => exact Or.inl rfl
    | some t =>
      refine Or.inr ⟨some t, ?_, rfl⟩
      rintro _ ⟨rfl⟩
      exact ⟨p, hfound⟩

/-- What a build does to the registry and to the types that are held. -/
theorem build_cases (ws : Workspace) (id name : String) (super : Option TypeDescriptor)
    (specs : List PropertySpec) (register : Bool) :
    ((build id name super specs register).perform ws).value.2 = ws ∨
      ∃ type calls, ((build id name super specs register).perform ws).value.2 =
        { ws with
          registry := ws.registry.run calls
          types := file ws.types id type
          nextSerial := ws.nextSerial + 1 } := by
  rw [workspace_of_build]
  cases TypeDescriptor.build ws.nextSerial name super specs with
  | error failure => exact Or.inl rfl
  | ok type =>
    cases register with
    | false => exact Or.inr ⟨type, [], rfl⟩
    | true =>
      simp only [if_true]
      cases hregister : (ws.registry.register type).value with
      | error fault => exact Or.inl rfl
      | ok registry =>
        refine Or.inr ⟨type, [.register type], ?_⟩
        simp only [Registry.run, List.foldl_cons, List.foldl_nil, Registry.perform, hregister]

/-- The registry of a workspace is changed by calls, and a type that is held under another name than
the new one is held on. -/
theorem ask_cases (ws : Workspace) (request : TypeRequest) :
    (∃ calls, (ws.ask request).registry = ws.registry.run calls) ∧
      ∀ id, request.id? ≠ some id → lookUp (ws.ask request).types id = lookUp ws.types id := by
  cases request with
  | unregister name =>
    rw [ask_unregister]
    exact ⟨⟨[.unregister name], rfl⟩, fun _ _ => rfl⟩
  | build new name parent specs register =>
    rcases ask_build ws new name parent specs register with h | ⟨super, -, h⟩
    · rw [h]
      exact ⟨⟨[], rfl⟩, fun _ _ => rfl⟩
    · rw [h]
      rcases build_cases ws new name super specs register with h | ⟨type, calls, h⟩
      · rw [h]
        exact ⟨⟨[], rfl⟩, fun _ _ => rfl⟩
      · rw [h]
        refine ⟨⟨calls, rfl⟩, fun id hid => ?_⟩
        have hne : new ≠ id := fun heq => hid (congrArg some heq)
        exact (lookUp_file ws.types new id type).trans (if_neg hne)

/-- However types are requested, the registry of a workspace is changed by calls. -/
theorem registry_askAll (ws : Workspace) (requests : List TypeRequest) :
    ∃ calls, (ws.askAll requests).registry = ws.registry.run calls := by
  induction requests generalizing ws with
  | nil => exact ⟨[], rfl⟩
  | cons request rest ih =>
    obtain ⟨first, hfirst⟩ := (ws.ask_cases request).1
    obtain ⟨others, hothers⟩ := ih (ws.ask request)
    refine ⟨first ++ others, ?_⟩
    rw [Registry.run, List.foldl_append]
    exact hothers.trans (congrArg (Registry.run · others) hfirst)

/-- A type that is held under a name is held until another one is built under this name. -/
theorem lookUp_types_askAll (ws : Workspace)
    (others : ∀ request ∈ requests, request.id? ≠ some id) :
    lookUp (ws.askAll requests).types id = lookUp ws.types id := by
  induction requests generalizing ws with
  | nil => rfl
  | cons request rest ih =>
    have hrest := ih (ws.ask request) fun other hother =>
      others other (List.mem_cons_of_mem _ hother)
    exact hrest.trans ((ws.ask_cases request).2 id (others request List.mem_cons_self))

/-- A workspace adds to its library whenever it is asked for a type. -/
theorem Keeps.ask (h : ws.Keeps types) (made : request.Made) :
    ∃ types', types ⊆ types' ∧ (ws.ask request).Keeps types' := by
  cases request with
  | unregister name =>
    rw [ask_unregister]
    exact ⟨types, List.Subset.refl types, h.library, h.kept, h.given⟩
  | build id name parent specs register =>
    rcases ask_build ws id name parent specs register with heq | ⟨super, hsuper, heq⟩
    · rw [heq]
      exact ⟨types, List.Subset.refl types, h⟩
    · rw [heq]
      refine keeps_build h id name register (fun t ht => ?_) made
      obtain ⟨p, hp⟩ := hsuper t ht
      obtain ⟨entry, hentry, rfl⟩ := exists_mem_of_lookUp hp
      exact h.kept entry hentry

/-- The library of a workspace only grows. -/
theorem Keeps.askAll (h : ws.Keeps types) (made : ∀ request ∈ requests, request.Made) :
    ∃ types', types ⊆ types' ∧ (ws.askAll requests).Keeps types' := by
  induction requests generalizing ws types with
  | nil => exact ⟨types, List.Subset.refl types, h⟩
  | cons request rest ih =>
    obtain ⟨middle, hmiddle, hnext⟩ := h.ask (made request List.mem_cons_self)
    obtain ⟨types', htypes', hrest⟩ :=
      ih hnext fun other hother => made other (List.mem_cons_of_mem _ hother)
    exact ⟨types', List.Subset.trans hmiddle htypes', hrest⟩

end Workspace

/-- The registry is a partial map.  After any calls it has for a name what the last call about it
that succeeded filed; it refuses to register a name that it has and to take out one that it does not
have, and nothing changes then.

Whatever types are built, registered and taken out of a registry, a descriptor that is held is the
same as before, answers all lookups as before, and extends the descriptors on its line and no
others, whatever their names and whether they are registered. -/
theorem registry_refines_map :
    (∀ calls, (Registry.empty.run calls).IsMap fun name =>
      (Registry.empty.decisive? calls name).bind Registry.Call.filed?) ∧
    (∀ registry : Registry,
      (∀ type, (registry.perform (.register type)).1 =
        if registry.contains type.name then .error (.typeAlreadyRegistered type.name)
        else .ok type) ∧
      (∀ name, (registry.perform (.unregister name)).1 =
        (registry.get? name).elim (.error (.typeNotFound name)) .ok) ∧
      ∀ call fault, (registry.perform call).1 = .error fault →
        (registry.perform call).2 = registry) ∧
    ∀ before after : List TypeRequest, (∀ request ∈ before ++ after, request.Made) →
      let ws := ({} : Workspace).askAll before
      let later := ws.askAll after
      (∃ calls, later.registry = Registry.empty.run calls) ∧
      ∀ id s, Workspace.lookUp ws.types id = some s → (∀ request ∈ after, request.id? ≠ some id) →
        Workspace.lookUp later.types id = some s ∧
        (∀ name, ((Workspace.lookup (some id) name).perform later).value.1 =
          ((Workspace.lookup (some id) name).perform ws).value.1) ∧
        ∀ other t, Workspace.lookUp later.types other = some t →
          (s.isChildOf t = true ↔ t ∈ s.lineage) := by
  refine ⟨fun calls => ?_, fun registry => ⟨fun type => ?_, fun name => ?_, ?_⟩, ?_⟩
  · have hmap := Registry.isMap_of_nodup
      (Registry.typeNames_nodup_run (show Registry.empty.typeNames.Nodup from List.nodup_nil) calls)
    have hget : (Registry.empty.run calls).get? = fun name =>
        (Registry.empty.decisive? calls name).bind Registry.Call.filed? := by
      funext name
      rw [Registry.get?_run, Registry.get?_empty]
      cases Registry.empty.decisive? calls name <;> rfl
    exact hget ▸ hmap
  · cases hcontains : registry.contains type.name with
    | true => rw [Registry.perform_register_of_contains hcontains, if_pos rfl]
    | false => rw [Registry.perform_register_of_not_contains hcontains, if_neg (by simp)]
  · cases hget : registry.get? name with
    | none =>
      rw [Registry.perform_unregister_of_none hget]
      rfl
    | some type =>
      rw [Registry.perform_unregister_of_some hget]
      rfl
  · intro call fault hfails
    exact Registry.eq_of_perform_error (Prod.ext hfails rfl)
  · intro before after made ws later
    obtain ⟨types, -, hkeeps⟩ := Workspace.keeps_new.askAll fun request hrequest =>
      made request (List.mem_append_left _ hrequest)
    obtain ⟨types', hsubset, hlater⟩ := hkeeps.askAll fun request hrequest =>
      made request (List.mem_append_right _ hrequest)
    refine ⟨?_, fun id s hs others => ?_⟩
    · have hcalls := ({} : Workspace).registry_askAll (before ++ after)
      rwa [Workspace.askAll, List.foldl_append] at hcalls
    have hsame : Workspace.lookUp later.types id = some s :=
      (ws.lookUp_types_askAll others).trans hs
    refine ⟨hsame, fun name => ?_, fun other t ht => ?_⟩
    · rw [Workspace.perform_lookup, Workspace.perform_lookup, hsame, hs]
    · obtain ⟨entry, hentry, rfl⟩ := Workspace.exists_mem_of_lookUp hsame
      obtain ⟨entry', hentry', rfl⟩ := Workspace.exists_mem_of_lookUp ht
      exact hlater.library.isChildOf_iff_mem (hlater.kept entry hentry)
        (hlater.kept entry' hentry')

/-- Requests for a thing and a door that is one. -/
def furnish : List TypeRequest :=
  [.build "t" "Thing" none [{ name := "H", body := .field (.scalar .int32) }] true,
    .build "d" "Door" (some "t") [{ name := "O", body := .bitfield }] true]

/-- Requests that give the name of the thing to another type. -/
def replaceThing : List TypeRequest :=
  [.unregister "Thing",
    .build "u" "Thing" none [{ name := "H", body := .field (.scalar .int32) }] true]

/-- When the name of its parent is given to another type, a door is what it was. -/
theorem registry_refines_map_replaced :
    (Registry.empty.run [.register thing, .register otherThing, .unregister "Thing",
      .register otherThing]).get? "Thing" = some otherThing ∧
    Workspace.lookUp ((({} : Workspace).askAll furnish).askAll replaceThing).types "d" = some door ∧
    door.isChildOf thing = true ∧ door.isChildOf otherThing = false := by
  obtain ⟨hmap, -, hheld⟩ := registry_refines_map
  have hmade : ∀ request ∈ furnish ++ replaceThing, request.Made := by
    simp only [furnish, replaceThing, List.cons_append, List.nil_append, List.mem_cons,
      List.not_mem_nil, or_false, forall_eq_or_imp, forall_eq, TypeRequest.Made,
      SpecBody.field.injEq, reduceCtorEq, false_imp_iff, implies_true, true_and]
    exact ⟨fun _ h => h ▸ .scalar _, fun _ h => h ▸ .scalar _⟩
  obtain ⟨-, hdescriptors⟩ := hheld furnish replaceThing hmade
  obtain ⟨hsame, -, hchild⟩ := hdescriptors "d" door rfl (by simp [replaceThing, TypeRequest.id?])
  refine ⟨((hmap _).get?_eq "Thing").trans rfl, hsame, ?_, ?_⟩
  · exact (hchild "t" thing rfl).mpr (List.mem_cons_of_mem _ List.mem_cons_self)
  · rw [Bool.eq_false_iff]
    intro hother
    have hline := (hchild "u" otherThing rfl).mp hother
    have hserial : otherThing.serial ∈ door.lineage.map (·.serial) := List.mem_map_of_mem hline
    exact absurd hserial (by decide)

end PropertyReflection
