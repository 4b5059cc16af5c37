import Mathlib
import PropertyReflection.Proofs.ContainerContract
import PropertyReflection.Proofs.DefaultValues

/-!
# Arrays as lists

What an array holds is the list of its elements, `ArrayValue.contents`, and each operation on arrays
is one on lists: a default value is appended, an element is written or erased, and all of them are
forgotten or replaced by those of another array.  The elements may own texts and containers of their
own; where an element goes when the storage grows or a gap is closed, what it owns goes with it.

A copy of an array keeps the meanings of the elements and not the bits that make a boolean true, so
the list that an array is compared with is one of meanings.  The other operations leave the elements
that they are not about as they were, bits included.

### Outline

* default values as data: `Kind.initial` and `Kind.Default.read_eq`;
* one operation: `contents_push`, `contents_remove?`, `contents_write` and `copyAt_array`;
* `Edit` and `Performs`, an operation on a list and on an array, and `Performs.meanings_eq`;
* `History`, and what holds after every history: `History.behavesAsList`.
-/

namespace PropertyReflection

/-! ### Default values as data -/

mutual

/-- What a default value of a kind reads as. -/
def Kind.initial : Kind → Value
  | .bool _ => .bool 0
  | .scalar s => .scalar s 0
  | .string => .text ""
  | .struct type => .struct type.initialFields
  | .array _ => .list []
  | .map .. => .map []

/-- What the properties of a default value read as, the inherited ones first. -/
def TypeDescriptor.initialFields : TypeDescriptor → List (String × Value)
  | { superType := none, properties := own, .. } => initialOfProperties own
  | { superType := some parent, properties := own, .. } =>
    parent.initialFields ++ initialOfProperties own

/-- What the listed properties of a default value read as. -/
def initialOfProperties : List Property → List (String × Value)
  | [] => []
  | { name, dim, kind, .. } :: rest =>
    (name, Value.ofElements dim fun _ => kind.initial) :: initialOfProperties rest

end

theorem initialOfProperties_eq_map (properties : List Property) :
    initialOfProperties properties =
      properties.map fun p => (p.name, Value.ofElements p.dim fun _ => p.kind.initial) := by
  induction properties with
  | nil => rfl
  | cons property _ ih =>
    cases property
    simp [initialOfProperties, ih]

theorem TypeDescriptor.initialFields_eq_map (type : TypeDescriptor) :
    type.initialFields =
      type.allProperties.map fun p =>
        (p.name, Value.ofElements p.dim fun _ => p.kind.initial) := by
  match type with
  | { superType := none, .. } => simp [initialFields, allProperties, initialOfProperties_eq_map]
  | { superType := some parent, .. } =>
    have ih := parent.initialFields_eq_map
    simp [initialFields, allProperties, initialOfProperties_eq_map, ih]

/-- A default value reads as one. -/
theorem Kind.Default.read_eq {kind : Kind} {m : Block} {a : Nat} (h : kind.Default m a) :
    kind.read m a = kind.initial := by
  induction h with
  | bool unset =>
    rw [read, initial]
    exact congrArg Value.bool (by simpa [Block.bool] using unset)
  | scalar zero => rw [read, initial, zero]
  | string empty => rw [read, initial, Block.text, empty]
  | struct _ ih =>
    rw [read, initial, TypeDescriptor.readFields_eq_map, TypeDescriptor.initialFields_eq_map]
    refine congrArg Value.struct (List.map_congr_left fun p hp => congrArg (Prod.mk p.name) ?_)
    exact Value.ofElements_congr fun i hi => ih p hp i hi
  | array empty =>
    rw [read, initial, Block.slots_eq_empty_of_cell empty]
    rfl
  | map empty =>
    rw [read, initial, Block.slots_eq_empty_of_cell empty]
    rfl

namespace ArrayValue

/-- The elements of an array, first to last. -/
def contents (element : Kind) (storage : Slots Cell) : List Value :=
  (List.range storage.count).map fun i =>
    element.read storage.cells (Elements.address 0 element.size i)

variable {element : Kind} {storage after : Slots Cell} {i : Nat}

/-- An array reads as its elements. -/
theorem read_array_eq (element : Kind) (m : Block) (a : Nat) :
    (Kind.array element).read m a = .list (contents element (m.slots a)) := by
  rw [Kind.read]
  rfl

@[simp] theorem length_contents (element : Kind) (storage : Slots Cell) :
    (contents element storage).length = storage.count := by
  rw [contents, List.length_map, List.length_range]

theorem getElem_contents (h : i < (contents element storage).length) :
    (contents element storage)[i] =
      element.read storage.cells (Elements.address 0 element.size i) := by
  simp only [contents, List.getElem_map, List.getElem_range]

/-! ### One operation -/

/-- Appending a default value to an array appends one to the list. -/
theorem contents_push (live : Live element storage) (sound : element.Sound)
    (ok : push element storage = .ok after) :
    contents element after = contents element storage ++ [element.initial] := by
  obtain ⟨-, hcount, hsame, cells, hfits, hcells⟩ := push_cells live.storage sound ok
  refine List.ext_getElem (by simp [hcount]) fun i hi _ => ?_
  rw [length_contents, hcount] at hi
  rw [getElem_contents]
  by_cases hold : i < storage.count
  · rw [List.getElem_append_left (by simpa using hold), getElem_contents]
    exact sound.read_congr_cells (hsame i hold)
  · obtain rfl : i = storage.count := by omega
    rw [List.getElem_append_right (by simp), hcells]
    simpa using (sound.default_construct hfits).read_eq

/-- Removing an element from an array erases it from the list. -/
theorem contents_remove? (live : Live element storage) (sound : element.Sound)
    (ok : remove? element storage i = some after) :
    contents element after = (contents element storage).eraseIdx i := by
  obtain ⟨hi, -, hcount, hsame⟩ := remove?_cells live.storage sound ok
  refine List.ext_getElem (by simp [List.length_eraseIdx, hcount, hi]) fun j hj _ => ?_
  rw [length_contents, hcount] at hj
  rw [getElem_contents, sound.read_congr_cells (hsame j hj), List.getElem_eraseIdx]
  split
  all_goals rw [getElem_contents]

/-- Writing to an element of an array replaces it in the list. -/
theorem contents_write (sound : element.Sound) {x : Nat} {cells : Block}
    (found : elementAddress? element storage i = some x)
    (changed : Block.ChangedOnly storage.cells cells x element.size) :
    contents element { storage with cells := cells } =
      (contents element storage).set i (element.read cells x) := by
  obtain ⟨hi, rfl⟩ := elementAddress?_eq_some_iff.mp found
  refine List.ext_getElem (by simp) fun j hj _ => ?_
  rw [getElem_contents, List.getElem_set]
  split
  · next hself => rw [hself]
  · next hne =>
    rw [getElem_contents]
    exact sound.read_congr_cells
      (changed.sameCells (Elements.address_apart (Ne.symm hne) 0 element.size))

/-- An array stays live when a live element is written. -/
theorem Live.write (live : Live element storage) (sound : element.Sound) {x : Nat} {cells : Block}
    (found : elementAddress? element storage i = some x)
    (changed : Block.ChangedOnly storage.cells cells x element.size)
    (elementLive : element.Live cells x) : Live element { storage with cells := cells } := by
  obtain ⟨hi, rfl⟩ := elementAddress?_eq_some_iff.mp found
  refine ⟨⟨live.storage.count_le, live.storage.allocated,
    changed.size_eq.symm ▸ live.storage.cells_size⟩, fun j hj => ?_⟩
  by_cases hself : j = i
  · exact hself ▸ elementLive
  · exact sound.live_congr_cells
      (changed.sameCells (Elements.address_apart hself 0 element.size)) (live.elementLive j hj)

/-- The meanings of the elements of an array. -/
def meanings (element : Kind) (storage : Slots Cell) : List Value :=
  (contents element storage).map Value.meaning

/-- A copy of an array has elements of the same meanings. -/
theorem meanings_of_isCopy {m source : Block} {a b : Nat}
    (copy : (Kind.array element).IsCopy m a source b) :
    meanings element (m.slots a) = meanings element (source.slots b) := by
  have h := copy.meaning_eq
  rw [read_array_eq, read_array_eq, Value.meaning, Value.meaning, meaningOfList_eq_map,
    meaningOfList_eq_map] at h
  exact Value.list.inj h

/-- After arrays were copied, if only onto themselves, they are live and have elements of the same
meanings as the source. -/
theorem copyAt_array {scope : Scope} {property : Property}
    (isArray : property.kind = .array element) (sound : element.Sound) {memory : String → Block} {p q : Place}
    (fits : p.address + (scope.view property).totalSize ≤ (p.block memory).size)
    (live : scope.Live property (q.block memory) q.address) {m' : Block}
    (ok : scope.copyAt property (p.block memory) p (q.block memory) q = .ok m') {i : Nat}
    (hi : i < (scope.view property).dim) :
    Live element (m'.slots (Elements.address p.address property.size i)) ∧
      meanings element (m'.slots (Elements.address p.address property.size i)) =
        meanings element ((q.block memory).slots (Elements.address q.address property.size i)) := by
  by_cases hself : p = q
  · -- nothing is copied
    subst hself
    obtain rfl : p.block memory = m' := by
      cases scope <;> simpa [Scope.copyAt, Property.copyAllAt] using ok
    have hlive := live i hi
    rw [isArray] at hlive
    exact ⟨live_array_iff.mp hlive, rfl⟩
  · have hsound : (scope.view property).kind.Sound := by
      rw [scope.kind_view, isArray]
      exact .array sound
    have hlive : ∀ j < (scope.view property).dim, (scope.view property).kind.Live
        (q.block memory) (Elements.address q.address (scope.view property).size j) := by
      rw [scope.kind_view, scope.size_view]
      exact live
    obtain ⟨copied, hok, -, hcopies⟩ :=
      Property.copyAll_ok hsound hsound.copiesFaithfully fits hlive
    obtain rfl : copied = m' :=
      Except.ok.inj (hok.symm.trans ((scope.copyAt_eq property hself _ _).symm.trans ok))
    have hcopy := hcopies i hi
    rw [scope.kind_view, scope.size_view, isArray] at hcopy
    exact ⟨live_array_iff.mp hcopy.live, meanings_of_isCopy hcopy⟩

/-! ### Histories -/

/-- An operation on a list of values. -/
inductive Edit where
  | append
  | update (index : Nat) (value : Value)
  | erase (index : Nat)
  | empty
  | assign (values : List Value)

/-- What a list becomes.  What is appended is the default value. -/
def Edit.onList (element : Kind) (values : List Value) : Edit → List Value
  | append => values ++ [element.initial.meaning]
  | update index value => values.set index value
  | erase index => values.eraseIdx index
  | empty => []
  | assign others => others

/-- An operation on an array, and the one on lists that it stands for. -/
inductive Performs (element : Kind) : Slots Cell → Edit → Slots Cell → Prop where
  | push {storage after : Slots Cell} (ok : push element storage = .ok after) :
    Performs element storage .append after
  /-- Where an element is, something is written that is a live element again. -/
  | write {storage : Slots Cell} {i x : Nat} {cells : Block}
    (found : elementAddress? element storage i = some x)
    (changed : Block.ChangedOnly storage.cells cells x element.size)
    (elementLive : element.Live cells x) :
    Performs element storage (.update i (element.read cells x).meaning)
      { storage with cells := cells }
  /-- Where there is no element, nothing is removed. -/
  | remove (storage : Slots Cell) (i : Nat) :
    Performs element storage (.erase i) ((remove? element storage i).getD storage)
  | clear (storage : Slots Cell) : Performs element storage .empty (clear storage)
  /-- A value that consists of arrays, or is one, is copied to a place apart or onto itself. -/
  | copy {scope : Scope} {property : Property} (isArray : property.kind = .array element)
    {memory : String → Block} {p q : Place}
    (separate : p = q ∨ p.Apart q (scope.view property).totalSize)
    (fits : p.address + (scope.view property).totalSize ≤ (p.block memory).size)
    (live : scope.Live property (q.block memory) q.address) {m' : Block}
    (ok : scope.copyAt property (p.block memory) p (q.block memory) q = .ok m') {i : Nat}
    (hi : i < (scope.view property).dim) :
    Performs element ((p.block memory).slots (Elements.address p.address property.size i))
      (.assign (meanings element
        ((q.block memory).slots (Elements.address q.address property.size i))))
      (m'.slots (Elements.address p.address property.size i))

/-- The arrays that come of new ones, and the operations on lists that led there. -/
inductive History (element : Kind) : List Edit → Slots Cell → Prop where
  | new : History element [] .empty
  | step {edits : List Edit} {before after : Slots Cell} {edit : Edit}
    (history : History element edits before) (performs : Performs element before edit after) :
    History element (edits ++ [edit]) after

theorem live_empty (element : Kind) : Live element .empty :=
  ⟨Slots.sound_empty _ _, fun i hi => absurd hi (Nat.not_lt_zero i)⟩

/-- An operation on an array is one on the list of its elements. -/
theorem Performs.meanings_eq {before : Slots Cell} {edit : Edit}
    (h : Performs element before edit after) (sound : element.Sound)
    (live : Live element before) :
    Live element after ∧
      meanings element after = edit.onList element (meanings element before) := by
  cases h with
  | push ok =>
    refine ⟨live.push sound ok, ?_⟩
    rw [meanings, contents_push live sound ok, List.map_append]
    rfl
  | write found changed elementLive =>
    refine ⟨live.write sound found changed elementLive, ?_⟩
    rw [meanings, contents_write sound found changed, List.map_set]
    rfl
  | remove _ i =>
    cases hremove : remove? element before i with
    | none =>
      refine ⟨live, (List.eraseIdx_of_length_le ?_).symm⟩
      simpa [meanings] using remove?_eq_none_iff.mp hremove
    | some left =>
      refine ⟨live.remove? sound hremove, ?_⟩
      rw [Option.getD_some, meanings, contents_remove? live sound hremove, ← List.eraseIdx_map]
      rfl
  | clear => exact ⟨live_empty element, rfl⟩
  | copy isArray _ fits liveSource ok hi => exact copyAt_array isArray sound fits liveSource ok hi

/-- What holds of an array with the given elements, and of the next operation on it. -/
structure BehavesAsList (element : Kind) (values : List Value) (storage : Slots Cell) : Prop where
  meanings_eq : meanings element storage = values
  live : Live element storage
  elementAddress?_eq_none_iff : ∀ i,
    elementAddress? element storage i = none ↔ values.length ≤ i
  read_element : ∀ i x, elementAddress? element storage i = some x →
    values[i]? = some (element.read storage.cells x).meaning
  /-- A default value can be appended as long as there is memory, and no element changes. -/
  push_fails_iff : ∀ fault, push element storage = .error fault ↔
    storage.reserve 1 element.size element.align = .error fault
  contents_push : ∀ after, push element storage = .ok after →
    contents element after = contents element storage ++ [element.initial]
  contents_write : ∀ i x cells, elementAddress? element storage i = some x →
    Block.ChangedOnly storage.cells cells x element.size →
    contents element { storage with cells := cells } =
      (contents element storage).set i (element.read cells x)
  remove?_eq_none_iff : ∀ i, remove? element storage i = none ↔ values.length ≤ i
  /-- No other element changes when one is removed. -/
  contents_remove? : ∀ i after, remove? element storage i = some after →
    contents element after = (contents element storage).eraseIdx i
  contents_clear : contents element (clear storage) = []
  /-- The array can be copied to wherever there is one. -/
  copied : ∀ (m source : Block) (a b : Nat), a + handleSize ≤ m.size → source.slots b = storage →
    ∃ m', (Kind.array element).copy m a source b = .ok m' ∧
      meanings element (m'.slots a) = values

/-- Pushing fails exactly if there is no room. -/
theorem push_eq_error_iff {fault : StorageFault} :
    push element storage = .error fault ↔
      storage.reserve 1 element.size element.align = .error fault := by
  cases hroom : storage.reserve 1 element.size element.align with
  | error _ =>
    rw [push, Slots.extend_eq_error_of_reserve default hroom]
    rfl
  | ok room =>
    rw [push, Slots.extend_eq_of_reserve default hroom]
    simp [Bind.bind, Except.bind, pure, Except.pure]

theorem Live.behavesAsList_meanings (live : Live element storage) (sound : element.Sound) :
    BehavesAsList element (meanings element storage) storage where
  meanings_eq := rfl
  live := live
  elementAddress?_eq_none_iff i := by
    rw [ArrayValue.elementAddress?_eq_none_iff, meanings, List.length_map, length_contents]
  read_element i x hx := by
    obtain ⟨hi, rfl⟩ := elementAddress?_eq_some_iff.mp hx
    have hi : i < (contents element storage).length := by rwa [length_contents]
    rw [meanings, List.getElem?_map, List.getElem?_eq_getElem hi, getElem_contents]
    rfl
  push_fails_iff _ := push_eq_error_iff
  contents_push _ ok := ArrayValue.contents_push live sound ok
  contents_write _ _ _ found changed := ArrayValue.contents_write sound found changed
  remove?_eq_none_iff i := by
    rw [ArrayValue.remove?_eq_none_iff, meanings, List.length_map, length_contents]
  contents_remove? _ _ ok := ArrayValue.contents_remove? live sound ok
  contents_clear := rfl
  copied m source a b fits hsource := by
    have hlive : (Kind.array element).Live source b := live_array_iff.mpr (hsource ▸ live)
    obtain ⟨m', hok, -, hcopy⟩ := (Kind.Sound.array sound).copiesFaithfully m a source b fits hlive
    exact ⟨m', hok, by rw [meanings_of_isCopy hcopy, hsource]⟩

/-- After a history the elements are those of the list. -/
theorem History.meanings_eq {edits : List Edit} (history : History element edits storage)
    (sound : element.Sound) :
    Live element storage ∧
      meanings element storage = edits.foldl (Edit.onList element) [] := by
  induction history with
  | new => exact ⟨live_empty element, rfl⟩
  | step _ performs ih =>
    obtain ⟨hlive, hmeanings⟩ := performs.meanings_eq sound ih.1
    rw [hmeanings, ih.2, List.foldl_append]
    exact ⟨hlive, rfl⟩

/-- After every history an array behaves as a list with the elements that the history says. -/
theorem History.behavesAsList (made : (Kind.array element).Made) {edits : List Edit}
    (history : History element edits storage) :
    BehavesAsList element (edits.foldl (Edit.onList element) []) storage := by
  have hsound : element.Sound := by
    cases made.sound with
    | array elementSound => exact elementSound
  obtain ⟨hlive, hmeanings⟩ := history.meanings_eq hsound
  exact hmeanings ▸ hlive.behavesAsList_meanings hsound

/-- Of two names that were added the second one is changed and the first one removed. -/
def nameEdits : List Edit := [.append, .append, .update 1 (.text "late"), .erase 0, .erase 7]

theorem behavesAsList_names :
    (Kind.array .string).Made ∧ ∃ names : Slots Cell, History .string nameEdits names ∧
      BehavesAsList .string [.text "late"] names := by
  have made : (Kind.array .string).Made := .array .string
  obtain ⟨one, two, hone, htwo⟩ : ∃ one two : Slots Cell,
      push .string .empty = .ok one ∧ push .string one = .ok two := ⟨_, _, rfl, rfl⟩
  have live : Live .string one := (live_empty .string).push .string hone
  have hcountOne : one.count = 1 := (push_cells (live_empty .string).storage .string hone).2.1
  obtain ⟨hsound, hcount, -⟩ := push_cells live.storage .string htwo
  have hsize : two.count * 24 ≤ two.cells.size := hsound.cells_size
  have found : elementAddress? .string two 1 = some 24 :=
    elementAddress?_eq_some_iff.mpr ⟨by omega, rfl⟩
  have changed := Block.changedOnly_setCell two.cells 24 (.text "late")
  have hwrite := Performs.write found (changed.mono (le_refl _) (by decide)) (.string _ _)
  rw [Kind.read, Block.text, Block.cell_setCell_self (by omega)] at hwrite
  have history : History .string nameEdits _ :=
    ((((History.new.step (.push hone)).step (.push htwo)).step hwrite).step (.remove _ 0)).step
      (.remove _ 7)
  exact ⟨made, _, history, history.behavesAsList made⟩

end ArrayValue

end PropertyReflection
