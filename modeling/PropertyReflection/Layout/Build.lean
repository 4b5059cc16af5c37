import PropertyReflection.Layout.Placement

/-!
# Building a type

`build` lays properties out the way a C compiler does: each at the next offset that suits its
alignment, the size rounded up to the largest alignment.  An instance has at least one byte, and at
most as many as a 32-bit export can report.
-/

namespace PropertyReflection

namespace TypeDescriptor

/-- True if the parent has a property of this name. -/
def inherits (parent : Option TypeDescriptor) (name : String) : Bool :=
  (parent.bind (·.find? name)).isSome

/-- Place the declared properties in order, behind those already placed. -/
def placeAll (parent : Option TypeDescriptor) : List PropertySpec → Placement → List Property →
    Except BuildFailure (Placement × List Property)
  | [], p, placed => .ok (p, placed)
  | spec :: rest, p, placed => do
    if inherits parent spec.name || placed.any (·.name == spec.name) then
      throw (.rejected (.duplicateProperty spec.name))
    if spec.dim = 0 then throw (.rejected (.zeroArrayDim spec.name))
    let (p, property) ← p.place spec
    placeAll parent rest p (placed ++ [property])

/-- The size of an instance whose properties end at `cursor`. -/
def finalSize (cursor align : Nat) : Except BuildFailure Nat :=
  match alignUpWord (max cursor 1) align with
  | .error .overflow => .error .overflow
  | .error .tooLarge => .error (.rejected .typeTooLarge)
  | .ok size => if size ≤ maxExtent then .ok size else .error (.rejected .typeTooLarge)

/-- Lay out a type with the declared properties behind those of its parent. -/
def build (serial : Nat) (name : String) (parent : Option TypeDescriptor)
    (specs : List PropertySpec) : Except BuildFailure TypeDescriptor := do
  let (p, properties) ← placeAll parent specs (.start parent) []
  let size ← finalSize p.cursor p.align
  return { serial, name, size, align := p.align, superType := parent, properties }

end TypeDescriptor

end PropertyReflection
