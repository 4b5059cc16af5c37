import PropertyReflection.Kind.Traits

/-!
# Declarations of properties and what can be wrong with them

A type is built from declarations.  Each names a property and says what it holds; it may give the
offset, and is placed at the next free one otherwise.
-/

namespace PropertyReflection

/-- What a declared property holds. -/
inductive SpecBody where
  /-- Values of a kind. -/
  | field (kind : Kind)
  /-- One bit of a byte that is shared with other bitfields. -/
  | bitfield

/-- The declaration of one property. -/
structure PropertySpec where
  name : String
  body : SpecBody
  /-- The number of elements. -/
  dim : Nat := 1
  /-- The declared attributes. -/
  flags : PropertyFlags := .none
  /-- The offset, if the property is pinned to one.  For a bitfield it names the shared byte. -/
  offset : Option Nat := none

/-- Why a type cannot be laid out. -/
inductive LayoutFault where
  /-- An earlier or an inherited property has the same name. -/
  | duplicateProperty (property : String)
  /-- A property has no elements. -/
  | zeroArrayDim (property : String)
  /-- A bitfield has other than one element. -/
  | bitfieldArray (property : String) (dim : Nat)
  /-- A pinned property does not suit its alignment. -/
  | misaligned (property : String) (offset align : Nat)
  /-- A property takes a byte that something else has; `other` is an earlier property, or the
  parent type for the inherited bytes. -/
  | overlapping (property other : String)
  /-- No bit is left in the byte of a bitfield. -/
  | bitfieldByteFull (property : String) (offset : Nat)
  /-- A boolean that is no bitfield has no bits. -/
  | zeroFieldMask (property : String)
  /-- The type does not fit the address space, or is larger than a 32-bit export can report. -/
  | typeTooLarge
deriving DecidableEq, Repr

/-- The words in which a fault of the type called `type` is reported. -/
def LayoutFault.message (type : String) : LayoutFault → String
  | .duplicateProperty property =>
    s!"Property '{property}' is declared more than once on '{type}'"
  | .zeroArrayDim property => s!"Property '{property}' on '{type}' has array dimension 0"
  | .bitfieldArray property dim =>
    s!"Bitfield '{property}' on '{type}' cannot have array dimension {dim}"
  | .misaligned property offset align =>
    s!"Property '{property}' on '{type}' at offset {offset} is not aligned to {align}"
  | .overlapping property other => s!"Property '{property}' on '{type}' overlaps '{other}'"
  | .bitfieldByteFull property offset =>
    s!"No free bit left at offset {offset} for bitfield '{property}' on '{type}'"
  | .zeroFieldMask property => s!"Boolean '{property}' on '{type}' has an empty field mask"
  | .typeTooLarge => s!"Type '{type}' is too large to be described"

/-- How laying out a type can fail: the declarations are faulty, or the layout ends so close to the
end of the address space that rounding it up overflows a machine word. -/
inductive BuildFailure where
  | rejected (fault : LayoutFault)
  | overflow
deriving DecidableEq, Repr

end PropertyReflection
