import PropertyReflection.Log

/-!
# The table of exports

The host binds the functions of the bridge by name.  The table lists them in a fixed order.
-/

namespace PropertyReflection

/-- The functions that the host can bind. -/
inductive Export where
  | resolvePropertyByName
  | getOffsetByName
  | getArrayDimByName
  | getOffset
  | getSize
  | getArrayDim
  | initializeValue
  | destroyValue
  | destroyValueInContainer
  | copySingleValue
  | identical
  | getValueTypeHash
  | hasAnyFlag
  | hasAllFlags
  | getBooleanFieldMask
  | getInnerFields
deriving DecidableEq, Repr

namespace Export

/-- The name under which the host finds a function. -/
def name : Export → String
  | resolvePropertyByName => "ResolvePropertyByName"
  | getOffsetByName => "GetOffsetByName"
  | getArrayDimByName => "GetArrayDimByName"
  | getOffset => "GetOffset"
  | getSize => "GetSize"
  | getArrayDim => "GetArrayDim"
  | initializeValue => "InitializeValue"
  | destroyValue => "DestroyValue"
  | destroyValueInContainer => "DestroyValueInContainer"
  | copySingleValue => "CopySingleValue"
  | identical => "Identical"
  | getValueTypeHash => "GetValueTypeHash"
  | hasAnyFlag => "HasAnyFlag"
  | hasAllFlags => "HasAllFlags"
  | getBooleanFieldMask => "GetBooleanFieldMask"
  | getInnerFields => "GetInnerFields"

/-- Every function, in the order of the table. -/
def table : List Export :=
  [resolvePropertyByName, getOffsetByName, getArrayDimByName, getOffset, getSize, getArrayDim,
   initializeValue, destroyValue, destroyValueInContainer, copySingleValue, identical,
   getValueTypeHash, hasAnyFlag, hasAllFlags, getBooleanFieldMask, getInnerFields]

/-- The function of a name. -/
def find? (name : String) : Option Export := table.find? (·.name == name)

/-- Hand every function over to the host, and report each before. -/
def registerAll : Logged (List Export) :=
  ⟨table, table.map fun entry => .registeringExport entry.name⟩

/-- The table has every function. -/
theorem mem_table (entry : Export) : entry ∈ table := by
  cases entry <;> decide

/-- No two functions have the same name. -/
theorem name_injective {e f : Export} (h : e.name = f.name) : e = f := by
  cases e <;> cases f <;> first | rfl | (revert h; decide)

end Export

end PropertyReflection
