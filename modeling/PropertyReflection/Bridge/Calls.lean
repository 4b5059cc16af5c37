import PropertyReflection.Bridge.Export
import PropertyReflection.Bridge.Lookup
import PropertyReflection.Value.Digest
import PropertyReflection.Value.Located

/-!
# Calls of the exports

Each export answers by a question to a descriptor or an operation on a value.  While the bridge
traces calls, it also reports the call.  Tracing changes nothing else: the answer of a call is that
of the descriptor, whether or not it is traced.

A lookup without a type or without a name finds nothing and is not reported.
-/

namespace PropertyReflection

/-- The event of a call, if calls are traced. -/
def traceCall (tracing : Bool) (entry : Export) (details : String) : List LogEvent :=
  if tracing then [.called entry.name details] else []

namespace Calls

/-! ## Lookups by name -/

/-- A lookup on a type and a C string, either of which may be missing. -/
def byName {α : Type} (entry : Export) (absent : α) (f : TypeDescriptor → List UInt8 → α)
    (tracing : Bool) (type : Option TypeDescriptor) (name : Option (List UInt8)) : Logged α :=
  match type, name with
  | some type, some name =>
    let name := Text.untilNul name
    ⟨f type name, traceCall tracing entry (type.name ++ "." ++ Text.quoteBytes name)⟩
  | _, _ => ⟨absent, []⟩

/-- The property of a name. -/
def resolvePropertyByName :
    Bool → Option TypeDescriptor → Option (List UInt8) → Logged (Option Property) :=
  byName .resolvePropertyByName none TypeDescriptor.resolve?

/-- The offset of the property of a name. -/
def getOffsetByName : Bool → Option TypeDescriptor → Option (List UInt8) → Logged Int :=
  byName .getOffsetByName notFound TypeDescriptor.offsetByName

/-- The number of elements of the property of a name. -/
def getArrayDimByName : Bool → Option TypeDescriptor → Option (List UInt8) → Logged Int :=
  byName .getArrayDimByName notFound TypeDescriptor.arrayDimByName

/-- The mask of the boolean of a name. -/
def getBooleanFieldMask : Bool → Option TypeDescriptor → Option (List UInt8) → Logged UInt8 :=
  byName .getBooleanFieldMask noFieldMask TypeDescriptor.boolFieldMaskByName

/-! ## Questions to a property -/

/-- A question to a property. -/
def ask {α : Type} (entry : Export) (f : Property → α) (tracing : Bool) (property : Property) :
    Logged α :=
  ⟨f property, traceCall tracing entry property.name⟩

/-- The offset. -/
def getOffset : Bool → Property → Logged Int := ask .getOffset fun p => reportExtent p.offset

/-- The size of one element. -/
def getSize : Bool → Property → Logged Int := ask .getSize fun p => reportExtent p.size

/-- The number of elements. -/
def getArrayDim : Bool → Property → Logged Int := ask .getArrayDim fun p => reportExtent p.dim

/-- Write the nested properties into the first slots of a buffer, as many as it takes. -/
def fillSlots (fields : List Property) (capacity : Int) (out : List (Option Property)) :
    List (Option Property) :=
  let written := fields.take capacity.toNat
  written.map some ++ out.drop written.length

/-- The number of nested properties.  If there is a buffer, as many of them as `capacity` allows are
written to its first slots; a negative capacity allows none. -/
def getInnerFields (tracing : Bool) (property : Property) (out : Option (List (Option Property)))
    (capacity : Int) : Logged (Int × Option (List (Option Property))) :=
  let fields := property.innerFields
  ⟨(reportExtent fields.length, out.map (fillSlots fields capacity)),
    traceCall tracing .getInnerFields property.name⟩

/-- The details of a question about flags. -/
def maskDetails (property : Property) (mask : PropertyFlags) : String :=
  property.name ++ " & 0x" ++ Text.hex mask.bits.toNat

/-- True if the property has some attribute of a set. -/
def hasAnyFlag (tracing : Bool) (property : Property) (mask : PropertyFlags) : Logged Bool :=
  ⟨property.flags.intersects mask, traceCall tracing .hasAnyFlag (maskDetails property mask)⟩

/-- True if the property has every attribute of a set. -/
def hasAllFlags (tracing : Bool) (property : Property) (mask : PropertyFlags) : Logged Bool :=
  ⟨property.flags.contains mask, traceCall tracing .hasAllFlags (maskDetails property mask)⟩

/-! ## Operations on values -/

/-- Make default values of all elements. -/
def initializeValue (tracing : Bool) (property : Property) (m : Block) (p : Place) :
    Logged Block :=
  ⟨property.construct m p.address,
    traceCall tracing .initializeValue (property.name ++ " at " ++ p.render)⟩

/-- Destroy all elements. -/
def destroyValue (tracing : Bool) (property : Property) (m : Block) (p : Place) : Logged Block :=
  ⟨property.destroy m p.address,
    traceCall tracing .destroyValue (property.name ++ " at " ++ p.render)⟩

/-- Destroy all elements inside the instance at a place. -/
def destroyValueInContainer (tracing : Bool) (property : Property) (m : Block) (p : Place) :
    Logged Block :=
  ⟨property.destroyIn m p.address,
    traceCall tracing .destroyValueInContainer (property.name ++ " in " ++ p.render)⟩

/-- Copy the first element. -/
def copySingleValue (tracing : Bool) (property : Property) (m : Block) (p : Place)
    (source : Block) (q : Place) : Logged (Except StorageFault Block) :=
  ⟨property.copyFirstAt m p source q,
    traceCall tracing .copySingleValue (property.name ++ " " ++ p.render ++ " <- " ++ q.render)⟩

/-- Value equality of the first elements. -/
def identical (tracing : Bool) (property : Property) (m : Block) (p : Place) (n : Block)
    (q : Place) : Logged Bool :=
  ⟨property.identicalFirstAt m p n q,
    traceCall tracing .identical (property.name ++ " " ++ p.render ++ " == " ++ q.render)⟩

/-- The hash of the first element. -/
def getValueTypeHash (tracing : Bool) (property : Property) (m : Block) (p : Place) :
    Logged UInt32 :=
  ⟨property.hashFirst m p.address,
    traceCall tracing .getValueTypeHash (property.name ++ " at " ++ p.render)⟩

end Calls

end PropertyReflection
