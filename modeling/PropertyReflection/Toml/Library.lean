/-!
# TOML as a library reads it

The bridge does not read TOML itself.  It hands a text to a library and is told what the keys at the
top of the document stand for, or why the text is refused.  `Library` is what it asks of one.  Which
texts are documents, what is in them and how a refusal is worded is up to the library.
-/

namespace PropertyReflection

namespace Toml

/-- A value.  Only booleans and strings are kept apart, since no setting is anything else. -/
inductive Value where
  | boolean (value : Bool)
  | text (contents : String)
  | other

namespace Value

/-- The truth value that a boolean is. -/
def boolean? : Value → Option Bool
  | boolean value => some value
  | _ => none

/-- The contents of a string. -/
def text? : Value → Option String
  | text contents => some contents
  | _ => none

theorem boolean?_eq_some_iff (value : Value) (truth : Bool) :
    value.boolean? = some truth ↔ value = boolean truth := by
  cases value <;> simp [boolean?]

theorem text?_eq_some_iff (value : Value) (contents : String) :
    value.text? = some contents ↔ value = text contents := by
  cases value <;> simp [text?]

end Value

/-- A document, by what the keys at its top stand for. -/
structure Document where
  get? : String → Option Value

/-- Why a text is refused, in the words of the library. -/
structure Fault where
  message : String
deriving DecidableEq, Repr

/-- A library that reads TOML. -/
structure Library where
  /-- The document that a text is, or why it is none. -/
  parse : String → Except Fault Document
  /-- What there is to say about a text that is a document, but has a value of another sort than is
  asked for. -/
  illTyped : String → Fault

end Toml

end PropertyReflection
