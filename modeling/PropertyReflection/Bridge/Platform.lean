import PropertyReflection.Toml.Library

/-!
# What a start rests on

The bridge reads a file, has a library read the TOML in it, and installs a logger.  What comes of
this is not up to the bridge: the operating system knows which paths lead to files, the library
knows which texts are documents, and the process has a logger already or has none.  `Platform` is
all this at the time of a start.  Nothing is assumed about it, so that what holds of a start holds
on every platform.

Paths and the contents of files are byte strings, as they are to the operating system.
-/

namespace PropertyReflection

/-- Why a file cannot be read, in the words in which this is reported. -/
structure ReadFault where
  message : String
deriving DecidableEq, Repr

/-- The contents of a file are not text. -/
def ReadFault.invalidUtf8 : ReadFault := ⟨"stream did not contain valid UTF-8"⟩

/-- The surroundings of the bridge. -/
structure Platform where
  /-- The bytes of the file at a path, or why there are none. -/
  read : List UInt8 → Except ReadFault (List UInt8)
  toml : Toml.Library
  /-- True if the process has a logger already. -/
  hasLogger : Bool

end PropertyReflection
