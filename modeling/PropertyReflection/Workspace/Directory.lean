import PropertyReflection.Bridge.Platform
import PropertyReflection.Toml.Document

/-!
# Working directories

The platform of a workspace is one of many.  Its files are those that lie in a working directory;
there are no files elsewhere, so that paths which lead out of it find nothing.  A workspace keeps
what is reported, and is the logger that its process has.  Names are byte strings.
-/

namespace PropertyReflection

namespace ReadFault

def notFound : ReadFault := ⟨"No such file or directory (os error 2)"⟩

def notADirectory : ReadFault := ⟨"Not a directory (os error 20)"⟩

def isADirectory : ReadFault := ⟨"Is a directory (os error 21)"⟩

def nameTooLong : ReadFault := ⟨"File name too long (os error 36)"⟩

/-- The path has a zero byte inside. -/
def interiorNul : ReadFault := ⟨"file name contained an unexpected NUL byte"⟩

end ReadFault

/-- Something that has a name in a directory. -/
inductive FileNode where
  /-- A file with its contents. -/
  | file (contents : List UInt8)
  /-- A directory without files. -/
  | directory

/-- The contents of the working directory. -/
structure WorkingDirectory where
  entries : List (List UInt8 × FileNode)

namespace WorkingDirectory

/-- Put a file into the working directory, in place of what had its name. -/
def write (files : WorkingDirectory) (name contents : List UInt8) : WorkingDirectory :=
  ⟨(name, .file contents) :: files.entries.filter (·.1 != name)⟩

/-- How far the walk along a path has come. -/
inductive Position where
  /-- The working directory. -/
  | here
  /-- Something in it. -/
  | found (node : FileNode)
  /-- Some other directory. -/
  | elsewhere

/-- The longest name of a file, in bytes. -/
def maxName : Nat := 255

/-- The longest path, in bytes. -/
def maxPath : Nat := 4095

/-- Follow one name of a path. -/
def step (files : WorkingDirectory) (name : List UInt8) : Position → Except ReadFault Position
  | .found (.file _) => .error .notADirectory
  | position =>
    if name = [] ∨ name = ".".toUTF8.toList then .ok position
    else if name = "..".toUTF8.toList then
      match position with
      | .found .directory => .ok .here
      | _ => .ok .elsewhere
    else if maxName < name.length then .error .nameTooLong
    else
      match position with
      | .here =>
        match files.entries.find? (·.1 == name) with
        | some (_, node) => .ok (.found node)
        | none => .error .notFound
      | _ => .error .notFound

/-- Cut a path at its slashes. -/
def names (path : List UInt8) : List (List UInt8) := path.splitOn 0x2f

/-- The bytes of the file that a path names. -/
def read (files : WorkingDirectory) (path : List UInt8) : Except ReadFault (List UInt8) := do
  if path.contains 0 then throw .interiorNul
  if path.isEmpty then throw .notFound
  if maxPath < path.length then throw .nameTooLong
  let start : Position := if path.head? = some 0x2f then .elsewhere else .here
  match ← (names path).foldlM (fun position name => files.step name position) start with
  | .found (.file contents) => return contents
  | _ => throw .isADirectory

/-- The platform on which there are these files and no others. -/
def platform (files : WorkingDirectory) : Platform where
  read := files.read
  toml := Toml.library
  hasLogger := true

end WorkingDirectory

end PropertyReflection
