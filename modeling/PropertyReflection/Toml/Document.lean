import PropertyReflection.Toml.Scalar
import PropertyReflection.Toml.Table

/-!
# TOML documents

A document is a sequence of lines that assign values to keys and of headers that say which table the
assignments below them belong to.  `parse?` gives the table of the whole document, or nothing if the
text is no document.  It makes up a library, whose refusals say no more than that there is one.

Arrays and inline tables may be nested, and dotted keys may have parts, below a fixed limit.
-/

namespace PropertyReflection

namespace Toml

/-- Values that are nested this deeply, and keys of this many parts, are refused. -/
def nestingLimit : Nat := 80

/-! ## Keys and values -/

/-- True of the characters of a key without quotes. -/
def isKeyChar (c : Char) : Bool :=
  ('A' ≤ c && c ≤ 'Z') || ('a' ≤ c && c ≤ 'z') || ('0' ≤ c && c ≤ '9') || c == '-' || c == '_'

/-- Take one part of a key. -/
def keyPart : Scan String := do
  let part ← basicString <|> literalString <|> do
    let cs ← span isKeyChar
    guard (!cs.isEmpty)
    return cs
  return String.ofList part

/-- Take a key and give the parts before the last, and the last. -/
def key : Scan (List String × String) := do
  let parts ← separated (blanks *> keyPart <* blanks) (char '.')
  guard (parts.length < nestingLimit)
  match parts.getLast? with
  | none => failure
  | some last => return (parts.dropLast, last)

/-- Take a key, an equals sign and a value. -/
def assignment (value : Scan Value) : Scan ((List String × String) × Value) := do
  let target ← key
  char '='
  blanks
  return (target, ← value)

/-- Take an array. -/
def array (value : Scan Value) : Scan Unit := do
  char '['
  let items ← separated (interspace *> value <* interspace) (char ',')
  if !items.isEmpty then
    let _ ← optional (char ',')
  interspace
  char ']'

/-- Take an inline table, in which no key may be assigned twice. -/
def inlineTable (value : Scan Value) : Scan Unit := do
  char '\x7b'
  let pairs ← separated (assignment value <* blanks) (char ',')
  blanks
  char '\x7d'
  let table := pairs.foldlM (fun table ((path, last), v) => Table.assign path last v table)
    Table.empty
  guard table.isSome

/-- Take a value that is nested in fewer than `room` others. -/
def value : Nat → Scan Value
  | 0 => scalar
  | room + 1 =>
    ((array (value room) <|> inlineTable (value room)) *> pure .other) <|> scalar
where
  /-- Take a value that has no others in it. -/
  scalar : Scan Value :=
    (.text <$> string)
      <|> (word ['t', 'r', 'u', 'e'] *> pure (.boolean true))
      <|> (word ['f', 'a', 'l', 's', 'e'] *> pure (.boolean false))
      <|> ((dateTime <|> number) *> pure .other)

/-! ## Lines -/

/-- A document up to some line.  The table of the last header is not yet part of the root. -/
structure Progress where
  /-- The tables that are complete. -/
  root : Table
  /-- The table that assignments go to. -/
  current : Table
  /-- The keys of its header, or none for the root itself. -/
  path : List String
  /-- True if the header names a sequence of tables. -/
  inSequence : Bool

namespace Progress

/-- Nothing read yet. -/
def start : Progress := ⟨.empty, .empty, [], false⟩

/-- Put the current table into its place in the root. -/
def finish (p : Progress) : Option Table :=
  match p.path.getLast? with
  | none => some p.current
  | some last =>
    p.root.modifyAt false
      (fun parent =>
        if p.inSequence then
          match parent.get? last with
          | none => some (parent.set last (.tables [p.current]))
          | some (.tables earlier) => some (parent.set last (.tables (earlier ++ [p.current])))
          | some _ => none
        else some (parent.set last (.table p.current)))
      p.path.dropLast

/-- Go on with the table of a header.  It may exist already if nothing but headers of tables inside
it has named it. -/
def openTable (p : Progress) (path : List String) (last : String) : Option Progress := do
  let root ← p.finish
  let current ← lookUp root
  let root ← root.modifyAt false (fun parent => some (parent.erase last)) path
  return ⟨root, { current with implicit := false, dotted := false }, path ++ [last], false⟩
where
  /-- The table that the header finds, which is a new one if the key is free. -/
  lookUp (root : Table) : Option Table := do
    let mut found : Table := .empty
    match parentAt path root with
    | none => pure ()
    | some parent =>
      match parent.get? last with
      | none => pure ()
      | some (.table table) => if table.implicit && !table.dotted then found := table else none
      | some _ => none
    return found
  /-- The table at the end of a path, if it exists. -/
  parentAt : List String → Table → Option Table
    | [], table => some table
    | key :: rest, table =>
      match table.get? key with
      | some (.table child) => parentAt rest child
      | some (.tables children) => children.getLast?.bind (parentAt rest)
      | _ => none

/-- Go on with a new table of a sequence. -/
def openSequence (p : Progress) (path : List String) (last : String) : Option Progress := do
  let root ← p.finish
  let root ← root.modifyAt false
    (fun parent =>
      match parent.get? last with
      | none | some (.tables _) => some parent
      | some _ => none)
    path
  return ⟨root, .empty, path ++ [last], true⟩

/-- Assign a value in the current table. -/
def assign (p : Progress) (path : List String) (last : String) (v : Value) : Option Progress := do
  return { p with current := ← p.current.assign path last v }

end Progress

/-- Take one line that is not blank. -/
def line (p : Progress) : Scan Progress := do
  blanks
  match ← next? with
  | none => failure
  | some '#' =>
    comment
    newline <|> atEnd
    return p
  | some '\n' | some '\r' =>
    newline
    return p
  | some '[' =>
    char '['
    let sequence := (← optional (char '[')).isSome
    let (path, last) ← key
    if sequence then word [']', ']'] else char ']'
    lineEnd
    StateT.lift (if sequence then p.openSequence path last else p.openTable path last)
  | some _ =>
    let ((path, last), v) ← assignment (value (nestingLimit - 1))
    lineEnd
    StateT.lift (p.assign path last v)

/-- Take lines up to the end of the text, at most `fuel` of them. -/
def lines (p : Progress) : Nat → Scan Table
  | 0 => failure
  | fuel + 1 => do
    blanks
    if (← get).isEmpty then StateT.lift p.finish
    else lines (← line p) fuel

/-- The table of a document.  A byte order mark at the start is no part of it. -/
def parse? (text : String) : Option Table :=
  let cs := text.toList
  let cs := if cs.head? = some (Char.ofNat 0xfeff) then cs.drop 1 else cs
  ((lines .start (cs.length + 1)).run cs).map (·.1)

/-- The library that reads documents with `parse?`. -/
def library : Library where
  parse text :=
    match parse? text with
    | none => .error ⟨"not a TOML document"⟩
    | some table => .ok table.document
  illTyped _ := ⟨"a value is of the wrong sort"⟩

end Toml

end PropertyReflection
