import PropertyReflection.Toml.Library

/-!
# Tables of a TOML document

A table maps keys to values and to further tables.  Tables come about in three ways, and which of
them later text may still add to depends on it: a header or an inline table defines a table
completely; the keys before the last one of a header make the tables they name exist without
defining them, so that a header may define them later; and the keys before the last one of a dotted
key make tables that only dotted keys can add to.
-/

namespace PropertyReflection

namespace Toml

mutual

/-- What a key of a table stands for. -/
inductive Node where
  /-- A value that was assigned to the key. -/
  | value (value : Value)
  /-- A table. -/
  | table (table : Table)
  /-- A sequence of tables with the same header, in the order of the text. -/
  | tables (tables : List Table)

/-- A table. -/
structure Table where
  /-- True while the table exists only because something inside it was named. -/
  implicit : Bool
  /-- True if a dotted key made the table. -/
  dotted : Bool
  /-- The keys and what they stand for. -/
  entries : List (String × Node)

end

namespace Table

/-- A table that is defined and has no keys. -/
def empty : Table := ⟨false, false, []⟩

/-- What a key stands for. -/
def get? (table : Table) (key : String) : Option Node :=
  (table.entries.find? (·.1 == key)).map (·.2)

/-- What a reader of the document sees of a table, who does not look into the tables inside it. -/
def document (table : Table) : Document where
  get? key := (table.get? key).map fun
    | .value value => value
    | .table _ | .tables _ => .other

/-- The table without a key. -/
def erase (table : Table) (key : String) : Table :=
  { table with entries := table.entries.filter (·.1 != key) }

/-- The table in which a key stands for something, whatever it stood for before. -/
def set (table : Table) (key : String) (node : Node) : Table :=
  { table with entries := (key, node) :: (table.erase key).entries }

/-- Change the table at the end of a path, and make the tables on the way that do not exist.  Of a
sequence of tables the last one is meant.  A dotted path does not lead into defined tables. -/
def modifyAt (dotted : Bool) (f : Table → Option Table) : List String → Table → Option Table
  | [], table => f table
  | key :: rest, table => do
    match table.get? key with
    | none =>
      let child ← modifyAt dotted f rest ⟨true, dotted, []⟩
      return table.set key (.table child)
    | some (.value _) => none
    | some (.table child) =>
      if dotted && !child.implicit then none
      let child ← modifyAt dotted f rest child
      return table.set key (.table child)
    | some (.tables children) =>
      let child ← modifyAt dotted f rest (← children.getLast?)
      return table.set key (.tables (children.dropLast ++ [child]))

/-- Assign a value to a key, which must not have one.  The tables that a dotted key goes through
must have been made by dotted keys. -/
def assign (path : List String) (key : String) (value : Value) : Table → Option Table :=
  modifyAt true
    (fun table =>
      if table.dotted == path.isEmpty || (table.get? key).isSome then none
      else some (table.set key (.value value)))
    path

end Table

end Toml

end PropertyReflection
