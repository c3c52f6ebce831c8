import DocSource.Bson.Basic
import DocSource.Error

/-! Tables: cells of a few types under columns found in the order documents bring them. -/

namespace DocSource

/-- A table cell. -/
inductive Cell
  | double (value : Double)
  | int64 (value : Int64)
  | string (text : String)
  | bool (value : Bool)
  | dateTime (millis : Int64)
  deriving DecidableEq, Inhabited

/-- The cell for a field's value; other types have none. -/
def Cell.ofField (field : String) : Bson → Except Error Cell
  | .double x => .ok (double x)
  | .int64 n => .ok (int64 n)
  -- Cells know one kind of integer, so the narrower one is widened.
  | .int32 n => .ok (int64 n.toInt64)
  | .string text => .ok (string text)
  | .boolean value => .ok (bool value)
  | .dateTime millis => .ok (dateTime millis)
  | other => .error (.unsupportedType field other.typeName)

/-- Columns in order of first appearance, and rows as wide as the columns then known. -/
structure Table where
  columns : List String
  rows : List (List (Option Cell))
  deriving DecidableEq, Inhabited

namespace Table

/-- The cell at a place; a row too short has none there. -/
def cell? (table : Table) (row column : Nat) : Option Cell :=
  (table.rows[row]?.bind (·[column]?)).join

/-- The place of a column. -/
def columnIndex? (table : Table) (name : String) : Option Nat := table.columns.idxOf? name

end Table

/-- A table while it is built, with the places of its columns by name. -/
structure TableBuilder where
  columns : List String
  index : List (String × Nat)
  rows : List (List (Option Cell))
  deriving DecidableEq, Inhabited

namespace TableBuilder

/-- A builder without columns and rows. -/
def empty : TableBuilder := ⟨[], [], []⟩

/-- The place of a column, which is registered at the end when it is new. -/
def column (builder : TableBuilder) (name : String) : Nat × TableBuilder :=
  match builder.index.lookup name with
  | some place => (place, builder)
  | none =>
    -- The next free place is the number of columns so far.
    let place := builder.columns.length
    (place, { builder with
      columns := builder.columns ++ [name]
      index := (name, place) :: builder.index })

/-- Registers fields and reads their cells, stopping at the first field that has none. -/
def readFields (builder : TableBuilder) :
    Document → Except Error (List (Nat × Cell)) × TableBuilder
  | [] => (.ok [], builder)
  | (field, value) :: rest =>
    -- The field is registered before its value is judged.
    let (place, builder) := builder.column field
    match Cell.ofField field value with
    | .error error => (.error error, builder)
    | .ok cell =>
      let (cells, builder) := readFields builder rest
      (cells.map ((place, cell) :: ·), builder)

/-- A row of a width with cells at their places, and nothing at the others. -/
def row (width : Nat) (cells : List (Nat × Cell)) : List (Option Cell) :=
  cells.foldl (fun row (place, cell) => row.set place (some cell)) (List.replicate width none)

/-- Adds a document as a row; one that fails adds no row but keeps its columns so far. -/
def push (builder : TableBuilder) (document : Document) : Except Error Unit × TableBuilder :=
  match builder.readFields document with
  | (.error error, builder) => (.error error, builder)
  | (.ok cells, builder) =>
    (.ok (), { builder with rows := builder.rows ++ [row builder.columns.length cells] })

/-- The table that was built. -/
def finish (builder : TableBuilder) : Table := ⟨builder.columns, builder.rows⟩

end TableBuilder

end DocSource
