import DocSource.Answer.Response
import DocSource.Json.Written

/-! Responses as JSON: how they are written, and which texts read back as one. -/

namespace DocSource

namespace Written

/-- The string that a text writes. -/
def string? : Written → Option String
  | string text => text
  | _ => none

/-- The sixty-four-bit word that a text writes as a whole number. -/
def int64? : Written → Option Int64
  | number (some (.int n)) => DocSource.int64? n
  | _ => none

/-- The double that a text writes, whole numbers included. -/
def double? : Written → Option Double
  | number (some (.int n)) => some (Double.ofInt n)
  | number (some (.double x)) => some x
  | _ => none

/-- The truth value that a text writes. -/
def bool? : Written → Option Bool
  | bool value => some value
  | _ => none

/-- The items of an array, each read the same way. -/
def items? {α : Type} (read : Written → Option α) : Written → Option (List α)
  | array items => items.mapM read
  | _ => none

/-- The values under a key. -/
def valuesAt (key : String) (members : List (Option String × Written)) : List Written :=
  (members.filter (·.1 = some key)).map (·.2)

/-- The only value under a key, none when it is missing; a repeated key is refused. -/
def fieldAt? (members : List (Option String × Written)) (key : String) :
    Option (Option Written) :=
  match valuesAt key members with
  | [] => some none
  | [value] => some (some value)
  | _ => none

/-- The values of a record's fields: an object with more keys at will, or an array in order. -/
def fields? (keys : List String) : Written → Option (List (Option Written))
  | object members =>
    -- Every key must name something, whether or not it is a field.
    if members.all (·.1.isSome) then keys.mapM (fieldAt? members) else none
  | array items =>
    if items.length ≤ keys.length then
      some (items.map some ++ List.replicate (keys.length - items.length) none)
    else none
  | _ => none

mutual

/-- Every scalar names a value and the nesting stays within a limit. -/
def sound (limit : Nat) : Written → Bool
  | null => true
  | bool _ => true
  -- The structure keeps a place for a scalar that names no value, and here it is refused.
  | number value => value.isSome
  | string text => text.isSome
  | array items =>
    match limit with
    -- Each level of nesting takes one off the limit.
    | 0 => false
    | limit + 1 => soundItems limit items
  | object members =>
    match limit with
    | 0 => false
    | limit + 1 => soundMembers limit members

/-- Every item is sound within a limit. -/
def soundItems (limit : Nat) : List Written → Bool
  | [] => true
  | item :: rest => item.sound limit && soundItems limit rest

/-- Every key names something and every value is sound within a limit. -/
def soundMembers (limit : Nat) : List (Option String × Written) → Bool
  | [] => true
  | (key, value) :: rest => key.isSome && value.sound limit && soundMembers limit rest

end

end Written

namespace Point

/-- A point as JSON. -/
def toJson (point : Point) : Json :=
  .object [("timestamp", .int point.timestamp.toInt), ("value", .double point.value)]

/-- The point that a text writes. -/
def ofWritten? (written : Written) : Option Point := do
  let [some timestamp, some value] ← written.fields? ["timestamp", "value"] | none
  let timestamp ← timestamp.int64?
  let value ← value.double?
  some ⟨timestamp, value⟩

end Point

namespace Series

/-- A series as JSON. -/
def toJson (series : Series) : Json :=
  .object [("name", .string series.name), ("points", .array (series.points.map Point.toJson))]

/-- The series that a text writes. -/
def ofWritten? (written : Written) : Option Series := do
  let [some name, some points] ← written.fields? ["name", "points"] | none
  let name ← name.string?
  let points ← points.items? Point.ofWritten?
  some ⟨name, points⟩

end Series

namespace Cell

/-- A cell as JSON: the name of its type beside its value. -/
def toJson (cell : Cell) : Json :=
  let tagged (kind : String) (value : Json) : Json :=
    .object [("kind", .string kind), ("value", value)]
  match cell with
  | double x => tagged "double" (.double x)
  | int64 n => tagged "int64" (.int n.toInt)
  | string text => tagged "string" (.string text)
  | bool value => tagged "bool" (.bool value)
  | dateTime millis => tagged "dateTime" (.int millis.toInt)

/-- A cell, or null where there is none. -/
def optionToJson (cell : Option Cell) : Json := (cell.map toJson).getD .null

/-- The cell of a type with a value. -/
def ofKind? (kind : String) (value : Written) : Option Cell :=
  if kind = "double" then value.double?.map double
  else if kind = "int64" then value.int64?.map int64
  else if kind = "string" then value.string?.map string
  else if kind = "bool" then value.bool?.map bool
  else if kind = "dateTime" then value.int64?.map dateTime
  else none

/-- The names of the types of cells in order. -/
def kinds : List String := ["double", "int64", "string", "bool", "dateTime"]

/-- The name of a cell's type: a string, or an object with it for the only key, over nothing. -/
def namedKind? : Written → Option String
  | .string text => text
  | .object [(key, .null)] => key
  | .object [(key, .object [])] => key
  | _ => none

/-- The name of a cell's type: a string, or its place among the names. -/
def placedKind? : Written → Option String
  | .string text => text
  | .number (some (.int n)) => if 0 ≤ n then kinds[n.toNat]? else none
  | _ => none

/-- The cell that a text writes. -/
def ofWritten? (written : Written) : Option Cell := do
  let [some kind, some value] ← written.fields? ["kind", "value"] | none
  -- Places are for arrays, which leave out the keys as well.
  let kind ← match written with
    | .array _ => placedKind? kind
    | _ => namedKind? kind
  ofKind? kind value

/-- The cell that a text writes, none for null. -/
def optionOfWritten? : Written → Option (Option Cell)
  | .null => some none
  | written => (ofWritten? written).map some

end Cell

namespace Table

/-- A table as JSON. -/
def toJson (table : Table) : Json :=
  .object [
    ("columns", .array (table.columns.map .string)),
    ("rows", .array (table.rows.map fun row => .array (row.map Cell.optionToJson)))]

/-- The table that a text writes. -/
def ofWritten? (written : Written) : Option Table := do
  let [some columns, some rows] ← written.fields? ["columns", "rows"] | none
  let columns ← columns.items? Written.string?
  let rows ← rows.items? (Written.items? Cell.optionOfWritten?)
  some ⟨columns, rows⟩

end Table

namespace Payload

/-- The key of a payload beside a result's reference, and its value. -/
def toMember : Payload → String × Json
  | .series list => ("series", .array (list.map Series.toJson))
  | .table body => ("table", body.toJson)
  | .error message => ("error", .string message)

/-- The payload under a key. -/
def ofMember? (key : String) (value : Written) : Option Payload :=
  if key = "series" then (value.items? Series.ofWritten?).map series
  else if key = "table" then (Table.ofWritten? value).map table
  else if key = "error" then value.string?.map error
  else none

/-- The keys that payloads have. -/
def keys : List String := ["series", "table", "error"]

end Payload

namespace Result

/-- A result as JSON. -/
def toJson (result : Result) : Json :=
  .object [("refId", .string result.refId), result.payload.toMember]

/-- How deep a member of a result may nest, three levels below the whole response. -/
def memberDepth : Nat := 124

/-- The result that a text writes: its reference and the first payload among its members. -/
def ofWritten? : Written → Option Result
  | .object members => do
    -- Members other than the reference must be sound even when they are passed over.
    let others := members.filter fun (key, _) => key ≠ some "refId"
    if !Written.soundMembers memberDepth others then none
    else
      let some refId ← Written.fieldAt? members "refId" | none
      let refId ← refId.string?
      let (key, value) ← others.findSome? fun (key, value) =>
        key.bind fun key => if key ∈ Payload.keys then some (key, value) else none
      let payload ← Payload.ofMember? key value
      some ⟨refId, payload⟩
  | _ => none

end Result

namespace Response

/-- A response as JSON. -/
def toJson (response : Response) : Json :=
  .object [("results", .array (response.results.map Result.toJson))]

/-- The response that a text writes. -/
def ofWritten? (written : Written) : Option Response := do
  let [some results] ← written.fields? ["results"] | none
  let results ← results.items? Result.ofWritten?
  some ⟨results⟩

end Response

end DocSource
