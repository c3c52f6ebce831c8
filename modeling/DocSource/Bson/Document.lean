import DocSource.Bson.Reader
import DocSource.Json.Reader
import DocSource.Text.Blank

/-! Extended JSON texts: the documents and lists of values they hold, and why some hold none. -/

namespace DocSource

/-- Why a text holds no document value of the kind asked for. -/
inductive TextFault
  | notJson
  | badWrapper
  | notArray
  | notObject (found : String)
  deriving DecidableEq

/-- The text of a fault; a parser's own words are stood for by a marker. -/
def TextFault.message : TextFault → String
  | notJson => "<json>"
  | badWrapper => "<bson>"
  | notArray => "expected a JSON array of pipeline stages"
  | notObject found => s!"expected object, found {found}"

/-- The JSON value of a text. -/
def readJson? (text : String) : Option Json := Json.read? text.toList

/-- The JSON value of a text, an empty object for a blank one. -/
def readJsonOrEmpty? (text : String) : Option Json :=
  if Text.blank text then some (.object []) else readJson? text

/-- The values of a text that is an extended JSON array. -/
def readValues (text : List Char) : Except TextFault (List Bson) :=
  -- Text that is no JSON, an array with a bad wrapper and JSON of another kind are told apart.
  match Json.read? text with
  | none => .error .notJson
  | some (.array items) =>
    match Bson.ofItems? items with
    | some values => .ok values
    | none => .error .badWrapper
  | some _ => .error .notArray

/-- The document of a text that is an extended JSON object. -/
def readDocument (text : List Char) : Except TextFault Document :=
  match Json.read? text with
  | none => .error .notJson
  | some json =>
    match Bson.ofJson? json with
    | some (.document members) => .ok members
    -- An object can be the wrapper of a value that is no document.
    | some other => .error (.notObject other.typeName)
    | none => .error .badWrapper

end DocSource
