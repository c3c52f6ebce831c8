import DocSource.Bson.Basic
import DocSource.Json.Printer
import DocSource.Text.Base64
import DocSource.Time.Timestamp

/-! Document values as extended JSON: canonical, which keeps types, and relaxed, which is plain. -/

namespace DocSource.Bson

/-- The two forms of extended JSON. -/
inductive Form
  | canonical
  | relaxed
  deriving DecidableEq

/-- An object with one member whose value is a string. -/
def wrap (key : String) (text : List Char) : Json := .object [(key, .string (String.ofList text))]

/-- A double under its wrapper where the form asks for it, else a plain number. -/
def doubleJson (form : Form) (x : Double) : Json :=
  -- Numbers that JSON cannot write have names, and tiny ones are plain in either form.
  if x.isNaN then wrap "$numberDouble" (if x.negative then "-NaN".toList else "NaN".toList)
  else if !x.isFinite then
    wrap "$numberDouble" (if x.negative then "-Infinity".toList else "Infinity".toList)
  else if form = .canonical && (x.isNormal || x.isZero) then wrap "$numberDouble" (x.text .plain)
  else .number (.double x)

/-- A sixty-four-bit word under its wrapper. -/
def longJson (millis : Int64) : Json := wrap "$numberLong" (intText millis.toInt)

/-- A date as a timestamp from 1970 on in the relaxed form, else as milliseconds. -/
def dateJson (form : Form) (millis : Int64) : Json :=
  if form = .relaxed && 0 ≤ millis.toInt then
    wrap "$date" (Timestamp.textOfMillis millis.toInt)
  else .object [("$date", longJson millis)]

/-- An object identifier under its wrapper. -/
def objectIdJson (id : ObjectId) : Json := wrap "$oid" (Hex.encode id.bytes)

mutual

/-- The extended JSON of a value. -/
def toJson (form : Form) : Bson → Json
  | double x => doubleJson form x
  | string text => .string text
  | document members => .object (membersJson form members)
  | array items => .array (itemsJson form items)
  | binary subtype bytes =>
    .object [("$binary", .object [
      ("base64", .string (String.ofList (Base64.encode bytes))),
      ("subType", .string (String.ofList (Hex.encode [subtype])))])]
  | undefined => .object [("$undefined", .bool true)]
  | objectId id => objectIdJson id
  | boolean value => .bool value
  | dateTime millis => dateJson form millis
  | null => .null
  | regex pattern options =>
    .object [("$regularExpression", .object [
      ("pattern", .string pattern), ("options", .string options)])]
  | dbPointer reference id =>
    .object [("$dbPointer", .object [("$ref", .string reference), ("$id", objectIdJson id)])]
  | javaScript code => .object [("$code", .string code)]
  | symbol text => .object [("$symbol", .string text)]
  | javaScriptWithScope code scope =>
    .object [("$code", .string code), ("$scope", .object (membersJson form scope))]
  -- In the relaxed form both integers are plain numbers, so their width is lost.
  | int32 n =>
    match form with
    | .canonical => wrap "$numberInt" (intText n.toInt)
    | .relaxed => .int n.toInt
  | timestamp time increment =>
    .object [("$timestamp", .object [("t", .int time.toNat), ("i", .int increment.toNat)])]
  | int64 n =>
    match form with
    | .canonical => longJson n
    | .relaxed => .int n.toInt
  | decimal128 d => wrap "$numberDecimal" d.text
  | minKey => .object [("$minKey", .int 1)]
  | maxKey => .object [("$maxKey", .int 1)]

/-- The extended JSON of a list of items. -/
def itemsJson (form : Form) : List Bson → List Json
  | [] => []
  | item :: rest => item.toJson form :: itemsJson form rest

/-- The extended JSON of a list of members. -/
def membersJson (form : Form) : List (String × Bson) → List (String × Json)
  | [] => []
  | (key, value) :: rest => (key, value.toJson form) :: membersJson form rest

end

/-- The canonical text of a value. -/
def canonical (value : Bson) : List Char := (value.toJson .canonical).compact

/-- The relaxed text of a value. -/
def relaxed (value : Bson) : List Char := (value.toJson .relaxed).compact

/-- The text of a list of documents in one of the forms. -/
def pipelineText (form : Form) (stages : List Document) : String :=
  let texts := stages.map fun stage => ((document stage).toJson form).compact
  String.ofList ('[' :: Text.joined [','] texts ++ [']'])

end DocSource.Bson
