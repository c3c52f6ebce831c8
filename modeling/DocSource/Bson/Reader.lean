import DocSource.Bson.Basic
import DocSource.Json.Basic
import DocSource.Number.Literal
import DocSource.Text.Base64
import DocSource.Text.Hex
import DocSource.Time.Timestamp

/-! Extended JSON: how JSON values stand for document values, wrapper by wrapper. -/

namespace DocSource

/-- The values of a fixed-shape body: an object with exactly these keys, or an array of them. -/
def Json.body? (keys : List String) : Json → Option (List Json)
  | .object members =>
    if members.length = keys.length then keys.mapM fun key => members.lookup key else none
  | .array items => if items.length = keys.length then some items else none
  | _ => none

namespace Bson

/-- A whole number as the narrowest document type that holds it. -/
def ofNumber : Number → Bson
  | .int n =>
    if fitsInt32 n then int32 (Int32.ofInt n)
    else if fitsInt64 n then int64 (Int64.ofInt n)
    else double (Double.ofInt n)
  | .double x => double x

/-- An object identifier, from a string of twenty-four hexadecimal digits. -/
def readObjectId? (json : Json) : Option ObjectId := do
  let text ← json.string?
  let bytes ← Hex.decode text.toList
  if length_eq : bytes.length = 12 then some ⟨bytes, length_eq⟩ else none

/-- A regular expression, whose options are kept in character order. -/
def readRegex? (json : Json) : Option Bson := do
  let [pattern, options] ← json.body? ["pattern", "options"] | none
  let pattern ← pattern.string?
  let options ← options.string?
  -- Neither part can hold the character that would end it in storage.
  if pattern.toList.contains '\x00' || options.toList.contains '\x00' then none
  else some (regex pattern (String.ofList (options.toList.mergeSort (· ≤ ·))))

/-- A double, from a string that is a word or a loose decimal literal. -/
def readDouble? (json : Json) : Option Bson := do
  let text ← json.string?
  (DocSource.readDouble? text.toList).map double

/-- Bytes of a subtype, from base64 and exactly two hexadecimal digits. -/
def readBinary? (json : Json) : Option Bson := do
  let [base64, subtype] ← json.body? ["base64", "subType"] | none
  let base64 ← base64.string?
  let subtype ← subtype.string?
  let bytes ← Base64.decode base64.toList
  -- A subtype is one byte, so digits for none or for two are refused.
  match Hex.decode subtype.toList with
  | some [subtype] => some (binary subtype bytes)
  | _ => none

/-- The hexadecimal digits of a UUID in groups of eight, four, four, four and twelve. -/
def uuidGroups? (text : List Char) : Option (List Char) :=
  let mark (i : Nat) : Bool := text[i]? == some '-'
  if text.length = 36 && mark 8 && mark 13 && mark 18 && mark 23 then
    some (text.take 8 ++ (text.drop 9).take 4 ++ (text.drop 14).take 4 ++
      (text.drop 19).take 4 ++ text.drop 24)
  else none

/-- The hexadecimal digits of a UUID, plain, grouped, in braces or as a name in any case. -/
def uuidDigits? (text : List Char) : Option (List Char) :=
  if text.length = 32 then some text
  else if text.length = 38 && text.head? = some '{' && text.getLast? = some '}' then
    uuidGroups? (text.drop 1).dropLast
  else if text.length = 45 && (text.take 9).map Char.toLower = "urn:uuid:".toList then
    uuidGroups? (text.drop 9)
  else uuidGroups? text

/-- The sixteen bytes of a UUID, under the subtype for them. -/
def readUuid? (json : Json) : Option Bson := do
  let text ← json.string?
  let digits ← uuidDigits? text.toList
  let bytes ← Hex.decode digits
  some (binary 4 bytes)

/-- A whole number that fits thirty-two bits without a sign. -/
def readUInt32? : Json → Option UInt32
  | .number (.int n) => if 0 ≤ n && n < 4294967296 then some (UInt32.ofNat n.toNat) else none
  | _ => none

/-- A timestamp, from its seconds and its increment. -/
def readTimestamp? (json : Json) : Option Bson := do
  let [time, increment] ← json.body? ["t", "i"] | none
  let time ← readUInt32? time
  let increment ← readUInt32? increment
  some (timestamp time increment)

/-- A date, from milliseconds in a wrapper, a whole number of them, or a timestamp. -/
def readDate? : Json → Option Bson
  | .string text => do
    let millis ← Timestamp.documentMillis? text.toList
    (DocSource.int64? millis).map dateTime
  | .number number => ((Json.number number).int64?).map dateTime
  -- Anything else must hold whole milliseconds alone, under their key or in an array.
  | json => do
    let [millis] ← json.body? ["$numberLong"] | none
    let text ← millis.string?
    (readInt64? text.toList).map dateTime

/-- A marker that is written as the number one. -/
def readMarker? (marker : Bson) : Json → Option Bson
  | .number (.int 1) => some marker
  | _ => none

/-- A pointer into a collection. -/
def readPointer? (json : Json) : Option Bson := do
  let [reference, id] ← json.body? ["$ref", "$id"] | none
  let reference ← reference.string?
  let [id] ← id.body? ["$oid"] | none
  (readObjectId? id).map (dbPointer reference)

/-- The wrappers of one member: the key of each, and how the value under it is read. -/
def wrappers : List (String × (Json → Option Bson)) := [
  ("$oid", fun json => (readObjectId? json).map objectId),
  ("$symbol", fun json => json.string?.map symbol),
  ("$regularExpression", readRegex?),
  ("$numberInt", fun json => (json.string?.bind (readInt32? ·.toList)).map int32),
  ("$numberLong", fun json => (json.string?.bind (readInt64? ·.toList)).map int64),
  ("$numberDouble", readDouble?),
  ("$numberDecimal", fun json => (json.string?.bind (Decimal128.read? ·.toList)).map decimal128),
  ("$binary", readBinary?),
  ("$uuid", readUuid?),
  ("$timestamp", readTimestamp?),
  ("$date", readDate?),
  ("$minKey", readMarker? minKey),
  ("$maxKey", readMarker? maxKey),
  ("$dbPointer", readPointer?),
  ("$undefined", fun | .bool true => some undefined | _ => none)]

/-- The reader of the wrapper with a key. -/
def wrapper? (key : String) : Option (Json → Option Bson) := wrappers.lookup key

/-- A wrapper key never stands in a plain document. -/
def isWrapperKey (key : String) : Bool := key == "$code" || (wrapper? key).isSome

/-- Code with the scope read for it, when no other member stands beside the two. -/
def readCode? (members : List (String × Json)) (code : Json) (scope : Option (Option Document)) :
    Option Bson := do
  let code ← code.string?
  let scope ← scope
  -- Beside the code and its scope no other member may stand.
  if members.all fun (key, _) => key == "$code" || key == "$scope" then
    match scope with
    | none => some (javaScript code)
    | some scope => some (javaScriptWithScope code scope)
  else none

mutual

/-- The document value that a JSON value stands for. -/
def ofJson? : Json → Option Bson
  | .null => some null
  | .bool value => some (boolean value)
  | .number number => some (ofNumber number)
  | .string text => some (string text)
  | .array items => (ofItems? items).map array
  | .object members =>
    -- A wrapper key makes the whole object that wrapper, or an error.
    match members.lookup "$code" with
    | some code => readCode? members code (scope? members)
    | none =>
      if members.any (isWrapperKey ·.1) then
        match members with
        | [(key, value)] => (wrapper? key).bind (· value)
        | _ => none
      else (ofMembers? members).map document

/-- The document values of a list of items. -/
def ofItems? : List Json → Option (List Bson)
  | [] => some []
  | item :: rest => do
    let item ← ofJson? item
    let rest ← ofItems? rest
    some (item :: rest)

/-- The document values of a list of members. -/
def ofMembers? : List (String × Json) → Option Document
  | [] => some []
  | (key, value) :: rest => do
    let value ← ofJson? value
    let rest ← ofMembers? rest
    some ((key, value) :: rest)

/-- The scope beside code: absent when missing or null, else an object. -/
def scope? : List (String × Json) → Option (Option Document)
  | [] => some none
  | (key, value) :: rest => if key = "$scope" then scopeValue? value else scope? rest

/-- The scope that a value stands for. -/
def scopeValue? : Json → Option (Option Document)
  | .null => some none
  | .object members => (ofMembers? members).map some
  | _ => none

end

end Bson

end DocSource
