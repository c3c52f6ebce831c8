import DocSource.Number.Decimal128
import DocSource.Number.Double

/-! Document values: the types that documents hold, and their names. -/

namespace DocSource

/-- An object identifier: twelve bytes. -/
structure ObjectId where
  bytes : List UInt8
  length_eq : bytes.length = 12
  deriving DecidableEq

/-- A document value; the members of a document keep their order. -/
inductive Bson
  | double (value : Double)
  | string (text : String)
  | document (members : List (String × Bson))
  | array (items : List Bson)
  | binary (subtype : UInt8) (bytes : List UInt8)
  | undefined
  | objectId (id : ObjectId)
  | boolean (value : Bool)
  | dateTime (millis : Int64)
  | null
  | regex (pattern options : String)
  | dbPointer (reference : String) (id : ObjectId)
  | javaScript (code : String)
  | symbol (text : String)
  | javaScriptWithScope (code : String) (scope : List (String × Bson))
  | int32 (value : Int32)
  | timestamp (time increment : UInt32)
  | int64 (value : Int64)
  | decimal128 (value : Decimal128)
  | minKey
  | maxKey
  deriving Inhabited

/-- A document: its fields in order. -/
abbrev Document := List (String × Bson)

/-- The name of a value's type. -/
def Bson.typeName : Bson → String
  | double _ => "double"
  | string _ => "string"
  | document _ => "object"
  | array _ => "array"
  | binary _ _ => "binData"
  | undefined => "undefined"
  | objectId _ => "objectId"
  | boolean _ => "bool"
  | dateTime _ => "date"
  | null => "null"
  | regex _ _ => "regex"
  | dbPointer _ _ => "dbPointer"
  | javaScript _ => "javascript"
  | symbol _ => "symbol"
  | javaScriptWithScope _ _ => "javascriptWithScope"
  | int32 _ => "int"
  | timestamp _ _ => "timestamp"
  | int64 _ => "long"
  | decimal128 _ => "decimal"
  | minKey => "minKey"
  | maxKey => "maxKey"

end DocSource
