import DocSource.Number.Double

/-! JSON values, and lookups in them that fall back on a default and never convert. -/

namespace DocSource

/-- A JSON number: a whole one that was written as such, or a double. -/
inductive Number
  | int (value : Int)
  | double (value : Double)
  deriving DecidableEq, Inhabited

/-- A JSON value; the members of an object keep their order. -/
inductive Json
  | null
  | bool (value : Bool)
  | number (value : Number)
  | string (text : String)
  | array (items : List Json)
  | object (members : List (String × Json))
  deriving Inhabited

namespace Json

/-- A whole number. -/
def int (n : Int) : Json := .number (.int n)

/-- A double, or null for one that stands for no number. -/
def double (x : Double) : Json := if x.isFinite then .number (.double x) else .null

/-- The value under a key, for objects only. -/
def get? (key : String) : Json → Option Json
  | object members => members.lookup key
  | _ => none

/-- The text of a string. -/
def string? : Json → Option String
  | string text => some text
  | _ => none

/-- The word of a whole number that fits sixty-four bits. -/
def int64? : Json → Option Int64
  | number (.int n) => DocSource.int64? n
  | _ => none

/-- The items of an array. -/
def array? : Json → Option (List Json)
  | array items => some items
  | _ => none

/-- The string under a key. -/
def stringAt? (key : String) (json : Json) : Option String := (json.get? key).bind string?

/-- The string under a key, or a default. -/
def stringAt (key default : String) (json : Json) : String := (json.stringAt? key).getD default

/-- The whole number under a key, or a default. -/
def int64At (key : String) (default : Int64) (json : Json) : Int64 :=
  ((json.get? key).bind int64?).getD default

/-- The array under a key, or no items. -/
def arrayAt (key : String) (json : Json) : List Json := ((json.get? key).bind array?).getD []

end Json

end DocSource
