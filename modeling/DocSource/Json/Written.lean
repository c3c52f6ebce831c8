import DocSource.Json.Basic

/-! JSON as written: members may repeat, and a scalar may be well formed yet name no value. -/

namespace DocSource

/-- A JSON text by its structure, before its scalars and repeated members are judged. -/
inductive Written
  | null
  | bool (value : Bool)
  | number (value : Option Number)
  | string (text : Option String)
  | array (items : List Written)
  | object (members : List (Option String × Written))
  deriving Inhabited

namespace Written

mutual

/-- How deep the arrays and objects of a text nest. -/
def depth : Written → Nat
  | array items => depthItems items + 1
  | object members => depthMembers members + 1
  | _ => 0

/-- How deep the deepest item nests. -/
def depthItems : List Written → Nat
  | [] => 0
  | item :: rest => max item.depth (depthItems rest)

/-- How deep the deepest member nests. -/
def depthMembers : List (Option String × Written) → Nat
  | [] => 0
  | (_, value) :: rest => max value.depth (depthMembers rest)

end

/-- Members where a repeated key keeps its first place and its last value. -/
def settle {α : Type} : List (String × α) → List (String × α)
  | [] => []
  | (key, value) :: rest =>
    let rest := settle rest
    (key, (rest.lookup key).getD value) :: rest.filter (·.1 != key)

mutual

/-- The value of a text all of whose scalars name one. -/
def value? : Written → Option Json
  | null => some .null
  | bool value => some (.bool value)
  | number value => value.map .number
  | string text => text.map .string
  | array items => (values? items).map .array
  | object members => (members? members).map fun members => .object (settle members)

/-- The values of a list of items. -/
def values? : List Written → Option (List Json)
  | [] => some []
  | item :: rest => do
    let item ← item.value?
    let rest ← values? rest
    some (item :: rest)

/-- The values of a list of members. -/
def members? : List (Option String × Written) → Option (List (String × Json))
  | [] => some []
  | (key, value) :: rest => do
    let key ← key
    let value ← value.value?
    let rest ← members? rest
    some ((key, value) :: rest)

end

end Written

end DocSource
