import DocSource.Json.Basic
import DocSource.Number.Shortest
import DocSource.Text.Hex
import DocSource.Text.Occurrence

/-! Writing JSON values: on one line without blanks, and indented over many lines. -/

namespace DocSource

/-- The text of a JSON number. -/
def Number.text : Number → List Char
  | .int n => intText n
  | .double x => if x.isFinite then x.text .data else "null".toList

namespace Json

/-- A character of a string as it is written between quotes. -/
def escape (c : Char) : List Char :=
  -- Quotes, backslashes and control characters are escaped, all else stands for itself.
  if c = '"' then ['\\', '"']
  else if c = '\\' then ['\\', '\\']
  else if c = '\x08' then ['\\', 'b']
  else if c = '\x0c' then ['\\', 'f']
  else if c = '\n' then ['\\', 'n']
  else if c = '\r' then ['\\', 'r']
  else if c = '\t' then ['\\', 't']
  else if c.toNat < 0x20 then
    ['\\', 'u', '0', '0', Hex.digit (c.toNat / 16), Hex.digit (c.toNat % 16)]
  else [c]

/-- A string between quotes. -/
def quoted (text : String) : List Char := '"' :: text.toList.flatMap escape ++ ['"']

mutual

/-- A value on one line without blanks. -/
def compact : Json → List Char
  | null => "null".toList
  | bool true => "true".toList
  | bool false => "false".toList
  | number n => n.text
  | string text => quoted text
  | array items => '[' :: Text.joined [','] (compactItems items) ++ [']']
  | object members => '{' :: Text.joined [','] (compactMembers members) ++ ['}']

/-- Each item on one line without blanks. -/
def compactItems : List Json → List (List Char)
  | [] => []
  | item :: rest => item.compact :: compactItems rest

/-- Each member on one line without blanks. -/
def compactMembers : List (String × Json) → List (List Char)
  | [] => []
  | (key, value) :: rest => (quoted key ++ ':' :: value.compact) :: compactMembers rest

end

/-- A new line with two blanks for each level of indentation. -/
def newLine (level : Nat) : List Char := '\n' :: List.replicate (2 * level) ' '

/-- Parts on lines of their own between two brackets; nothing stands between for no parts. -/
def block (opening closing : Char) (level : Nat) (parts : List (List Char)) : List Char :=
  match parts with
  | [] => [opening, closing]
  | parts =>
    opening :: newLine (level + 1) ++ Text.joined (',' :: newLine (level + 1)) parts ++
      newLine level ++ [closing]

mutual

/-- A value with each item and member on a line of its own. -/
def pretty (level : Nat) : Json → List Char
  | null => "null".toList
  | bool true => "true".toList
  | bool false => "false".toList
  | number n => n.text
  | string text => quoted text
  | array items => block '[' ']' level (prettyItems (level + 1) items)
  | object members => block '{' '}' level (prettyMembers (level + 1) members)

/-- Each item, indented. -/
def prettyItems (level : Nat) : List Json → List (List Char)
  | [] => []
  | item :: rest => item.pretty level :: prettyItems level rest

/-- Each member, indented, with a blank behind the colon. -/
def prettyMembers (level : Nat) : List (String × Json) → List (List Char)
  | [] => []
  | (key, value) :: rest =>
    (quoted key ++ ':' :: ' ' :: value.pretty level) :: prettyMembers level rest

end

/-- The text of a value on one line without blanks. -/
def compactText (json : Json) : String := String.ofList json.compact

/-- The indented text of a value. -/
def prettyText (json : Json) : String := String.ofList (json.pretty 0)

end Json

end DocSource
