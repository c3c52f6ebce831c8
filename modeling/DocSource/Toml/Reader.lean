import DocSource.Toml.Basic
import DocSource.Toml.Scalar

/-! Reading TOML documents: keys, values and headers, line by line. -/

namespace DocSource.Toml

/-- A text without the blanks in front, on the same line. -/
def skipBlanks (text : List Char) : List Char := text.dropWhile fun c => c == ' ' || c == '\t'

/-- What follows a comment, up to the end of its line. -/
def skipComment : List Char → List Char
  | '#' :: rest => rest.dropWhile isPlain
  | text => text

/-- A text without blanks, comments and line ends in front. -/
def skipLines : Nat → List Char → List Char
  | 0, text => text
  | fuel + 1, text =>
    match skipComment (skipBlanks text) with
    | '\n' :: rest => skipLines fuel rest
    | '\r' :: '\n' :: rest => skipLines fuel rest
    | rest => rest

/-- A character of a key without quotes. -/
def isBare (c : Char) : Bool := c.isAlphanum || c == '_' || c == '-'

/-- The key at the front of a text, and what follows it. -/
def takeSimpleKey : List Char → Option (String × List Char)
  | '"' :: rest => (takeBasic rest).map fun (key, rest) => (String.ofList key, rest)
  | '\'' :: rest => (takeLiteralString rest).map fun (key, rest) => (String.ofList key, rest)
  | text =>
    let key := text.takeWhile isBare
    if key = [] then none else some (String.ofList key, text.dropWhile isBare)

/-- How many parts a dotted key may have, and how deep arrays and inline tables may nest. -/
def depthLimit : Nat := 80

/-- The dotted key at the front of a text, and what follows it and the blanks behind it. -/
def takeKeyParts : Nat → List Char → Option (List String × List Char)
  | 0, _ => none
  | room + 1, text => do
    let (key, rest) ← takeSimpleKey (skipBlanks text)
    match skipBlanks rest with
    | '.' :: rest => do
      let (more, rest) ← takeKeyParts room rest
      some (key :: more, rest)
    | rest => some ([key], rest)

/-- The dotted key at the front of a text, of as many parts as one may have. -/
def takeKey (text : List Char) : Option (List String × List Char) := takeKeyParts depthLimit text

/-- The string at the front of a text, and what follows it. -/
def takeAnyString : List Char → Option (List Char × List Char)
  | '"' :: '"' :: '"' :: rest => takeLongBasic false (dropLineEnd rest)
  | '"' :: rest => takeBasic rest
  | '\'' :: '\'' :: '\'' :: rest => takeLongLiteral (dropLineEnd rest)
  | '\'' :: rest => takeLiteralString rest
  | _ => none

/-- The word of a scalar at the front of a text; a date may be parted from its time by a blank. -/
def takeWord (text : List Char) : List Char × List Char :=
  let isPart (c : Char) : Bool := c.isAlphanum || "+-_.:".toList.contains c
  let word := text.takeWhile isPart
  match text.dropWhile isPart with
  | ' ' :: c :: rest =>
    if c.isDigit && takeDate word == some [] then
      (word ++ ' ' :: (c :: rest).takeWhile isPart, (c :: rest).dropWhile isPart)
    else (word, ' ' :: c :: rest)
  | rest => (word, rest)

mutual

/-- The value at the front of a text with `room` for nested ones, and what follows it. -/
def takeNode : Nat → Nat → List Char → Option (Node × List Char)
  | 0, _, _ => none
  | fuel + 1, room, text =>
    -- Without room, an opening bracket is read as a scalar, which it is not.
    match room, text with
    | room + 1, '[' :: rest => (takeItems fuel room rest).map fun rest => (.value none, rest)
    | room + 1, '{' :: rest => do
      let (_, rest) ← takePairs fuel room [] rest
      some (.value none, rest)
    | _, text =>
      match takeAnyString text with
      | some (text, rest) => some (.value (some (String.ofList text)), rest)
      | none =>
        let (word, rest) := takeWord text
        if isScalar word then some (.value none, rest) else none

/-- What follows the items of an array, whose last comma may end the list. -/
def takeItems : Nat → Nat → List Char → Option (List Char)
  | 0, _, _ => none
  | fuel + 1, room, text =>
    match skipLines (fuel + 1) text with
    | ']' :: rest => some rest
    | text => do
      let (_, rest) ← takeNode fuel room text
      match skipLines (fuel + 1) rest with
      | ',' :: rest => takeItems fuel room rest
      | ']' :: rest => some rest
      | _ => none

/-- The entries of an inline table, whose last comma may end the list, and what follows it. -/
def takePairs : Nat → Nat → Entries → List Char → Option (Entries × List Char)
  | 0, _, _, _ => none
  | fuel + 1, room, entries, text =>
    match skipLines (fuel + 1) text with
    | '}' :: rest => some (entries, rest)
    | text => do
      let (key, rest) ← takeKey text
      match skipLines (fuel + 1) rest with
      | '=' :: rest => do
        let (node, rest) ← takeNode fuel room (skipLines (fuel + 1) rest)
        let entries ← putValue node key entries
        match skipLines (fuel + 1) rest with
        | ',' :: rest => takePairs fuel room entries rest
        | '}' :: rest => some (entries, rest)
        | _ => none
      | _ => none

end

/-- The header at the front of a text, or the key line there, and what follows it. -/
def takeLine (fuel : Nat) : List Char → Option (Line × List Char)
  | '[' :: '[' :: rest => do
    let (path, rest) ← takeKey rest
    match rest with
    | ']' :: ']' :: rest => some (.listHeader path, rest)
    | _ => none
  | '[' :: rest => do
    let (path, rest) ← takeKey rest
    match rest with
    | ']' :: rest => some (.header path, rest)
    | _ => none
  | text => do
    let (key, rest) ← takeKey text
    match rest with
    | '=' :: rest => do
      let (node, rest) ← takeNode fuel depthLimit (skipBlanks rest)
      some (.pair key node, rest)
    | _ => none

/-- The lines of a document; each must end with its line. -/
def takeLines : Nat → List Char → Option (List Line)
  | 0, _ => none
  | fuel + 1, text =>
    match skipLines (fuel + 1) text with
    | [] => some []
    | text => do
      let (line, rest) ← takeLine (fuel + 1) text
      let rest := skipComment (skipBlanks rest)
      if rest = [] then some [line]
      else if atLineEnd rest then do
        let lines ← takeLines fuel (dropLineEnd rest)
        some (line :: lines)
      else none

/-- The root table of a document. -/
def read? (text : List Char) : Option Entries := do
  -- A byte order mark in front is no part of the document.
  let text := match text with
    | '\ufeff' :: rest => rest
    | text => text
  let lines ← takeLines (2 * text.length + 2) text
  assemble [] [] lines

end DocSource.Toml
