import DocSource.Error
import DocSource.Text.Blank
import DocSource.Text.Occurrence

/-! Query targets: an aggregation call that names its collection, or a bare list of stages. -/

namespace DocSource

/-- The collection a query reads, and the text of its stages. -/
structure Target where
  collection : String
  source : List Char
  deriving DecidableEq

namespace Target

/-- What a target that is a call starts with. -/
def callMark : List Char := "db.".toList

/-- A collection's name without the blanks at its ends, which must leave something. -/
def named (name : List Char) : Except Error String :=
  let name := Text.trim name
  if name = [] then .error (.malformedQuery "No collection specified")
  else .ok (String.ofList name)

/-- Splits a call into its trimmed head, its argument, and what trails it. -/
def splitCall (text : List Char) : Except Error (List Char × List Char × List Char) :=
  match Text.divideFirst '(' text with
  | none =>
    let text := String.ofList text
    .error (.malformedQuery s!"expected a call, found: {text}")
  | some (head, rest) =>
    -- The argument ends at the last bracket, as it may have some of its own.
    match Text.divideLast ')' rest with
    | none => .error (.malformedQuery "unbalanced parentheses in target")
    | some (argument, trailing) => .ok (Text.trim head, argument, Text.trim trailing)

/-- Reads a trimmed text that starts like a call. -/
def ofCall (text : List Char) : Except Error Target := do
  let (head, argument, trailing) ← splitCall text
  if trailing ≠ [] && trailing ≠ [';'] then
    let trailing := String.ofList trailing
    .error (.malformedQuery s!"unexpected text after call: {trailing}")
  else
    -- The method follows the last point of the head, the collection stands before it.
    match Text.divideLast '.' (head.drop callMark.length) with
    | none =>
      let head := String.ofList head
      .error (.malformedQuery s!"expected db.<collection>.aggregate(...), found: {head}")
    | some (name, method) =>
      let method := Text.trim method
      if method ≠ "aggregate".toList then
        let method := String.ofList method
        .error (.unsupportedOperation s!"{method}: only aggregate is supported")
      else do
        let collection ← named name
        .ok ⟨collection, Text.trim argument⟩

/-- Reads a target; a bare list of stages needs a collection given beside it. -/
def ofText (text : List Char) (given : Option String) : Except Error Target :=
  let text := Text.trim text
  if callMark.isPrefixOf text then ofCall text
  else do
    let collection ← named (given.getD "").toList
    .ok ⟨collection, text⟩

end Target

end DocSource
