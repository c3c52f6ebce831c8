import DocSource.Bson.Document
import DocSource.Bson.Printer
import DocSource.Error
import DocSource.Pipeline.Basic
import DocSource.Pipeline.Placeholder

/-! Stage templates: the text of an argument, and the stages a template puts in a stage's place. -/

namespace DocSource

namespace StageTemplate

/-- Where a template takes its argument. -/
def argumentToken : List Char := "$QUERY".toList

/-- An argument as text: strings as they are, documents and arrays without their brackets. -/
def argumentText : Bson → List Char
  | .string text => text.toList
  | .document members =>
    Text.joined [','] (members.map fun (key, value) => Json.quoted key ++ ':' :: value.canonical)
  | .array items => Text.joined [','] (items.map Bson.canonical)
  | other => other.canonical

/-- The text of a template with its argument in place. -/
def render (template : String) (argument : List Char) : List Char :=
  Text.replace argumentToken argument template.toList

/-- The template that a stage calls for, with the argument it gives. -/
def called? (templates : List StageTemplate) : Document → Option (StageTemplate × Bson)
  | [(key, argument)] => (templates.find? (·.operator == key)).map fun t => (t, argument)
  | _ => none

/-- The documents among values, which must all be documents. -/
def stages (name : String) : List Bson → Except Error (List Document)
  | [] => .ok []
  | .document members :: rest => do
    let rest ← stages name rest
    .ok (members :: rest)
  -- The first value that is no document is the error.
  | other :: _ =>
    let found := other.typeName
    .error (.macroExpansion name s!"expected a stage object, found {found}")

/-- The stages that take the place of one that calls for a template. -/
def replacement (values : Placeholders) (template : StageTemplate) (argument : Bson) :
    Except Error (List Document) :=
  let rendered := values.fill (render template.stage (argumentText argument))
  match readValues ('[' :: rendered ++ [']']) with
  | .ok items => stages template.name items
  | .error fault => .error (.macroExpansion template.name fault.message)

/-- The stages that stand for one stage: its template's, or itself. -/
def expandStage (templates : List StageTemplate) (values : Placeholders) (stage : Document) :
    Except Error (List Document) :=
  match called? templates stage with
  | some (template, argument) => replacement values template argument
  | none => .ok [stage]

/-- Puts templates in the place of the stages that call for them, from the left. -/
def expand (templates : List StageTemplate) (values : Placeholders) :
    List Document → Except Error (List Document)
  | [] => .ok []
  | stage :: rest => do
    let first ← expandStage templates values stage
    let rest ← expand templates values rest
    .ok (first ++ rest)

end StageTemplate

end DocSource
