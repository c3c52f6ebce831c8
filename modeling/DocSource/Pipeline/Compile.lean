import DocSource.Pipeline.Target
import DocSource.Pipeline.Template

/-! Compiling a query text: placeholders, target, stages, templates, in that order. -/

namespace DocSource

/-- The stages of a target, counted from `index` in the error for one that is no document. -/
def stagesOf (index : Nat) : List Bson → Except Error (List Document)
  | [] => .ok []
  | .document members :: rest => do
    let rest ← stagesOf (index + 1) rest
    .ok (members :: rest)
  -- The first value that is no document is the error, with its place among the stages.
  | other :: _ =>
    let found := other.typeName
    .error (.malformedQuery s!"stage {index} must be an object, found {found}")

/-- The stages that a text lists. -/
def readStages (source : List Char) : Except Error (List Document) :=
  match readValues source with
  | .ok items => stagesOf 0 items
  | .error fault => .error (.malformedQuery fault.message)

/-- Compiles a query text for a range and a number of samples, which is at least one. -/
def compileText (target : String) (collection : Option String) (shape : Shape)
    (range : TimeRange) (samples : Int64) (templates : List StageTemplate) :
    Except Error CompiledQuery := do
  let values : Placeholders := ⟨range.start, range.stop, if samples < 1 then 1 else samples⟩
  -- The text is filled before it is parsed, so a placeholder may stand anywhere in it.
  let target ← Target.ofText (values.fill target.toList) collection
  let stages ← readStages target.source
  let pipeline ← StageTemplate.expand templates values stages
  .ok ⟨target.collection, pipeline, shape⟩

end DocSource
