import DocSource.Bson.Basic

/-! What the host asks with: time ranges, result shapes, stage templates and compiled queries. -/

namespace DocSource

/-- A range of time, in milliseconds since 1970. -/
structure TimeRange where
  start : Int64
  stop : Int64
  deriving DecidableEq, Inhabited

/-- What the documents of a query are decoded into. -/
inductive Shape
  | series
  | table
  deriving DecidableEq, Inhabited

namespace Shape

/-- The word for a shape. -/
def name : Shape → String
  | series => "timeserie"
  | table => "table"

/-- The shape with a name. -/
def ofName? (name : String) : Option Shape :=
  if name = "timeserie" then some series else if name = "table" then some table else none

end Shape

/-- A named text of stages that takes the place of a stage with its operator. -/
structure StageTemplate where
  name : String
  stage : String
  deriving DecidableEq, Inhabited

/-- The operator that calls for a template. -/
def StageTemplate.operator (template : StageTemplate) : String := "$" ++ template.name

/-- A query as the store receives it, with the shape of its answer. -/
structure CompiledQuery where
  collection : String
  pipeline : List Document
  shape : Shape

end DocSource
