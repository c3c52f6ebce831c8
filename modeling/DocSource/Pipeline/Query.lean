import DocSource.Pipeline.Compile

/-! Queries as the host describes them: free-form JSON with defaults. -/

namespace DocSource

/-- What a query asks of the data source. -/
inductive QueryType
  | timeSeries
  | metrics
  | testConnection
  deriving DecidableEq, Inhabited

/-- The query type with a name; any other name means a time series. -/
def QueryType.ofName (name : String) : QueryType :=
  if name = "metricsQuery" then metrics
  else if name = "testConnection" then testConnection
  else timeSeries

/-- One query, with the reason when its description could not be read. -/
structure Query where
  refId : String
  target : String
  resultType : String
  collection : Option String
  samples : Int64
  queryType : QueryType
  rejected : Option String
  deriving DecidableEq, Inhabited

namespace Query

/-- Why a description that is no JSON is rejected. -/
def unreadable : String := "invalid query model: <json>"

/-- A query from its description; a positive hint wins over the description's samples. -/
def ofJson (refId : String) (model : Json) (hint : Int64) : Query :=
  let requested := if 0 < hint then hint else model.int64At "maxDataPoints" 0
  { refId := refId
    target := model.stringAt "target" ""
    resultType := model.stringAt "type" Shape.series.name
    collection := (model.stringAt? "collection").filter (· ≠ "")
    -- With neither a hint nor samples in the description, one sample is asked for.
    samples := if requested < 1 then 1 else requested
    queryType := QueryType.ofName (model.stringAt "queryType" "")
    rejected := none }

/-- A query from the text of its description. -/
def ofText (refId model : String) (hint : Int64) : Except Error Query :=
  match readJsonOrEmpty? model with
  | some json => .ok (ofJson refId json hint)
  | none => .error (.malformedQuery unreadable)

/-- A query from the text of its description, carrying the reason when there is none. -/
def ofTextOrRejected (refId model : String) (hint : Int64) : Query :=
  match readJsonOrEmpty? model with
  | some json => ofJson refId json hint
  | none => { ofJson refId .null hint with rejected := some unreadable }

/-- The shape that a query asks for. -/
def shape (query : Query) : Except Error Shape :=
  match Shape.ofName? query.resultType with
  | some shape => .ok shape
  | none =>
    let name := query.resultType
    .error (.malformedQuery s!"unknown result type: {name}")

/-- Compiles a query, unless its description was rejected. -/
def compile (query : Query) (range : TimeRange) (templates : List StageTemplate) :
    Except Error CompiledQuery :=
  match query.rejected with
  | some reason => .error (.malformedQuery reason)
  | none => do
    let shape ← query.shape
    compileText query.target query.collection shape range query.samples templates

end Query

end DocSource
