import DocSource.Answer.Wire
import DocSource.Json.Printer
import DocSource.Json.Reader

/-! Requests as the host sends them: a time range, a data source and its queries. -/

namespace DocSource

/-- The data source a request is for, with its settings as JSON text. -/
structure SourceInfo where
  id : Int64
  name : String
  settings : String
  deriving DecidableEq, Inhabited

/-- One query of a request, with its description as JSON text. -/
structure QueryModel where
  refId : String
  samples : Int64
  interval : Int64
  model : String
  deriving DecidableEq, Inhabited

/-- A request. -/
structure Request where
  range : TimeRange
  source : SourceInfo
  queries : List QueryModel
  deriving DecidableEq, Inhabited

/-- A field that may be missing, read when it is there. -/
def fieldOr {α : Type} (default : α) (read : Written → Option α) : Option Written → Option α
  | none => some default
  | some written => read written

namespace TimeRange

/-- A range as JSON. -/
def toJson (range : TimeRange) : Json :=
  .object [("fromEpochMs", .int range.start.toInt), ("toEpochMs", .int range.stop.toInt)]

/-- The range that a text writes. -/
def ofWritten? (written : Written) : Option TimeRange := do
  let [some start, some stop] ← written.fields? ["fromEpochMs", "toEpochMs"] | none
  let start ← start.int64?
  let stop ← stop.int64?
  some ⟨start, stop⟩

end TimeRange

namespace SourceInfo

/-- The data source of a request that names none. -/
def unnamed : SourceInfo := ⟨0, "", ""⟩

/-- A data source as JSON. -/
def toJson (source : SourceInfo) : Json :=
  .object [("id", .int source.id.toInt), ("name", .string source.name),
    ("jsonData", .string source.settings)]

/-- The data source that a text writes; every field may be missing. -/
def ofWritten? (written : Written) : Option SourceInfo := do
  let [id, name, settings] ← written.fields? ["id", "name", "jsonData"] | none
  let id ← fieldOr 0 Written.int64? id
  let name ← fieldOr "" Written.string? name
  let settings ← fieldOr "" Written.string? settings
  some ⟨id, name, settings⟩

/-- The data source of a text. -/
def ofText (text : String) : Except Error SourceInfo :=
  match (Json.written? text.toList).bind ofWritten? with
  | some source => .ok source
  | none => .error .json

end SourceInfo

namespace QueryModel

/-- A query of a request as JSON. -/
def toJson (query : QueryModel) : Json :=
  .object [("refId", .string query.refId), ("maxDataPoints", .int query.samples.toInt),
    ("intervalMs", .int query.interval.toInt), ("modelJson", .string query.model)]

/-- The query that a text writes; every field but the reference may be missing. -/
def ofWritten? (written : Written) : Option QueryModel := do
  let [some refId, samples, interval, model] ←
    -- Only the reference has no default, so its member must be there.
    written.fields? ["refId", "maxDataPoints", "intervalMs", "modelJson"] | none
  let refId ← refId.string?
  let samples ← fieldOr 0 Written.int64? samples
  let interval ← fieldOr 0 Written.int64? interval
  let model ← fieldOr "" Written.string? model
  some ⟨refId, samples, interval, model⟩

end QueryModel

namespace Request

/-- A request as JSON. -/
def toJson (request : Request) : Json :=
  .object [("timeRange", request.range.toJson), ("datasource", request.source.toJson),
    ("queries", .array (request.queries.map QueryModel.toJson))]

/-- The request that a text writes; the data source may be missing. -/
def ofWritten? (written : Written) : Option Request := do
  let [some range, source, some queries] ←
    written.fields? ["timeRange", "datasource", "queries"] | none
  let range ← TimeRange.ofWritten? range
  let source ← fieldOr .unnamed SourceInfo.ofWritten? source
  let queries ← queries.items? QueryModel.ofWritten?
  some ⟨range, source, queries⟩

/-- The request of a text. -/
def ofText (text : String) : Except Error Request :=
  match (Json.written? text.toList).bind ofWritten? with
  | some request => .ok request
  | none => .error .json

/-- The text of a request. -/
def text (request : Request) : String := request.toJson.compactText

end Request

namespace Response

/-- The response of a text. -/
def ofText (text : String) : Except Error Response :=
  match (Json.written? text.toList).bind ofWritten? with
  | some response => .ok response
  | none => .error .json

/-- The text of a response. -/
def text (response : Response) : String := response.toJson.compactText

end Response

end DocSource
