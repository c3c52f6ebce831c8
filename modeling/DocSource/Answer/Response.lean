import DocSource.Answer.Series
import DocSource.Answer.Table
import DocSource.Pipeline.Basic

/-! Results and responses, and decoding a stream of documents into a result. -/

namespace DocSource

/-- What a result carries. -/
inductive Payload
  | series (series : List Series)
  | table (table : Table)
  | error (message : String)
  deriving DecidableEq, Inhabited

/-- The result of one query, under the query's own reference. -/
structure Result where
  refId : String
  payload : Payload
  deriving DecidableEq, Inhabited

namespace Result

/-- The result is an error. -/
def isError (result : Result) : Bool :=
  match result.payload with
  | .error _ => true
  | _ => false

/-- The text of an error result. -/
def errorMessage? (result : Result) : Option String :=
  match result.payload with
  | .error message => some message
  | _ => none

/-- The result that reports an error. -/
def ofError (refId : String) (error : Error) : Result := ⟨refId, .error error.message⟩

end Result

/-- The results of a request, in the order of its queries. -/
structure Response where
  results : List Result
  deriving DecidableEq, Inhabited

/-- The reference of the one result that replaces a whole response. -/
def fallbackRefId : String := "A"

/-- The response that reports one error for a whole request. -/
def Response.fallback (error : Error) : Response := ⟨[Result.ofError fallbackRefId error]⟩

/-- A stream of documents, any of which may turn out to be a failure of the stream. -/
abbrev DocumentStream := List (Except Error Document)

/-- Feeds a stream to an accumulator until something fails; the rest of the stream stays. -/
def feed {α : Type} (push : α → Document → Except Error Unit × α) :
    α → DocumentStream → Except Error α × DocumentStream
  | state, [] => (.ok state, [])
  -- Whether the stream or the push fails, the item at fault is taken, and no later one is.
  | _, .error error :: rest => (.error error, rest)
  | state, .ok document :: rest =>
    match push state document with
    | (.error error, _) => (.error error, rest)
    | (.ok (), state) => feed push state rest

/-- Decodes a stream into a table. -/
def decodeTable (stream : DocumentStream) : Except Error Table × DocumentStream :=
  let (outcome, rest) := feed TableBuilder.push .empty stream
  (outcome.map TableBuilder.finish, rest)

/-- Decodes a stream into series. -/
def decodeSeries (stream : DocumentStream) : Except Error (List Series) × DocumentStream :=
  let (outcome, rest) := feed SeriesBuilder.pushDocument .empty stream
  (outcome.map SeriesBuilder.finish, rest)

/-- Decodes a stream into a result of a shape, and gives what was not taken from the stream. -/
def decode (shape : Shape) (refId : String) (stream : DocumentStream) :
    Except Error Result × DocumentStream :=
  -- The rest of the stream is passed on whether or not a result came of what was taken.
  match shape with
  | .series =>
    let (series, rest) := decodeSeries stream
    (series.map fun series => ⟨refId, .series series⟩, rest)
  | .table =>
    let (table, rest) := decodeTable stream
    (table.map fun table => ⟨refId, .table table⟩, rest)

end DocSource
