import DocSource.Answer.Response
import DocSource.Pipeline.Query
import DocSource.Settings
import DocSource.Store.Connection

/-! Answering a batch of queries: the first query routes it, and each failure stays its own. -/

namespace DocSource

/-- The outcome of a connection test. -/
structure ConnectionStatus where
  success : Bool
  message : String
  deriving DecidableEq, Inhabited

namespace ConnectionStatus

/-- The word for an outcome. -/
def status (outcome : ConnectionStatus) : String := if outcome.success then "success" else "error"

/-- An outcome as JSON. -/
def toJson (outcome : ConnectionStatus) : Json :=
  .object [("status", .string outcome.status), ("message", .string outcome.message)]

end ConnectionStatus

/-- The metric that asks whether the store answers. -/
def pingMetric : String := "ping"

/-- The metric that asks for the names of the collections. -/
def listMetric : String := "list_collections"

/-- A table of one column with a string in each row. -/
def Table.ofNames (names : List String) : Table :=
  ⟨["value"], names.map fun name => [some (.string name)]⟩

namespace Settings

/-- Connects as the settings say. -/
def connect (settings : Settings) (store : Store) : Except Error Connection × Store :=
  Connection.open settings.uri settings.database store

/-- Compiles a query, runs it and decodes its documents; the cursor is dropped in any case. -/
def runQuery (settings : Settings) (connection : Connection) (range : TimeRange) (query : Query)
    (store : Store) : Except Error Result × Store :=
  match query.compile range settings.templates with
  | .error error => (.error error, store)
  | .ok compiled =>
    match connection.aggregate compiled.collection compiled.pipeline store with
    | (.error error, store) => (.error error, store)
    | (.ok cursor, store) =>
      -- A cursor that is dropped takes along what the decoder did not read.
      let (result, _) := decode compiled.shape query.refId (cursor.pending.map .ok)
      (result, cursor.drop store)

/-- Runs the queries of a batch in order, with a result for each. -/
def runQueries (settings : Settings) (connection : Connection) (range : TimeRange) :
    List Query → Store → List Result × Store
  | [], store => ([], store)
  | query :: rest, store =>
    -- An error becomes the query's result, and the batch goes on.
    let (outcome, store) := settings.runQuery connection range query store
    let result := match outcome with
      | .ok result => result
      | .error error => Result.ofError query.refId error
    let (results, store) := settings.runQueries connection range rest store
    (result :: results, store)

/-- Answers a batch on one connection; without one, or when it does not close, with one error. -/
def answerSeries (settings : Settings) (range : TimeRange) (queries : List Query) (store : Store) :
    Response × Store :=
  match settings.connect store with
  | (.error error, store) => (.fallback error, store)
  | (.ok connection, store) =>
    let (results, store) := settings.runQueries connection range queries store
    -- Failing to close takes away the results, which were all there.
    match connection.release store with
    | (.error error, store) => (.fallback error, store)
    | (.ok (), store) => (⟨results⟩, store)

/-- The table of a metric on an open connection. -/
def metricTable (target : String) (connection : Connection) (store : Store) :
    Except Error Table :=
  if target = pingMetric then (connection.ping store).map fun () => Table.ofNames []
  else (connection.listCollections store).map fun names => Table.ofNames names.mergeSort

/-- Runs a metric on a connection of its own. -/
def runMetric (settings : Settings) (query : Query) (store : Store) :
    Except Error Result × Store :=
  let target := query.target
  -- An unknown metric is refused before anything connects.
  if target ≠ pingMetric && target ≠ listMetric then
    (.error (.unsupportedOperation s!"Unsupported Metric: {target}"), store)
  else
    match settings.connect store with
    | (.error error, store) => (.error error, store)
    | (.ok connection, store) =>
      match metricTable target connection store with
      -- After an error the outcome of disconnecting is of no interest.
      | .error error => (.error error, connection.drop store)
      | .ok table =>
        match connection.release store with
        | (.error error, store) => (.error error, store)
        | (.ok (), store) => (.ok ⟨query.refId, .table table⟩, store)

/-- Answers a metric with one result. -/
def answerMetric (settings : Settings) (query : Query) (store : Store) : Response × Store :=
  match settings.runMetric query store with
  | (.ok result, store) => (⟨[result]⟩, store)
  | (.error error, store) => (⟨[Result.ofError query.refId error]⟩, store)

/-- Connects, pings and disconnects. -/
def checkConnection (settings : Settings) (store : Store) : Except Error Unit × Store :=
  match settings.connect store with
  | (.error error, store) => (.error error, store)
  | (.ok connection, store) => connection.release store

/-- Tests whether the store can be reached. -/
def testConnection (settings : Settings) (store : Store) : ConnectionStatus × Store :=
  match settings.checkConnection store with
  | (.ok (), store) =>
    let database := settings.database
    (⟨true, s!"Connected to database {database}"⟩, store)
  | (.error error, store) => (⟨false, error.message⟩, store)

/-- Answers a connection test with one result, an empty list of series when it succeeds. -/
def answerTest (settings : Settings) (query : Query) (store : Store) : Response × Store :=
  let (outcome, store) := settings.testConnection store
  let payload := if outcome.success then .series [] else .error outcome.message
  (⟨[⟨query.refId, payload⟩]⟩, store)

/-- Answers a batch by the type of its first query. -/
def answer (settings : Settings) (range : TimeRange) (queries : List Query) (store : Store) :
    Response × Store :=
  match queries with
  | [] => (⟨[]⟩, store)
  | first :: _ =>
    match first.queryType with
    -- A metric and a connection test answer for the first query alone.
    | .metrics => settings.answerMetric first store
    | .testConnection => settings.answerTest first store
    | .timeSeries => settings.answerSeries range queries store

end Settings

end DocSource
