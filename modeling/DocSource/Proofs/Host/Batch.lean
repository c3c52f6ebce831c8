import DocSource.Host.Plugin
import DocSource.Proofs.Host.Session

/-! Batches of queries: each query's result is its own, whatever else the batch holds. -/

namespace DocSource

/-- A decoded result carries the reference it was decoded for. -/
theorem refId_of_decode {shape : Shape} {refId : String} {stream : DocumentStream}
    {result : Result} (given : (decode shape refId stream).1 = .ok result) :
    result.refId = refId := by
  -- Either shape puts the reference beside what it decoded.
  cases shape with
  | series =>
    simp only [decode] at given
    cases taken : (decodeSeries stream).1 with
    | error fault => simp [taken, Except.map] at given
    | ok series =>
      simp only [taken, Except.map, Except.ok.injEq] at given
      rw [← given]
  | table =>
    simp only [decode] at given
    cases taken : (decodeTable stream).1 with
    | error fault => simp [taken, Except.map] at given
    | ok table =>
      simp only [taken, Except.map, Except.ok.injEq] at given
      rw [← given]

namespace Query

/-- What a query gives by itself: its own error, or the documents of its collection decoded. -/
def outcome (settings : Settings) (range : TimeRange) (store : Store) (query : Query) :
    Except Error Result := do
  let compiled ← query.compile range settings.templates
  -- Of the store, only the failure and the documents of this one collection are looked at.
  match store.failure? (.aggregate compiled.collection) with
  | some message => .error (.execution message)
  | none =>
    let documents := store.documents settings.database compiled.collection
    (decode compiled.shape query.refId (documents.map .ok)).1

/-- What a query gives carries its reference. -/
theorem refId_of_outcome {settings : Settings} {range : TimeRange} {store : Store}
    {query : Query} {result : Result} (given : query.outcome settings range store = .ok result) :
    result.refId = query.refId := by
  -- Only decoding gives a result.
  unfold outcome at given
  cases taken : query.compile range settings.templates with
  | error fault => simp [taken, bind, Except.bind] at given
  | ok compiled =>
    cases failing : store.failure? (.aggregate compiled.collection) with
    | some message => simp [taken, failing, bind, Except.bind] at given
    | none =>
      simp only [taken, failing, bind, Except.bind] at given
      exact refId_of_decode given

/-- The aggregation that a query puts to the store, if it compiles and may be aggregated. -/
def sent (settings : Settings) (range : TimeRange) (store : Store) (query : Query) :
    List Aggregation :=
  -- The log is written before the documents are decoded.
  match query.compile range settings.templates with
  | .error _ => []
  | .ok compiled =>
    match store.failure? (.aggregate compiled.collection) with
    | some _ => []
    | none => [⟨settings.database, compiled.collection, compiled.pipeline⟩]

/-- The result of a query, which reports its error when it fails. -/
def result (settings : Settings) (range : TimeRange) (store : Store) (query : Query) : Result :=
  -- The error keeps its place in the batch, under the reference of its query.
  match query.outcome settings range store with
  | .ok result => result
  | .error error => .ofError query.refId error

end Query

namespace Settings

variable (settings : Settings) (range : TimeRange)

/-- Running a query gives its outcome, and leaves a trace in the log of the store alone. -/
theorem runQuery_eq (uri : String) (query : Query) (store : Store) :
    settings.runQuery (.inUse uri settings.database) range query store =
      (query.outcome settings range store, store.log (query.sent settings range store)) := by
  unfold runQuery Query.outcome Query.sent
  cases query.compile range settings.templates with
  | error fault => simp [bind, Except.bind]
  | ok compiled =>
    -- The cursor that is opened is closed when it is dropped, wherever decoding stops.
    cases failing : store.failure? (.aggregate compiled.collection) <;>
      simp [Connection.aggregate, Connection.inUse, Handle.aggregate, failing, Except.map,
        CursorGuard.pending, CursorGuard.drop, Cursor.close, bind, Except.bind]

/-- Running a batch gives the result of each query, and leaves its traces in the log alone. -/
theorem runQueries_eq (uri : String) (queries : List Query) (store : Store) :
    settings.runQueries (.inUse uri settings.database) range queries store =
      (queries.map (Query.result settings range store),
        store.log (queries.flatMap (Query.sent settings range store))) := by
  -- No query reads the log, so each one meets the store as it was.
  induction queries generalizing store with
  | nil => simp [runQueries]
  | cons query rest ih =>
    have others := ih (store.log (query.sent settings range store))
    have results : Query.result settings range (store.log (query.sent settings range store)) =
        Query.result settings range store := rfl
    have traces : Query.sent settings range (store.log (query.sent settings range store)) =
        Query.sent settings range store := rfl
    rw [results, traces, Store.log_log] at others
    simp only [runQueries, runQuery_eq, others, List.map_cons, List.flatMap_cons]
    rfl

/-- The work of a batch on a connection, which gives a result for each query. -/
def batchWork (queries : List Query) (connection : Connection) (store : Store) :
    Except Error (List Result) × Store :=
  -- The batch as a whole never fails, as its errors are results.
  let (results, store) := settings.runQueries connection range queries store
  (.ok results, store)

/-- A batch is answered by a session, or by its error. -/
theorem answerSeries_eq_session (queries : List Query) (store : Store) :
    settings.answerSeries range queries store =
      let (outcome, after) := settings.session (settings.batchWork range queries) store
      (match outcome with
        | .ok results => ⟨results⟩
        | .error fault => .fallback fault, after) := by
  -- The batch itself never fails, so connecting and releasing are what can.
  unfold answerSeries session batchWork
  rcases settings.connect store with ⟨fault | connection, joined⟩
  · rfl
  · rcases released : connection.release (settings.runQueries connection range queries joined).2
      with ⟨fault | done, left⟩ <;> simp [released, Except.map]

/-- A batch is answered by the result of each query, unless a point of its session fails. -/
theorem answerSeries_pass (queries : List Query) (store : Store) :
    settings.answerSeries range queries store =
      (match store.pass [.connect, .ping, .disconnect]
          (queries.map (Query.result settings range store)) with
        | .ok results => ⟨results⟩
        | .error fault => .fallback fault,
        store.visited (queries.flatMap (Query.sent settings range store))) := by
  -- Counting the connection changes nothing that a query reads.
  have worked : settings.batchWork range queries (.inUse settings.uri settings.database)
      store.addConnection = (store.pass [] (queries.map (Query.result settings range store)),
        store.addConnection.log (queries.flatMap (Query.sent settings range store))) := by
    rw [batchWork, runQueries_eq, Store.pass_nil]
    rfl
  rw [answerSeries_eq_session, settings.session_eq_pass store worked]
  rfl

/-- A batch whose connection opens and closes is answered by the result of each query. -/
theorem answerSeries_eq {store : Store} (queries : List Query)
    (connects : store.failure? .connect = none) (answers : store.failure? .ping = none)
    (closes : store.failure? .disconnect = none) :
    (settings.answerSeries range queries store).1 =
      ⟨queries.map (Query.result settings range store)⟩ := by
  -- Three points are passed, and none of them is scripted to fail.
  rw [answerSeries_pass]
  simp [Store.pass_cons, Store.fault?, connects, answers, closes]

end Settings

namespace QueryModel

/-- What a query of a request gives by itself, when its description is read strictly. -/
def outcome (settings : Settings) (range : TimeRange) (store : Store) (query : QueryModel) :
    Except Error Result := do
  -- A description that does not read is an error before the store is asked.
  let description ← Query.ofText query.refId query.model query.samples
  description.outcome settings range store

/-- The result of a query of a request, which reports its error when it fails. -/
def result (settings : Settings) (range : TimeRange) (store : Store) (query : QueryModel) :
    Result :=
  -- As for a query that has been read, an error is a result under the reference of its query.
  match query.outcome settings range store with
  | .ok result => result
  | .error error => .ofError query.refId error

/-- A description that is marked as rejected fails as it does when it is read strictly. -/
theorem result_ofTextOrRejected (settings : Settings) (range : TimeRange) (store : Store)
    (query : QueryModel) :
    (Query.ofTextOrRejected query.refId query.model query.samples).result settings range store =
      query.result settings range store := by
  -- The mark of a rejected description is the message of its error.
  unfold Query.ofTextOrRejected QueryModel.result QueryModel.outcome Query.ofText
  cases readJsonOrEmpty? query.model with
  | none => rfl
  | some json => rfl

/-- Two stores hold the same under the collection that a query compiles to, and fail alike there. -/
def SameSource (settings : Settings) (range : TimeRange) (store other : Store)
    (query : QueryModel) : Prop :=
  -- A query that does not compile asks for no collection, so nothing has to agree.
  ∀ description compiled,
    Query.ofText query.refId query.model query.samples = .ok description →
    description.compile range settings.templates = .ok compiled →
    store.failure? (.aggregate compiled.collection) =
        other.failure? (.aggregate compiled.collection) ∧
      store.documents settings.database compiled.collection =
        other.documents settings.database compiled.collection

/-- A query sees no more of a store than the collection it compiles to. -/
theorem outcome_congr {settings : Settings} {range : TimeRange} {store other : Store}
    {query : QueryModel} (same : query.SameSource settings range store other) :
    query.outcome settings range store = query.outcome settings range other := by
  -- The store is looked at behind a successful compilation only.
  unfold outcome
  cases read : Query.ofText query.refId query.model query.samples with
  | error fault => rfl
  | ok description =>
    simp only [bind, Except.bind, Query.outcome]
    cases taken : description.compile range settings.templates with
    | error fault => rfl
    | ok compiled =>
      obtain ⟨failing, documents⟩ := same description compiled read taken
      simp only [failing, documents]

/-- The result of a query carries its reference. -/
theorem refId_result (settings : Settings) (range : TimeRange) (store : Store)
    (query : QueryModel) : (query.result settings range store).refId = query.refId := by
  -- The reference is that of the error, or that of the description.
  unfold result
  cases given : query.outcome settings range store with
  | error fault => rfl
  | ok result =>
    simp only [outcome, Query.ofText] at given
    cases read : readJsonOrEmpty? query.model with
    | none => simp [read, bind, Except.bind] at given
    | some json =>
      simp only [read, bind, Except.bind] at given
      exact Query.refId_of_outcome given

end QueryModel

/-- The queries of a request give the results that they give by themselves. -/
theorem Request.map_queryList (request : Request) (settings : Settings) (store : Store) :
    request.queryList.map (Query.result settings request.range store) =
      request.queries.map (QueryModel.result settings request.range store) := by
  -- A rejected description gives the error of its strict reading.
  rw [Request.queryList, List.map_map]
  exact List.map_congr_left fun query _ =>
    QueryModel.result_ofTextOrRejected settings request.range store query

/-- A request that a store answers query by query, as its first query asks for a time series. -/
structure Request.Batch (settings : Settings) (request : Request) (store : Store) : Prop where
  usable : Settings.ofText request.source.settings = .ok settings
  routed : ∃ first rest, request.queries = first :: rest ∧
    (Query.ofTextOrRejected first.refId first.model first.samples).queryType = .timeSeries
  connects : store.failure? .connect = none
  answers : store.failure? .ping = none
  closes : store.failure? .disconnect = none

/-- A batch is answered by the results that its queries give by themselves, in their order. -/
theorem Request.Batch.results_eq {settings : Settings} {request : Request} {store : Store}
    (batch : request.Batch settings store) :
    (request.answer store).1.results =
      request.queries.map (QueryModel.result settings request.range store) := by
  obtain ⟨first, rest, queries, routed⟩ := batch.routed
  have served := settings.answerSeries_eq request.range request.queryList batch.connects
    batch.answers batch.closes
  -- The first query sends the whole batch to the store.
  have route : settings.answer request.range request.queryList store =
      settings.answerSeries request.range request.queryList store := by
    simp only [Request.queryList, queries, List.map_cons, Settings.answer, routed]
  rw [Request.answer, batch.usable]
  simp only [route, served, request.map_queryList settings store]

/--
A batch is answered in order, query by query: each result carries the reference of its query and is
what the query gives by itself, so other queries, batches and collections make no difference to it.
-/
theorem answer_batch {settings : Settings} {request : Request} {store : Store}
    (batch : request.Batch settings store) :
    (request.answer store).1.results =
        request.queries.map (QueryModel.result settings request.range store) ∧
      ((request.answer store).1.results.map (·.refId) = request.queries.map (·.refId)) ∧
      ∀ (other : Request) (elsewhere : Store), other.Batch settings elsewhere →
        other.range = request.range → ∀ (index place : Nat) (query : QueryModel),
          request.queries[index]? = some query → other.queries[place]? = some query →
          query.SameSource settings request.range store elsewhere →
          (request.answer store).1.results[index]? =
            (other.answer elsewhere).1.results[place]? := by
  -- Each result is read off the map over the queries.
  refine ⟨batch.results_eq, ?_, ?_⟩
  · rw [batch.results_eq, List.map_map]
    exact List.map_congr_left fun query _ =>
      QueryModel.refId_result settings request.range store query
  · intro other elsewhere served sameRange index place query here there same
    rw [batch.results_eq, served.results_eq, List.getElem?_map, List.getElem?_map, here, there,
      sameRange]
    simp only [Option.map_some, QueryModel.result, QueryModel.outcome_congr same]

/-- A query without limits, described by a JSON value. -/
def QueryModel.describing (refId : String) (model : Json) : QueryModel :=
  ⟨refId, 0, 0, model.compactText⟩

/-- A request for queries of a data source with the default settings. -/
def Request.ofQueries (queries : List QueryModel) : Request := ⟨⟨0, 9⟩, .unnamed, queries⟩

/-- A store of one reading, where asking for faults fails. -/
def readingsStore : Store :=
  -- One collection can be read, and another has no documents and an error instead.
  (Store.empty.insert Settings.defaultDatabase "readings"
    [[("name", .string "x"), ("value", .int32 3), ("ts", .dateTime 5)]]).fail
      (.aggregate "faults") "down"

/--
A series and a failed aggregation are answered side by side, and the series is the same behind an
unreadable description, of a store that holds faults and does not fail.
-/
theorem answer_batch_pair :
    let readings := QueryModel.describing "A"
      (.object [("target", .string "db.readings.aggregate([])")])
    let faults := QueryModel.describing "B"
      (.object [("target", .string "db.faults.aggregate([])")])
    let unreadable : QueryModel := ⟨"C", 0, 0, "["⟩
    let series : Result := ⟨"A", .series [⟨"x", [⟨5, ⟨0x4008000000000000⟩⟩]⟩]⟩
    let elsewhere := (readingsStore.insert Settings.defaultDatabase "faults" [[]]).clearFailures
    ((Request.ofQueries [readings, faults]).answer readingsStore).1.results =
        [series, ⟨"B", .error "Execution error: down"⟩] ∧
      ((Request.ofQueries [readings, faults]).answer readingsStore).1.results.map (·.refId) =
        ["A", "B"] ∧
      ((Request.ofQueries [unreadable, readings]).answer elsewhere).1.results[1]? =
        some series := by
  intro readings faults unreadable series elsewhere
  have batch : (Request.ofQueries [readings, faults]).Batch .default readingsStore :=
    ⟨rfl, ⟨_, _, rfl, by decide +kernel⟩, rfl, rfl, rfl⟩
  have other : (Request.ofQueries [unreadable, readings]).Batch .default elsewhere :=
    ⟨rfl, ⟨_, _, rfl, by decide +kernel⟩, rfl, rfl, rfl⟩
  have same : readings.SameSource .default ⟨0, 9⟩ readingsStore elsewhere := by
    intro description compiled read compiles
    have named : ((Query.ofText readings.refId readings.model readings.samples).toOption.bind
        fun description => (description.compile ⟨0, 9⟩ Settings.default.templates).toOption.map
          (·.collection)) = some "readings" := by
      decide +kernel
    simp only [read, compiles, Except.toOption, Option.bind_some, Option.map_some,
      Option.some.injEq] at named
    -- The other store differs in the faults, which are another collection.
    have kept := Store.documents_insert Settings.defaultDatabase "faults" [[]] readingsStore
      Settings.defaultDatabase "readings"
    rw [if_neg (by decide)] at kept
    rw [named]
    exact ⟨rfl, kept.symm⟩
  obtain ⟨results, references, apart⟩ := answer_batch batch
  have answers : (Request.ofQueries [readings, faults]).queries.map
      (QueryModel.result .default ⟨0, 9⟩ readingsStore) =
        [series, ⟨"B", .error "Execution error: down"⟩] := by
    decide +kernel
  refine ⟨results.trans answers, references, ?_⟩
  -- The same query stands first in the one batch and second in the other.
  rw [← apart _ elsewhere other rfl 0 1 readings rfl rfl same, results]
  exact congrArg (·[0]?) answers

end DocSource
