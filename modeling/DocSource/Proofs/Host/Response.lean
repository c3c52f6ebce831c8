import DocSource.Proofs.Host.Batch
import DocSource.Proofs.Settings

/-! The shape of every response: which results there are, under which reference and error. -/

namespace DocSource

namespace Query

/-- A description that can be read is the description of its query. -/
theorem ofTextOrRejected_of_ok {refId model : String} {hint : Int64} {query : Query}
    (read : ofText refId model hint = .ok query) : ofTextOrRejected refId model hint = query := by
  -- The two readings differ only where the text is no JSON.
  unfold ofText at read
  unfold ofTextOrRejected
  cases found : readJsonOrEmpty? model with
  | none => simp [found] at read
  | some json => simpa [found] using read

/-- A description that is not rejected is read. -/
theorem ofText_of_rejected_eq_none {refId model : String} {hint : Int64}
    (accepted : (ofTextOrRejected refId model hint).rejected = none) :
    ofText refId model hint = .ok (ofTextOrRejected refId model hint) := by
  -- The only mark of rejection is that of a text that is no JSON.
  unfold ofTextOrRejected at accepted ⊢
  unfold ofText
  cases found : readJsonOrEmpty? model with
  | none => simp [found] at accepted
  | some json => rfl

/-- A description that cannot be read asks for a time series. -/
theorem queryType_ofTextOrRejected_of_error {refId model : String} {hint : Int64} {fault : Error}
    (unread : ofText refId model hint = .error fault) :
    (ofTextOrRejected refId model hint).queryType = .timeSeries := by
  -- A rejected description has no members, and a missing type means a series.
  unfold ofText at unread
  unfold ofTextOrRejected
  cases found : readJsonOrEmpty? model with
  | none => rfl
  | some json => simp [found] at unread

/-- The query of a description carries its reference. -/
theorem refId_ofText {refId model : String} {hint : Int64} {query : Query}
    (read : ofText refId model hint = .ok query) : query.refId = refId := by
  -- The reference is handed over, not read.
  unfold ofText at read
  cases found : readJsonOrEmpty? model with
  | none => simp [found] at read
  | some json =>
    simp only [found, Except.ok.injEq] at read
    rw [← read]
    rfl

end Query

/-- A request begins with a query, and its settings are usable. -/
structure Request.Opens (request : Request) (settings : Settings) (first : QueryModel) : Prop where
  usable : Settings.ofText request.source.settings = .ok settings
  first_eq : request.queries.head? = some first

/-- The description of a query reads as a query of a type. -/
structure QueryModel.Asks (model : QueryModel) (query : Query) (type : QueryType) : Prop where
  read : Query.ofText model.refId model.model model.samples = .ok query
  type_eq : query.queryType = type

/-- The points that a known metric passes, each of which may fail. -/
def Query.metricPath? (query : Query) : Option (List FailPoint) :=
  -- What is asked for stands between the connect with its ping and the disconnect.
  if query.target = pingMetric then some [.connect, .ping, .disconnect]
  else if query.target = listMetric then some [.connect, .ping, .listCollections, .disconnect]
  else none

/-- The answer to a request has the shape that its settings, first query and store call for. -/
structure Request.Shaped (request : Request) (store : Store) (answer : Response × Store) :
    Prop where
  /-- Unusable settings are the one error, under the fallback reference. -/
  refused : ∀ fault, Settings.ofText request.source.settings = .error fault →
    (∃ reason, fault = .config reason) ∧
      answer.1.results = [⟨fallbackRefId, .error fault.message⟩]
  /-- No queries have no results. -/
  idle : ∀ settings, Settings.ofText request.source.settings = .ok settings →
    request.queries = [] → answer.1.results = []
  /-- An unknown metric is an error under its own reference, and nothing reaches the store. -/
  unknownMetric : ∀ settings first query, request.Opens settings first →
    first.Asks query .metrics → query.metricPath? = none →
    answer.1.results = [⟨first.refId,
      .error (Error.unsupportedOperation ("Unsupported Metric: " ++ query.target)).message⟩] ∧
      answer.2 = store
  /-- A known metric is the first error on its way, or a table of one column. -/
  knownMetric : ∀ settings first query points, request.Opens settings first →
    first.Asks query .metrics → query.metricPath? = some points →
    match points.findSome? store.fault? with
    | some fault => answer.1.results = [⟨first.refId, .error fault.message⟩]
    | none => ∃ table : Table, answer.1.results = [⟨first.refId, .table table⟩] ∧
      table.columns.length = 1 ∧ ∀ row ∈ table.rows, row.length = 1
  /-- A connection test is the first error on its way, or no series. -/
  tested : ∀ settings first query, request.Opens settings first →
    first.Asks query .testConnection →
    match [FailPoint.connect, .ping, .disconnect].findSome? store.fault? with
    | some fault => answer.1.results = [⟨first.refId, .error fault.message⟩]
    | none => answer.1.results = [⟨first.refId, .series []⟩]
  /-- Any other batch is the first error on its way, or a result for each query in order. -/
  batch : ∀ settings first, request.Opens settings first →
    (∀ query, ¬ first.Asks query .metrics ∧ ¬ first.Asks query .testConnection) →
    match [FailPoint.connect, .ping, .disconnect].findSome? store.fault? with
    | some fault => answer.1.results = [⟨fallbackRefId, .error fault.message⟩]
    | none =>
      answer.1.results = request.queries.map (QueryModel.result settings request.range store) ∧
        answer.1.results.map (·.refId) = request.queries.map (·.refId)

namespace Request.Opens

variable {request : Request} {settings : Settings} {first : QueryModel} {query : Query}
  (opens : request.Opens settings first) (store : Store)
include opens

/-- The settings of a request answer its queries, of which there is a first. -/
theorem answer_eq :
    ∃ rest, request.queryList =
        .ofTextOrRejected first.refId first.model first.samples :: rest ∧
      request.answer store = settings.answer request.range request.queryList store := by
  -- A first query is one in front of the others, and usable settings answer them all.
  obtain ⟨rest, begins⟩ := List.head?_eq_some_iff.mp opens.first_eq
  refine ⟨_, by rw [Request.queryList, begins, List.map_cons], ?_⟩
  rw [Request.answer, opens.usable]

/-- A request for a metric is answered by the metric. -/
theorem answer_metric (asks : first.Asks query .metrics) :
    request.answer store = settings.answerMetric query store := by
  -- The first query says what is asked for, and the others are not looked at.
  obtain ⟨rest, begins, answered⟩ := opens.answer_eq store
  rw [answered, begins, Query.ofTextOrRejected_of_ok asks.read]
  simp only [Settings.answer, asks.type_eq]

/-- A request for a connection test is answered by the test. -/
theorem answer_test (asks : first.Asks query .testConnection) :
    request.answer store = settings.answerTest query store := by
  -- The first query says what is asked for, and the others are not looked at.
  obtain ⟨rest, begins, answered⟩ := opens.answer_eq store
  rw [answered, begins, Query.ofTextOrRejected_of_ok asks.read]
  simp only [Settings.answer, asks.type_eq]

/-- Any other request is answered as a batch of series. -/
theorem answer_series
    (other : ∀ query, ¬ first.Asks query .metrics ∧ ¬ first.Asks query .testConnection) :
    request.answer store = settings.answerSeries request.range request.queryList store := by
  obtain ⟨rest, begins, answered⟩ := opens.answer_eq store
  -- A description that cannot be read counts as one that asks for a series.
  have routed : (Query.ofTextOrRejected first.refId first.model first.samples).queryType =
      .timeSeries := by
    cases read : Query.ofText first.refId first.model first.samples with
    | error fault => exact Query.queryType_ofTextOrRejected_of_error read
    | ok query =>
      rw [Query.ofTextOrRejected_of_ok read]
      cases type : query.queryType with
      | timeSeries => rfl
      | metrics => exact absurd ⟨read, type⟩ (other query).1
      | testConnection => exact absurd ⟨read, type⟩ (other query).2
  rw [answered, begins]
  simp only [Settings.answer, routed]

end Request.Opens

/-- The points on the way of a known metric are those that its session passes. -/
theorem Query.findSome?_metricPath {query : Query} {points : List FailPoint}
    (path : query.metricPath? = some points) (store : Store) :
    points.findSome? store.fault? =
      (Settings.sessionPath (Settings.metricPoints query.target)).findSome? store.fault? := by
  unfold metricPath? at path
  split at path
  case isTrue ping =>
    -- The session pings twice, but what was answered once is answered again.
    rw [← Option.some.inj path, Settings.metricPoints, if_pos ping, Settings.sessionPath]
    cases silent : store.fault? .ping <;> simp [List.findSome?_cons, silent]
  case isFalse other =>
    split at path
    case isTrue list =>
      rw [← Option.some.inj path, Settings.metricPoints, if_neg other]
      rfl
    case isFalse unknown => simp at path

/-- The known metrics are the ping and the list of collections. -/
theorem Query.isSome_metricPath?_iff (query : Query) :
    query.metricPath?.isSome ↔ query.target = pingMetric ∨ query.target = listMetric := by
  -- A target without a path is none of the two that are compared with.
  unfold metricPath?
  split
  case isTrue ping => simp [ping]
  case isFalse other => split <;> simp [*]

/-- The table of names has one column, and so has each of its rows. -/
theorem Table.ofNames_narrow (names : List String) :
    (Table.ofNames names).columns.length = 1 ∧
      ∀ row ∈ (Table.ofNames names).rows, row.length = 1 := by
  -- A row is made of one name.
  refine ⟨rfl, fun row among => ?_⟩
  obtain ⟨name, -, rfl⟩ := List.mem_map.mp among
  rfl

/-- Every request is answered in the shape that its route and the first failure call for. -/
theorem answer_shaped (request : Request) (store : Store) :
    request.Shaped store (request.answer store) where
  refused fault unusable := by
    -- Settings are read before the queries are looked at.
    refine ⟨Settings.exists_config_of_ofText unusable, ?_⟩
    rw [Request.answer, unusable]
    rfl
  idle settings usable empty := by
    rw [Request.answer, usable, Request.queryList, empty]
    rfl
  unknownMetric settings first query opens asks unknown := by
    -- A target without a path is neither of the two that are known.
    have unsupported : ¬ (query.target = pingMetric ∨ query.target = listMetric) := by
      rw [← query.isSome_metricPath?_iff, unknown]
      simp
    rw [opens.answer_metric store asks, settings.answerMetric_unknown query store unsupported,
      Query.refId_ofText asks.read]
    exact ⟨rfl, rfl⟩
  knownMetric settings first query points opens asks path := by
    -- The points on the way are those of the metric's session, which gives a table at its end.
    have known := query.isSome_metricPath?_iff.mp (path ▸ rfl)
    rw [opens.answer_metric store asks, settings.answerMetric_eq query store known,
      Query.findSome?_metricPath path, Query.refId_ofText asks.read, Store.pass]
    cases (Settings.sessionPath (Settings.metricPoints query.target)).findSome? store.fault? with
    | some fault => rfl
    | none => exact ⟨_, rfl, Table.ofNames_narrow _⟩
  tested settings first query opens asks := by
    rw [opens.answer_test store asks, settings.answerTest_eq, Query.refId_ofText asks.read,
      Store.pass]
    cases [FailPoint.connect, .ping, .disconnect].findSome? store.fault? <;> rfl
  batch settings first opens other := by
    rw [opens.answer_series store other, settings.answerSeries_pass, Store.pass]
    cases [FailPoint.connect, .ping, .disconnect].findSome? store.fault? with
    | some fault => rfl
    | none =>
      -- Each result is that of its query, and so carries the reference of its query.
      refine ⟨request.map_queryList settings store, ?_⟩
      rw [request.map_queryList settings store, List.map_map]
      exact List.map_congr_left fun query _ =>
        QueryModel.refId_result settings request.range store query

/--
On a store that neither lists nor disconnects, a metric and a connection test report the first
failure on their way under their own references, and a batch does so under the fallback reference.
-/
theorem answer_shaped_failing :
    let list := QueryModel.describing "L"
      (.object [("queryType", .string "metricsQuery"), ("target", .string listMetric)])
    let test := QueryModel.describing "T" (.object [("queryType", .string "testConnection")])
    let readings := QueryModel.describing "R"
      (.object [("target", .string "db.readings.aggregate([])")])
    let store := (readingsStore.fail .disconnect "stuck").fail .listCollections "hidden"
    ((Request.ofQueries [list, test]).answer store).1.results =
        [⟨"L", .error "Execution error: hidden"⟩] ∧
      ((Request.ofQueries [test, list]).answer store).1.results =
        [⟨"T", .error "Connection error: stuck"⟩] ∧
      ((Request.ofQueries [readings, list]).answer store).1.results =
        [⟨fallbackRefId, .error "Connection error: stuck"⟩] := by
  intro list test readings store
  have listing : list.Asks (.ofTextOrRejected list.refId list.model list.samples) .metrics :=
    ⟨Query.ofText_of_rejected_eq_none (by decide +kernel), by decide +kernel⟩
  have testing : test.Asks (.ofTextOrRejected test.refId test.model test.samples)
      .testConnection :=
    ⟨Query.ofText_of_rejected_eq_none (by decide +kernel), by decide +kernel⟩
  have routed : ∀ query type, readings.Asks query type → type = .timeSeries := by
    intro query type asks
    rw [← asks.type_eq, ← Query.ofTextOrRejected_of_ok asks.read]
    decide +kernel
  -- Listing comes before disconnecting, so its failure is the one that the metric reports.
  have listed := (answer_shaped (.ofQueries [list, test]) store).knownMetric .default list _
    [.connect, .ping, .listCollections, .disconnect] ⟨rfl, rfl⟩ listing (by decide +kernel)
  have tested := (answer_shaped (.ofQueries [test, list]) store).tested .default test _
    ⟨rfl, rfl⟩ testing
  have batched := (answer_shaped (.ofQueries [readings, list]) store).batch .default readings
    ⟨rfl, rfl⟩ fun query => ⟨fun asks => absurd (routed query _ asks) (by decide),
      fun asks => absurd (routed query _ asks) (by decide)⟩
  exact ⟨listed, tested, batched⟩

end DocSource
