import DocSource.Proofs.Host.Release

/-! What calls leave in a store: their aggregations in the log, and nothing that a call would see. -/

namespace DocSource

/-- A session adds to the log what it sent, if the store was reached and answered. -/
theorem Store.issued_visited (store : Store) (sent : List Aggregation) :
    (store.visited sent).issued = store.issued ++
      if store.failure? .connect = none ∧ store.failure? .ping = none then sent else [] := by
  -- Nothing is sent on a connection that does not open or does not answer.
  unfold visited fault?
  cases refused : store.failure? .connect with
  | some message => simp
  | none => cases silent : store.failure? .ping <;> simp [log]

/--
A batch adds to the log one aggregation for each query that compiles and may be aggregated, in the
order of the queries, when it asks for series and the store is reached and answers; any other batch
adds nothing. How the results are decoded and how the connection closes makes no difference.
-/
theorem answer_issued (settings : Settings) (range : TimeRange) (queries : List Query)
    (store : Store) :
    (settings.answer range queries store).2.issued = store.issued ++
      if queries.head?.map (·.queryType) = some .timeSeries ∧
          store.failure? .connect = none ∧ store.failure? .ping = none then
        queries.flatMap (Query.sent settings range store)
      else [] := by
  rw [settings.answer_store, Settings.sent]
  by_cases routed : queries.head?.map (·.queryType) = some .timeSeries
  · -- A batch of series comes to connect, as it has a first query that is no metric.
    have connects : HostCall.batchConnects queries = true := by
      cases queries with
      | nil => cases routed
      | cons first rest =>
        have type : first.queryType = .timeSeries := Option.some.inj routed
        simp [HostCall.batchConnects, type]
    rw [if_pos connects, if_pos routed, Store.issued_visited]
    simp only [routed, true_and]
  · -- Any other batch sends nothing, whether it comes to connect or not.
    have none : ¬ (queries.head?.map (·.queryType) = some .timeSeries ∧
        store.failure? .connect = none ∧ store.failure? .ping = none) := fun all => routed all.1
    rw [if_neg routed, if_neg none, List.append_nil]
    split
    · rw [Store.issued_visited, ite_self, List.append_nil]
    · rfl

/-- Two stores hold the same documents, and the same points are scripted to fail in them. -/
structure Store.SameContents (store other : Store) : Prop where
  databases_eq : store.databases = other.databases
  failures_eq : store.failures = other.failures

namespace Store.SameContents

variable {store other : Store} (same : store.SameContents other)
include same

/-- A point fails in one store as it does in the other. -/
theorem failure?_eq : store.failure? = other.failure? := by
  -- Failures are looked up in the script, which both stores share.
  funext point
  rw [failure?, failure?, same.failures_eq]

/-- A database has the same collections in both stores. -/
theorem collections_eq : store.collections = other.collections := by
  -- Collections are looked up in the databases, which both stores share.
  funext database
  rw [collections, collections, same.databases_eq]

/-- A collection has the same documents in both stores. -/
theorem documents_eq : store.documents = other.documents := by
  -- Documents are looked up in the collections of a database.
  funext database collection
  rw [documents, documents, same.collections_eq]

/-- Points are passed in one store as they are in the other. -/
theorem pass_eq {α : Type} (points : List FailPoint) (value : α) :
    store.pass points value = other.pass points value := by
  -- The first fault on the way is the same, as every point fails alike.
  have faults : store.fault? = other.fault? := by
    funext point
    rw [fault?, fault?, same.failure?_eq]
  rw [pass, pass, faults]

/-- A query gives the same result from both stores. -/
theorem result_eq (settings : Settings) (range : TimeRange) :
    Query.result settings range store = Query.result settings range other := by
  -- A query looks at the failure and the documents of its collection alone.
  funext query
  simp only [Query.result, Query.outcome, same.failure?_eq, same.documents_eq]

/-- A metric tabulates the same names from both stores. -/
theorem metricNames_eq (settings : Settings) (target : String) :
    settings.metricNames target store = settings.metricNames target other := by
  -- The names are those of the collections, in order.
  rw [Settings.metricNames, Settings.metricNames, same.collections_eq]

/-- A batch is answered alike from both stores. -/
theorem answer_eq (settings : Settings) (range : TimeRange) (queries : List Query) :
    (settings.answer range queries store).1 = (settings.answer range queries other).1 := by
  cases queries with
  | nil => rfl
  | cons first rest =>
    -- Each route answers by what it passes and reads, and both are the same.
    simp only [Settings.answer]
    cases first.queryType with
    | timeSeries =>
      simp only [Settings.answerSeries_pass, same.result_eq, same.pass_eq]
    | testConnection =>
      simp only [Settings.answerTest_eq, same.pass_eq]
    | metrics =>
      by_cases known : first.target = pingMetric ∨ first.target = listMetric
      · simp only [Settings.answerMetric_eq settings first _ known, same.metricNames_eq,
          same.pass_eq]
      · simp only [Settings.answerMetric_unknown settings first _ known]

/-- A connection test has the same outcome in both stores. -/
theorem testConnection_eq (settings : Settings) :
    (settings.testConnection store).1 = (settings.testConnection other).1 := by
  -- The outcome depends on the points that are passed, and on nothing that was counted.
  simp only [Settings.testConnection, Settings.checkConnection_eq, same.pass_eq]
  cases other.pass [.connect, .ping, .disconnect] () <;> rfl

end Store.SameContents

namespace HostCall

/-- What a call is answered with: a response, or the outcome of a connection test. -/
def reply : HostCall → Store → Response ⊕ ConnectionStatus
  | query request, store => .inl (request.answer store).1
  | test source, store => .inr (source.testConnection store).1

/-- The store after calls in their order. -/
def runAll (calls : List HostCall) (store : Store) : Store :=
  calls.foldl (fun store call => call.run store) store

/-- A call is answered alike from stores with the same contents. -/
theorem reply_congr {store other : Store} (same : store.SameContents other) (call : HostCall) :
    call.reply store = call.reply other := by
  -- Settings are read without the store, and answers look at its contents alone.
  cases call with
  | query request =>
    simp only [reply, Request.answer]
    cases Settings.ofText request.source.settings with
    | error fault => rfl
    | ok settings => exact congrArg Sum.inl (same.answer_eq settings _ _)
  | test source =>
    simp only [reply, SourceInfo.testConnection]
    cases Settings.ofText source.settings with
    | error fault => rfl
    | ok settings => exact congrArg Sum.inr (same.testConnection_eq settings)

/-- A call leaves the contents of the store as they are. -/
theorem sameContents_run (call : HostCall) (store : Store) :
    (call.run store).SameContents store := by
  obtain ⟨sent, left⟩ := call.run_eq store
  rw [left]
  split
  · -- A session counts and logs, and does no more.
    unfold Store.visited
    split <;> exact ⟨rfl, rfl⟩
  · exact ⟨rfl, rfl⟩

/-- Calls leave the contents of the store as they are. -/
theorem sameContents_runAll (calls : List HostCall) (store : Store) :
    (runAll calls store).SameContents store := by
  -- Each call meets what the calls before it left.
  induction calls generalizing store with
  | nil => exact ⟨rfl, rfl⟩
  | cons call rest ih =>
    have first := call.sameContents_run store
    have others := ih (call.run store)
    exact ⟨others.databases_eq.trans first.databases_eq,
      others.failures_eq.trans first.failures_eq⟩

end HostCall

/--
Nothing is kept between calls: after any calls, every call is answered as it would have been without
them, the documents and the failure script are those from before, and so the order of two calls
makes no difference to what either is answered with.
-/
theorem reply_runAll (calls : List HostCall) (store : Store) :
    (∀ call : HostCall, call.reply (HostCall.runAll calls store) = call.reply store) ∧
      (HostCall.runAll calls store).databases = store.databases ∧
      (HostCall.runAll calls store).failures = store.failures ∧
      ∀ first second : HostCall,
        (first.reply store, second.reply (first.run store)) =
          (first.reply (second.run store), second.reply store) := by
  -- No call changes the contents, and replies depend on nothing else.
  have same := HostCall.sameContents_runAll calls store
  refine ⟨fun call => call.reply_congr same, same.databases_eq, same.failures_eq, ?_⟩
  intro first second
  rw [second.reply_congr (first.sameContents_run store),
    first.reply_congr (second.sameContents_run store)]

end DocSource
