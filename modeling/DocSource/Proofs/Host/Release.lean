import DocSource.Proofs.Host.Batch

/-! Every call of a host releases what it opened, whatever is scripted to fail. -/

namespace DocSource

/-- What is open in a store is what was open in another, and no release was one too many. -/
structure Store.SameOpen (before after : Store) : Prop where
  openConnections_eq : after.openConnections = before.openConnections
  openCursors_eq : after.openCursors = before.openCursors
  underflows_eq : after.underflows = before.underflows

/-- What stays open twice stays open throughout. -/
theorem Store.SameOpen.trans {first second third : Store} (early : first.SameOpen second)
    (late : second.SameOpen third) : first.SameOpen third :=
  -- Equality of each count is transitive.
  ⟨late.openConnections_eq.trans early.openConnections_eq,
    late.openCursors_eq.trans early.openCursors_eq,
    late.underflows_eq.trans early.underflows_eq⟩

/-- A session leaves open what was open before it. -/
theorem Store.sameOpen_visited (store : Store) (sent : List Aggregation) :
    store.SameOpen (store.visited sent) := by
  -- A connect that fails counts nothing, and any other is taken back but for the connects.
  unfold Store.visited
  split <;> exact ⟨rfl, rfl, rfl⟩

/-- A session counts one connect, unless that is scripted to fail. -/
theorem Store.connects_visited (store : Store) (sent : List Aggregation) :
    (store.visited sent).connects =
      store.connects + if (store.failure? .connect).isNone then 1 else 0 := by
  -- What happens after the connect does not change that it is counted.
  unfold Store.visited Store.fault?
  cases store.failure? .connect <;> cases store.failure? .ping <;> rfl

/-- What a host asks of a data source: the answer to a request, or a test of the connection. -/
inductive HostCall
  | query (request : Request)
  | test (source : SourceInfo)

namespace HostCall

/-- The store after a call. -/
def run : HostCall → Store → Store
  | query request, store => (request.answer store).2
  | test source, store => (source.testConnection store).2

/-- A batch comes to connect: it holds queries, and the first asks for no unknown metric. -/
def batchConnects : List Query → Bool
  | [] => false
  | first :: _ =>
    first.queryType ≠ .metrics || first.target = pingMetric || first.target = listMetric

/-- A call comes to connect: its settings are usable, and so does the batch that it brings. -/
def comesToConnect : HostCall → Bool
  | query request =>
    (Settings.ofText request.source.settings).isOk && batchConnects request.queryList
  | test source => (Settings.ofText source.settings).isOk

end HostCall

/-- The aggregations that a batch puts to the store; only a batch of series puts any. -/
def Settings.sent (settings : Settings) (range : TimeRange) (store : Store)
    (queries : List Query) : List Aggregation :=
  if queries.head?.map (·.queryType) = some .timeSeries then
    queries.flatMap (Query.sent settings range store)
  else []

/-- A batch is a session when it comes to connect, and otherwise leaves the store alone. -/
theorem Settings.answer_store (settings : Settings) (range : TimeRange) (queries : List Query)
    (store : Store) :
    (settings.answer range queries store).2 =
      if HostCall.batchConnects queries then store.visited (settings.sent range store queries)
      else store := by
  cases queries with
  | nil => rfl
  | cons first rest =>
    cases routed : first.queryType with
    | timeSeries => simp [answer, routed, answerSeries_pass, HostCall.batchConnects, sent]
    | testConnection => simp [answer, routed, answerTest_eq, HostCall.batchConnects, sent]
    | metrics =>
      -- Only a metric looks at its target before it connects.
      by_cases known : first.target = pingMetric ∨ first.target = listMetric
      · simp [answer, routed, answerMetric_eq settings first store known,
          HostCall.batchConnects, known, sent]
      · simp [answer, routed, answerMetric_unknown settings first store known,
          HostCall.batchConnects, known]

/-- A connection test is a session without work. -/
theorem Settings.testConnection_store (settings : Settings) (store : Store) :
    (settings.testConnection store).2 = store.visited [] := by
  -- Whether a point fails changes the outcome and not what is left.
  unfold testConnection
  rw [checkConnection_eq]
  cases store.pass [.connect, .ping, .disconnect] () <;> rfl

/-- A call is a session when it comes to connect, and otherwise leaves the store alone. -/
theorem HostCall.run_eq (call : HostCall) (store : Store) :
    ∃ sent, call.run store = if call.comesToConnect then store.visited sent else store := by
  cases call with
  | query request =>
    cases usable : Settings.ofText request.source.settings with
    | error fault =>
      -- Unusable settings are reported before anything is opened.
      exact ⟨[], by simp [run, comesToConnect, Request.answer, usable, Except.isOk, Except.toBool]⟩
    | ok settings =>
      refine ⟨settings.sent request.range store request.queryList, ?_⟩
      simp [run, comesToConnect, Request.answer, usable, Except.isOk, Except.toBool,
        Settings.answer_store]
  | test source =>
    refine ⟨[], ?_⟩
    cases usable : Settings.ofText source.settings <;>
      simp [run, comesToConnect, SourceInfo.testConnection, usable, Except.isOk, Except.toBool,
        Settings.testConnection_store]

/-- A change of what is scripted to fail. -/
inductive Scripting
  | fail (point : FailPoint) (message : String)
  | clear

/-- The store after a change of what is scripted to fail. -/
def Scripting.apply : Scripting → Store → Store
  | fail point message, store => store.fail point message
  | clear, store => store.clearFailures

/-- A call of a host, and what is scripted to fail before it. -/
structure Visit where
  script : List Scripting
  call : HostCall

namespace Visit

/-- The store as the call of a visit finds it. -/
def prepare (visit : Visit) (store : Store) : Store :=
  visit.script.foldl (fun store change => change.apply store) store

/-- The store after visits in their order. -/
def runAll (visits : List Visit) (store : Store) : Store :=
  visits.foldl (fun store visit => visit.call.run (visit.prepare store)) store

/-- Scripting failures opens and releases nothing. -/
theorem sameOpen_prepare (visit : Visit) (store : Store) :
    store.SameOpen (visit.prepare store) := by
  -- Each change is to the list of failures alone.
  unfold prepare
  induction visit.script generalizing store with
  | nil => exact ⟨rfl, rfl, rfl⟩
  | cons change rest ih =>
    have once : store.SameOpen (change.apply store) := by cases change <;> exact ⟨rfl, rfl, rfl⟩
    exact once.trans (ih (change.apply store))

end Visit

/-- A call leaves open what was open before it. -/
theorem HostCall.sameOpen_run (call : HostCall) (store : Store) :
    store.SameOpen (call.run store) := by
  -- Either there was a session, or nothing was touched.
  obtain ⟨sent, left⟩ := call.run_eq store
  rw [left]
  split
  · exact store.sameOpen_visited sent
  · exact ⟨rfl, rfl, rfl⟩

/-- A call counts one connect if it comes to connect and that is not scripted to fail. -/
theorem HostCall.connects_run (call : HostCall) (store : Store) :
    (call.run store).connects = store.connects +
      if call.comesToConnect && (store.failure? .connect).isNone then 1 else 0 := by
  -- A call that does not come to connect leaves the store as it is.
  obtain ⟨sent, left⟩ := call.run_eq store
  rw [left]
  cases call.comesToConnect with
  | true => simpa using store.connects_visited sent
  | false => rfl

/-- Visits leave open what was open before them. -/
theorem Visit.sameOpen_runAll (visits : List Visit) (store : Store) :
    store.SameOpen (Visit.runAll visits store) := by
  -- Each visit meets what the visits before it left.
  induction visits generalizing store with
  | nil => exact ⟨rfl, rfl, rfl⟩
  | cons visit rest ih =>
    have first := (visit.sameOpen_prepare store).trans
      (visit.call.sameOpen_run (visit.prepare store))
    exact first.trans (ih (visit.call.run (visit.prepare store)))

/--
However failures are scripted between the calls of a host, each call releases exactly what it opened
and counts one connect exactly when it comes to connect and may.
-/
theorem runAll_releases (visits : List Visit) (store : Store) :
    (∀ index visit, visits[index]? = some visit →
      let before := visit.prepare (Visit.runAll (visits.take index) store)
      let after := Visit.runAll (visits.take (index + 1)) store
      before.SameOpen after ∧
        after.connects = before.connects +
          if visit.call.comesToConnect && (before.failure? .connect).isNone then 1 else 0) ∧
      store.SameOpen (Visit.runAll visits store) := by
  refine ⟨fun index visit found => ?_, Visit.sameOpen_runAll visits store⟩
  -- One visit more is the call of that visit.
  have step : Visit.runAll (visits.take (index + 1)) store =
      visit.call.run (visit.prepare (Visit.runAll (visits.take index) store)) := by
    simp [Visit.runAll, List.take_add_one, found, List.foldl_append]
  simp only [step]
  exact ⟨visit.call.sameOpen_run _, visit.call.connects_run _⟩

/-- A store that does not answer a test is left as it was, but for the connect that it counts. -/
example : Visit.runAll [⟨[.fail .ping "silent"], .test ⟨0, "", ""⟩⟩] .empty =
    { Store.empty.fail .ping "silent" with connects := 1 } := rfl

end DocSource
