import DocSource.Host.Service

/-! Sessions: a client connects, is answered, works and disconnects, and any of that may fail. -/

namespace DocSource

/-- The error of a point that fails with a message. -/
def FailPoint.fault (point : FailPoint) (message : String) : Error :=
  -- Where the store was reached, it failed at its work; elsewhere the connection failed.
  match point with
  | .listCollections | .aggregate _ => .execution message
  | _ => .connection message

namespace Store

/-- The error that a point is scripted to fail with. -/
def fault? (store : Store) (point : FailPoint) : Option Error :=
  (store.failure? point).map point.fault

/-- What comes of passing points in their order: the error of the first that fails, or a value. -/
def pass {α : Type} (store : Store) (points : List FailPoint) (value : α) : Except Error α :=
  -- Points behind the first failing one are not reached.
  match points.findSome? store.fault? with
  | some fault => .error fault
  | none => .ok value

/-- Points are passed one after the other. -/
theorem pass_cons {α : Type} (store : Store) (point : FailPoint) (points : List FailPoint)
    (value : α) :
    store.pass (point :: points) value =
      match store.fault? point with
      | some fault => .error fault
      | none => store.pass points value := by
  -- The first point that fails is looked for from the front.
  cases failing : store.fault? point <;> simp [pass, failing]

/-- With no points to pass there is the value. -/
@[simp]
theorem pass_nil {α : Type} (store : Store) (value : α) : store.pass [] value = .ok value := rfl

/-- Passing points and then others is passing all of them. -/
theorem pass_bind {α β : Type} (store : Store) (points others : List FailPoint) (value : α)
    (next : α → β) :
    (store.pass points value >>= fun value => store.pass others (next value)) =
      store.pass (points ++ others) (next value) := by
  -- A first point that fails ends both sides alike.
  induction points with
  | nil => rfl
  | cons point rest ih =>
    rw [List.cons_append, pass_cons, pass_cons, ← ih]
    cases store.fault? point <;> rfl

/-- A function of the value is applied where the points are passed. -/
theorem map_pass {α β : Type} (store : Store) (points : List FailPoint) (value : α)
    (next : α → β) : (store.pass points value).map next = store.pass points (next value) := by
  -- Which point fails does not depend on the value.
  unfold pass
  cases points.findSome? store.fault? <;> rfl

/-- The store after a session: a connect that did not fail is counted, and what came is logged. -/
def visited (store : Store) (sent : List Aggregation) : Store :=
  match store.fault? .connect, store.fault? .ping with
  | some _, _ => store
  -- Without an answer nothing is sent.
  | none, some _ => { store with connects := store.connects + 1 }
  | none, none => { store.log sent with connects := store.connects + 1 }

end Store

namespace Connection

/-- A connection in use. -/
def inUse (uri database : String) : Connection := ⟨⟨uri, true⟩, database, true⟩

/-- A connection is in use once its points are passed; otherwise nothing stays open. -/
theorem open_eq (uri database : String) (store : Store) (sent : List Aggregation) :
    Connection.open uri database store =
      match store.pass [.connect, .ping] (inUse uri database) with
      | .ok connection => (.ok connection, store.addConnection)
      | .error fault => (.error fault, store.visited sent) := by
  cases refused : store.failure? .connect with
  | some message =>
    simp [Connection.open, Store.connect, Store.pass_cons, Store.fault?, Store.visited, refused,
      FailPoint.fault]
  | none =>
    -- Counting the connection does not touch what is scripted to fail.
    have kept : store.addConnection.failure? .ping = store.failure? .ping := rfl
    have counted := store.removeConnection_log_addConnection []
    simp only [Store.log, List.append_nil] at counted
    cases silent : store.failure? .ping with
    | some message =>
      simp [Connection.open, Store.connect, Store.pass_cons, Store.fault?, Store.visited,
        refused, silent, kept, Connection.ping, Handle.ping, Connection.drop, Handle.disconnect,
        FailPoint.fault, counted]
    | none =>
      simp [Connection.open, Store.connect, Store.pass_cons, Store.fault?, refused, silent, kept,
        Connection.ping, Handle.ping, inUse]

variable {store : Store} (uri database : String) (sent : List Aggregation)
  (connects : store.failure? .connect = none) (answers : store.failure? .ping = none)
include connects answers

/-- A connection is released after its work, and the outcome of that is reported. -/
theorem release_inUse :
    (inUse uri database).release (store.addConnection.log sent) =
      (store.pass [.disconnect] (), store.visited sent) := by
  -- The spent connection is dropped without releasing it again.
  have kept : (store.addConnection.log sent).failure? .disconnect = store.failure? .disconnect :=
    rfl
  cases failing : store.failure? .disconnect <;>
    simp [release, inUse, Handle.disconnect, drop, kept, failing, Store.pass_cons, Store.fault?,
      FailPoint.fault, store.removeConnection_log_addConnection, Store.visited, connects, answers]

/-- A connection that is dropped after its work is released as well. -/
theorem drop_inUse :
    (inUse uri database).drop (store.addConnection.log sent) = store.visited sent := by
  -- A scripted failure to disconnect is not reported here, and the connection counts no more.
  simp [inUse, drop, Handle.disconnect, store.removeConnection_log_addConnection, Store.visited,
    Store.fault?, connects, answers]

end Connection

namespace Settings

/-- A session: a connection is opened, worked with, and released or, after an error, dropped. -/
def session {α : Type} (settings : Settings)
    (work : Connection → Store → Except Error α × Store) (store : Store) :
    Except Error α × Store :=
  -- Only a value is worth a release that can fail, and an error of the work goes first.
  match settings.connect store with
  | (.error error, store) => (.error error, store)
  | (.ok connection, store) =>
    match work connection store with
    | (.error error, store) => (.error error, connection.drop store)
    | (.ok value, store) =>
      let (outcome, store) := connection.release store
      (outcome.map fun () => value, store)

/--
A session gives the outcome of its work, unless one of its points fails before or after it, and it
leaves no more behind than a connect and a log.
-/
theorem session_eq {α : Type} (settings : Settings) (store : Store)
    {work : Connection → Store → Except Error α × Store} {outcome : Except Error α}
    {sent : List Aggregation}
    (worked : work (.inUse settings.uri settings.database) store.addConnection =
      (outcome, store.addConnection.log sent)) :
    settings.session work store =
      (store.pass [.connect, .ping] () >>= fun () => outcome >>= store.pass [.disconnect],
        store.visited sent) := by
  unfold session connect
  rw [Connection.open_eq settings.uri settings.database store sent]
  cases refused : store.failure? .connect with
  | some message => simp [Store.pass_cons, Store.fault?, refused, bind, Except.bind]
  | none =>
    cases silent : store.failure? .ping with
    | some message => simp [Store.pass_cons, Store.fault?, refused, silent, bind, Except.bind]
    | none =>
      -- The work is done, and its outcome says how the connection goes out of use.
      simp only [Store.pass_cons, Store.fault?, refused, silent, Option.map_none, Store.pass_nil,
        worked, bind, Except.bind]
      cases outcome with
      | error fault => simp [Connection.drop_inUse _ _ sent refused silent]
      | ok value =>
        cases failing : store.failure? .disconnect <;>
          simp [Connection.release_inUse _ _ sent refused silent, Store.pass_cons, Store.fault?,
            failing, Except.map]

/-- The points of a session, with those that its work passes between its own. -/
def sessionPath (points : List FailPoint) : List FailPoint :=
  [.connect, .ping] ++ (points ++ [.disconnect])

/-- A session whose work is to pass points passes them between its own. -/
theorem session_eq_pass {α : Type} (settings : Settings) (store : Store)
    {work : Connection → Store → Except Error α × Store} {points : List FailPoint} {value : α}
    {sent : List Aggregation}
    (worked : work (.inUse settings.uri settings.database) store.addConnection =
      (store.pass points value, store.addConnection.log sent)) :
    settings.session work store =
      (store.pass (sessionPath points) value, store.visited sent) := by
  -- The points of the work join those of the session, as each stops the ones behind it.
  have inner : (store.pass points value >>= store.pass [.disconnect]) =
      store.pass (points ++ [.disconnect]) value := store.pass_bind points [.disconnect] value id
  have whole := store.pass_bind [.connect, .ping] (points ++ [.disconnect]) () fun _ => value
  rw [settings.session_eq store worked, inner, whole]
  rfl

/-- The work of a connection test: there is none. -/
def idleWork (_ : Connection) (store : Store) : Except Error Unit × Store := (.ok (), store)

/-- A connection test passes the points of an idle session. -/
theorem checkConnection_eq (settings : Settings) (store : Store) :
    settings.checkConnection store =
      (store.pass [.connect, .ping, .disconnect] (), store.visited []) := by
  -- The connection is released as soon as it is open.
  have idle : settings.checkConnection store = settings.session idleWork store := by
    unfold checkConnection session idleWork
    rcases settings.connect store with ⟨fault | connection, joined⟩
    · rfl
    · rcases released : connection.release joined with ⟨fault | done, left⟩ <;>
        simp [released, Except.map]
  have worked : idleWork (.inUse settings.uri settings.database) store.addConnection =
      (store.pass [] (), store.addConnection.log []) := by
    rw [idleWork, Store.pass_nil, Store.log_nil]
  rw [idle]
  exact settings.session_eq_pass store worked

/-- A test is answered by an empty list of series, unless a point of its session fails. -/
theorem answerTest_eq (settings : Settings) (query : Query) (store : Store) :
    settings.answerTest query store =
      (⟨[match store.pass [.connect, .ping, .disconnect] () with
        | .ok () => ⟨query.refId, .series []⟩
        | .error fault => .ofError query.refId fault]⟩, store.visited []) := by
  -- Success shows as an empty list of series, and failure as its message.
  unfold answerTest testConnection
  rw [checkConnection_eq]
  cases store.pass [.connect, .ping, .disconnect] () <;> rfl

/-- The points that a metric passes between those of its session. -/
def metricPoints (target : String) : List FailPoint :=
  if target = pingMetric then [.ping] else [.listCollections]

/-- The names that a metric tabulates. -/
def metricNames (settings : Settings) (target : String) (store : Store) : List String :=
  if target = pingMetric then []
  else ((store.collections settings.database).map (·.1)).mergeSort

/-- The table of a metric on a connection in use. -/
theorem metricTable_eq (settings : Settings) (target : String) (store : Store) :
    metricTable target (.inUse settings.uri settings.database) store =
      store.pass (metricPoints target) (.ofNames (settings.metricNames target store)) := by
  -- Each metric asks for one thing, which fails by its own point.
  unfold metricTable metricPoints metricNames
  split
  · cases silent : store.failure? .ping <;>
      simp [Connection.ping, Connection.inUse, Handle.ping, silent, Store.pass_cons, Store.fault?,
        FailPoint.fault, Except.map]
  · cases hidden : store.failure? .listCollections <;>
      simp [Connection.listCollections, Connection.inUse, Handle.listCollections, hidden,
        Store.pass_cons, Store.fault?, FailPoint.fault, Except.map]

/-- The work of a metric on a connection: its table makes the result. -/
def metricWork (query : Query) (connection : Connection) (store : Store) :
    Except Error Result × Store :=
  ((metricTable query.target connection store).map (⟨query.refId, .table ·⟩), store)

/-- A known metric is run by a session. -/
theorem runMetric_eq_session (settings : Settings) (query : Query) (store : Store)
    (known : query.target = pingMetric ∨ query.target = listMetric) :
    settings.runMetric query store = settings.session (metricWork query) store := by
  have supported : ¬ (query.target ≠ pingMetric && query.target ≠ listMetric) := by
    rcases known with known | known <;> simp [known]
  -- Both connect first, and go on alike from each outcome.
  unfold runMetric session metricWork
  simp only [if_neg supported]
  rcases settings.connect store with ⟨fault | connection, joined⟩
  · rfl
  · cases made : metricTable query.target connection joined with
    | error fault => simp [made, Except.map]
    | ok table =>
      rcases released : connection.release joined with ⟨fault | done, left⟩ <;>
        simp [made, released, Except.map]

/-- A known metric gives its table, unless a point of its session fails. -/
theorem runMetric_eq (settings : Settings) (query : Query) (store : Store)
    (known : query.target = pingMetric ∨ query.target = listMetric) :
    settings.runMetric query store =
      (store.pass (sessionPath (metricPoints query.target))
        ⟨query.refId, .table (.ofNames (settings.metricNames query.target store))⟩,
        store.visited []) := by
  have worked : metricWork query (.inUse settings.uri settings.database) store.addConnection =
      (store.pass (metricPoints query.target)
        ⟨query.refId, .table (.ofNames (settings.metricNames query.target store))⟩,
        store.addConnection.log []) := by
    -- The table reads neither the counts nor the log.
    rw [metricWork, metricTable_eq, Store.map_pass, Store.log_nil]
    rfl
  rw [runMetric_eq_session settings query store known]
  exact settings.session_eq_pass store worked

/-- A known metric is answered by its table, unless a point of its session fails. -/
theorem answerMetric_eq (settings : Settings) (query : Query) (store : Store)
    (known : query.target = pingMetric ∨ query.target = listMetric) :
    settings.answerMetric query store =
      (⟨[match store.pass (sessionPath (metricPoints query.target))
          (Table.ofNames (settings.metricNames query.target store)) with
        | .ok table => ⟨query.refId, .table table⟩
        | .error fault => .ofError query.refId fault]⟩, store.visited []) := by
  -- The table is put under the reference of the query once all points are passed.
  have result := store.map_pass (sessionPath (metricPoints query.target))
    (Table.ofNames (settings.metricNames query.target store))
    fun table => Result.mk query.refId (.table table)
  rw [answerMetric, runMetric_eq settings query store known, ← result]
  cases store.pass (sessionPath (metricPoints query.target))
    (Table.ofNames (settings.metricNames query.target store)) <;> rfl

/-- An unknown metric is answered by an error, and the store does not come to know of it. -/
theorem answerMetric_unknown (settings : Settings) (query : Query) (store : Store)
    (unknown : ¬ (query.target = pingMetric ∨ query.target = listMetric)) :
    settings.answerMetric query store =
      (⟨[.ofError query.refId
        (.unsupportedOperation ("Unsupported Metric: " ++ query.target))]⟩, store) := by
  -- The target is judged before anything is asked of the store.
  have unsupported : query.target ≠ pingMetric && query.target ≠ listMetric := by
    simpa [not_or] using unknown
  unfold answerMetric runMetric
  simp only [if_pos unsupported]
  rfl

end Settings

end DocSource
