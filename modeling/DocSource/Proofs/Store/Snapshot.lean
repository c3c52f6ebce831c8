import DocSource.Proofs.Host.Trace
import DocSource.Proofs.Store.Client
import DocSource.Proofs.Store.Collections

/-!
Contents of a store: each collection holds what was put there last, a cursor gives what was there
when it was opened, and the names that are listed are those that were put there.
-/

namespace DocSource

/-- The documents that an operation puts in a collection. -/
def Operation.inserted? (database collection : String) : Operation → Option (List Document)
  -- An insert to another collection, or to one of this name elsewhere, puts nothing here.
  | .insert otherDatabase otherCollection documents =>
    if database = otherDatabase ∧ collection = otherCollection then some documents else none
  | _ => none

/-- The documents that operations put last in a collection, none without any such operation. -/
def latest (database collection : String) (operations : List Operation) : List Document :=
  ((operations.filterMap (Operation.inserted? database collection)).getLast?).getD []

/-- What was put last is what one more operation puts, if it does, and otherwise as before. -/
theorem latest_append_singleton (database collection : String) (operations : List Operation)
    (operation : Operation) :
    latest database collection (operations ++ [operation]) =
      (operation.inserted? database collection).getD (latest database collection operations) := by
  -- The operation stands last, so what it puts is last, and without any the list is as before.
  cases puts : operation.inserted? database collection <;> simp [latest, puts]

/-- A store holds what operations put there. -/
structure Stored (operations : List Operation) (store : Store) : Prop where
  /-- An insert takes the place of any before it. -/
  documents_eq : ∀ database collection,
    store.documents database collection = latest database collection operations
  /-- Names stand in increasing order, so none is doubled. -/
  ordered : ∀ database, (store.names database).Pairwise (· < ·)
  /-- A collection has a name once anything was inserted, even no documents. -/
  mem_names : ∀ database name,
    name ∈ store.names database ↔ ∃ documents, .insert database name documents ∈ operations

namespace Stored

/-- Nothing is stored at first. -/
theorem empty : Stored [] .empty where
  -- A new store has no database to hold anything.
  documents_eq _ _ := rfl
  ordered _ := List.Pairwise.nil
  mem_names _ _ := by simp [Store.names, Store.collections, Store.empty]

variable {operations : List Operation} {store : Store} (stored : Stored operations store)
include stored

/-- A store with the same databases holds the same. -/
theorem congr {other : Store} (same : other.databases = store.databases) :
    Stored operations other := by
  -- Documents and names are read off the databases alone.
  have collections : other.collections = store.collections := by
    funext database
    rw [Store.collections, Store.collections, same]
  refine ⟨fun database collection => ?_, fun database => ?_, fun database name => ?_⟩
  · rw [← stored.documents_eq, Store.documents, Store.documents, collections]
  · rw [Store.names, collections]
    exact stored.ordered database
  · rw [Store.names, collections, ← Store.names, stored.mem_names]

/-- What is put in a collection is what it holds then. -/
theorem insert (database collection : String) (documents : List Document) :
    Stored (operations ++ [.insert database collection documents])
      (store.insert database collection documents) where
  -- The documents are those of the last put, and the names are those of all puts.
  documents_eq otherDatabase otherCollection := by
    rw [Store.documents_insert, latest_append_singleton, Operation.inserted?, stored.documents_eq]
    split <;> rfl
  ordered other := Store.pairwise_names_insert (stored.ordered other)
  mem_names other name := by
    rw [Store.mem_names_insert, stored.mem_names]
    simp only [List.mem_append, List.mem_singleton, Operation.insert.injEq, exists_or]
    constructor
    · -- The name is that of this put, or of an earlier one.
      rintro (⟨rfl, rfl⟩ | before)
      · exact .inr ⟨documents, rfl, rfl, rfl⟩
      · exact .inl before
    · -- An earlier put still counts, and the last one is this.
      rintro (before | ⟨_, rfl, rfl, rfl⟩)
      · exact .inr before
      · exact .inl ⟨rfl, rfl⟩

/-- An operation that puts nothing anywhere changes nothing that is held. -/
theorem keep {operation : Operation}
    (other : ∀ database collection documents, operation ≠ .insert database collection documents) :
    Stored (operations ++ [operation]) store := by
  -- The operation is no put for any collection, so neither the last put nor the names change.
  have nothing : ∀ database collection, operation.inserted? database collection = none := by
    intro database collection
    cases operation with
    | insert otherDatabase otherCollection documents => exact absurd rfl (other _ _ _)
    | _ => rfl
  refine ⟨fun database collection => ?_, stored.ordered, fun database name => ?_⟩
  · rw [latest_append_singleton, nothing, Option.getD_none, stored.documents_eq]
  · rw [stored.mem_names]
    refine exists_congr fun documents => ?_
    rw [List.mem_append, List.mem_singleton, or_iff_left (other _ _ _).symm]

end Stored

/-- What an operation writes to a store, besides counts and the log. -/
def Operation.write : Operation → Store → Store
  -- Opening and releasing only count, and an aggregation is only logged.
  | .insert database collection documents, store => store.insert database collection documents
  | .fail point message, store => store.fail point message
  | .clearFailures, store => store.clearFailures
  | _, store => store

/-- Releasing a connection changes nothing but counts. -/
theorem Store.sameContents_removeConnection (store : Store) :
    store.removeConnection.SameContents store := by
  -- Either branch touches counts alone.
  unfold removeConnection
  split <;> exact ⟨rfl, rfl⟩

/-- Releasing a cursor changes nothing but counts. -/
theorem Store.sameContents_removeCursor (store : Store) :
    store.removeCursor.SameContents store := by
  -- Either branch touches counts alone.
  unfold removeCursor
  split <;> exact ⟨rfl, rfl⟩

namespace Client

/-- The operations of a trace are those that were asked for. -/
theorem operations_trace (client : Client) (operations : List Operation) :
    (client.trace operations).map (·.operation) = operations := by
  -- Each event records the operation of its own step.
  induction operations generalizing client with
  | nil => rfl
  | cons operation rest ih => exact congrArg (operation :: ·) (ih _)

variable {client after : Client} {event : Event}

/-- A step leaves the contents that its operation writes. -/
theorem Stepped.sameContents (stepped : client.Stepped event after) :
    after.store.SameContents (event.operation.write client.store) := by
  cases stepped with
  | @disconnect number handle found outcome =>
    cases live : handle.connected with
    | true => exact client.store.sameContents_removeConnection
    | false => exact ⟨rfl, rfl⟩
  | @close number cursor found =>
    cases live : cursor.opened with
    | true => exact client.store.sameContents_removeCursor
    | false => exact ⟨rfl, rfl⟩
  | @noHandle operation number asked missing =>
    -- What is for a handle or a cursor writes nothing.
    cases operation <;>
      first
      | exact ⟨rfl, rfl⟩
      | cases asked
  | @noCursor operation number asked missing =>
    cases operation <;>
      first
      | exact ⟨rfl, rfl⟩
      | cases asked
  | quiet quiet =>
    obtain ⟨operation, reply⟩ := event
    cases operation <;>
      first
      | exact ⟨rfl, rfl⟩
      | cases quiet
  | _ => exact ⟨rfl, rfl⟩

/-- Each step keeps the store in agreement with the operations. -/
theorem Stepped.stored (stepped : client.Stepped event after) {operations : List Operation}
    (stored : Stored operations client.store) :
    Stored (operations ++ [event.operation]) after.store := by
  -- The operation alone decides what is stored, and only a put changes that.
  have same := stepped.sameContents.databases_eq
  cases shape : event.operation with
  | insert database collection documents =>
    rw [shape] at same
    exact (stored.insert database collection documents).congr same
  | _ =>
    rw [shape] at same
    exact (stored.keep (by simp)).congr same

/-- What is kept by each step, as its operation is added, holds of the operations of a run. -/
theorem operations_induction {Holds : List Operation → Client → Prop}
    (kept : ∀ operations client event after, Holds operations client →
      client.Stepped event after → Holds (operations ++ [event.operation]) after)
    (start : Holds [] fresh) (operations : List Operation) :
    Holds operations (fresh.run operations) := by
  -- The induction over events says more than is needed, as an event also has its reply.
  have step : ∀ (events : List Event) (client : Client) (event : Event) (after : Client),
      Holds (events.map (·.operation)) client → client.Stepped event after →
        Holds ((events ++ [event]).map (·.operation)) after := by
    intro events client event after holds stepped
    rw [List.map_append]
    exact kept _ _ _ _ holds stepped
  -- A run starts with no events, and its events have the operations that were asked for.
  have none : Holds (([] : List Event).map (·.operation)) fresh := start
  have whole := run_induction step operations none
  rwa [List.nil_append, operations_trace] at whole

/-- A store holds what the operations of its client put there. -/
theorem stored_run (operations : List Operation) :
    Stored operations (fresh.run operations).store := by
  -- What is stored depends on the operations alone, so the induction over them is enough.
  have kept : ∀ (operations : List Operation) (client : Client) (event : Event) (after : Client),
      Stored operations client.store → client.Stepped event after →
        Stored (operations ++ [event.operation]) after.store :=
    fun _ _ _ _ stored stepped => stepped.stored stored
  exact operations_induction kept Stored.empty operations

/-- Nothing fails in a run that scripts nothing to fail. -/
theorem failures_run {operations : List Operation}
    (unscripted : ∀ point message, .fail point message ∉ operations) :
    (fresh.run operations).store.failures = [] := by
  -- Only scripting adds a failure, and no operation of the run scripts one.
  have kept : ∀ (operations : List Operation) (client : Client) (event : Event) (after : Client),
      ((∀ point message, .fail point message ∉ operations) → client.store.failures = []) →
        client.Stepped event after →
          (∀ point message, .fail point message ∉ operations ++ [event.operation]) →
            after.store.failures = [] := by
    intro operations client event after before stepped unscripted
    simp only [List.mem_append, List.mem_singleton, not_or] at unscripted
    have none := before fun point message => (unscripted point message).1
    -- The failures after a step are those that its operation writes.
    rw [stepped.sameContents.failures_eq]
    cases shape : event.operation with
    | fail point message => exact absurd shape.symm (unscripted point message).2
    -- Clearing leaves none, whether there were any or not.
    | clearFailures => rfl
    | _ => exact none
  exact operations_induction kept (fun _ => rfl) operations unscripted

end Client

/-- An operation that reads a cursor. -/
def Operation.reads (number : Nat) : Operation → Bool
  | .next other => other = number
  | _ => false

/-- The reply to a read of a cursor. -/
def Event.read? (number : Nat) (event : Event) : Option Reply :=
  if event.operation.reads number then some event.reply else none

/-- Each read of a cursor has a reply. -/
theorem Client.length_reads (client : Client) (number : Nat) (operations : List Operation) :
    ((client.trace operations).filterMap (Event.read? number)).length =
      operations.countP (·.reads number) := by
  -- An event has a reply to a read exactly when its operation reads the cursor.
  have each : ∀ event : Event, (event.read? number).isSome = event.operation.reads number := by
    intro event
    cases reads : event.operation.reads number <;> simp [Event.read?, reads]
  rw [List.length_filterMap_eq_countP, funext each]
  conv_rhs => rw [← client.operations_trace operations, List.countP_map]
  rfl

/-- The replies to reads of a cursor that gives documents in their order, and then ends. -/
def readsOf (documents : List Document) (count : Nat) : List Reply :=
  (List.range count).map fun index => .document documents[index]?

/-- A cursor that was opened on documents, and what events read of it. -/
structure Reading (number : Nat) (documents : List Document) (events : List Event)
    (client : Client) : Prop where
  /-- The cursor has given its documents in order, and then nothing. -/
  replies_eq : events.filterMap (Event.read? number) =
    readsOf documents (events.filterMap (Event.read? number)).length
  /-- What is left are the documents that were not yet given. -/
  pending_eq : client.cursors[number]?.map (·.pending) =
    some (documents.drop (events.filterMap (Event.read? number)).length)

namespace Reading

variable {number : Nat} {documents : List Document} {events : List Event} {client after : Client}
  {event : Event} (reading : Reading number documents events client)
include reading

/-- The cursor is among those of the client. -/
theorem found : ∃ cursor, client.cursors[number]? = some cursor ∧
    cursor.pending = documents.drop (events.filterMap (Event.read? number)).length :=
  -- A cursor with something pending is a cursor.
  Option.map_eq_some_iff.mp reading.pending_eq

/-- An event that is no read of the cursor leaves it as it is. -/
theorem keep (unread : event.read? number = none)
    (same : after.cursors[number]?.map (·.pending) = client.cursors[number]?.map (·.pending)) :
    Reading number documents (events ++ [event]) after := by
  -- The event is filtered out of the reads.
  -- The replies to reads stay those that there were, and the cursor stays where it was in them.
  have none : (events ++ [event]).filterMap (Event.read? number) =
      events.filterMap (Event.read? number) := by simp [unread]
  refine ⟨?_, ?_⟩
  · rw [none]
    exact reading.replies_eq
  · rw [none, same]
    exact reading.pending_eq

/-- A read of the cursor gives the next document, or none at its end. -/
theorem next {cursor : Cursor} (found : client.cursors[number]? = some cursor) :
    Reading number documents (events ++ [⟨.next number, .document cursor.pending.head?⟩])
      { client with
        cursors := client.cursors.set number { cursor with pending := cursor.pending.tail } } := by
  -- The cursor that is read is the one that is followed, and one more reply joins the reads.
  obtain ⟨same, here, pending⟩ := reading.found
  obtain rfl : cursor = same := Option.some.inj (found.symm.trans here)
  obtain ⟨within, -⟩ := List.getElem?_eq_some_iff.mp found
  have one : (events ++ [Event.mk (.next number) (.document cursor.pending.head?)]).filterMap
      (Event.read? number) = events.filterMap (Event.read? number) ++
        [.document cursor.pending.head?] := by simp [Event.read?, Operation.reads]
  refine ⟨?_, ?_⟩
  · -- What the reads have left begins with the document at the place of their number.
    rw [one, List.length_append, List.length_singleton, readsOf, List.range_succ, List.map_append,
      ← readsOf, ← reading.replies_eq, List.map_singleton, pending, List.head?_drop]
  · -- One document fewer is left, as one more was read.
    rw [one, List.length_append, List.length_singleton, List.getElem?_set_self within,
      Option.map_some, pending, List.tail_drop]

/-- Each step leaves the cursor as it is, or reads the next document of it. -/
theorem step (stepped : client.Stepped event after) :
    Reading number documents (events ++ [event]) after := by
  -- Other cursors come and go, but this one stays where it is among them.
  obtain ⟨mine, here, -⟩ := reading.found
  cases stepped with
  | aggregate handle database collection pipeline =>
    obtain ⟨within, -⟩ := List.getElem?_eq_some_iff.mp here
    refine reading.keep rfl ?_
    rw [List.getElem?_append_left within]
  | @next other cursor found =>
    by_cases same : other = number
    · subst same
      exact reading.next found
    · refine reading.keep (by simp [Event.read?, Operation.reads, same]) ?_
      rw [List.getElem?_set_ne same]
  | @close other cursor found =>
    -- A cursor that is closed keeps what it has still to give.
    refine reading.keep rfl ?_
    by_cases same : other = number
    · subst same
      obtain ⟨within, rfl⟩ := List.getElem?_eq_some_iff.mp found
      rw [List.getElem?_set_self within, found]
      rfl
    · rw [List.getElem?_set_ne same]
  | @noHandle operation handle asked missing =>
    refine reading.keep ?_ rfl
    cases operation <;>
      first
      | rfl
      | cases asked
  | @noCursor operation missed asked missing =>
    refine reading.keep ?_ rfl
    cases operation with
    | next other =>
      -- A cursor that is missing is not the one that is followed here.
      obtain rfl : other = missed := Option.some.inj asked
      have differs : other ≠ number := by
        intro same
        rw [← same, missing] at here
        cases here
      simp [Event.read?, Operation.reads, differs]
    | _ => rfl
  | quiet quiet =>
    refine reading.keep ?_ rfl
    obtain ⟨operation, reply⟩ := event
    cases operation <;>
      first
      | rfl
      | cases quiet
  | _ => exact reading.keep rfl rfl

/-- Whatever is done later, the reads of the cursor give the documents that it was opened on. -/
theorem run (operations : List Operation) :
    Reading number documents (events ++ client.trace operations) (client.run operations) :=
  -- Each step keeps the reading, and a run is its steps.
  Client.run_induction (fun _ _ _ _ reading => reading.step) operations reading

end Reading

/-- A cursor that was opened just now was not read yet. -/
theorem reading_opened (documents : List Document) (client : Client) (store : Store) :
    Reading client.cursors.length documents []
      ⟨store, client.handles, client.cursors ++ [⟨documents, true⟩]⟩ :=
  -- No event was a read, and all documents are left.
  ⟨rfl, by simp⟩

/-- A point that is not scripted to fail does not. -/
theorem Store.failure?_eq_none {store : Store} (unscripted : store.failures = [])
    (point : FailPoint) : store.failure? point = none := by
  -- An empty script has no message for any point.
  rw [failure?, unscripted]
  rfl

/-- Where nothing is scripted to fail, all points are passed. -/
theorem Store.pass_eq_ok {store : Store} (unscripted : store.failures = []) {α : Type}
    (points : List FailPoint) (value : α) : store.pass points value = .ok value := by
  -- No point on the way has a fault to report.
  have faults : points.findSome? store.fault? = none := by
    rw [List.findSome?_eq_none_iff]
    intro point _
    rw [fault?, failure?_eq_none unscripted]
    rfl
  rw [pass, faults]

section

variable {client : Client} (unscripted : client.store.failures = [])
include unscripted

/-- A handle opens a cursor on what a collection holds. -/
theorem Client.step_aggregate {handle : Nat} (known : handle < client.handles.length)
    (database collection : String) (pipeline : List Document) :
    client.step (.aggregate handle database collection pipeline) =
      (.opened client.cursors.length,
        ⟨(client.store.log [⟨database, collection, pipeline⟩]).addCursor, client.handles,
          client.cursors ++ [⟨client.store.documents database collection, true⟩]⟩) := by
  -- The handle is there and nothing fails, so a cursor on the present documents is opened.
  have found := List.getElem?_eq_getElem known
  simp only [step, found, Handle.aggregate, Store.failure?_eq_none unscripted]

/-- A handle lists the names of a database. -/
theorem Client.step_listCollections {handle : Nat} (known : handle < client.handles.length)
    (database : String) :
    client.step (.listCollections handle database) =
      (.names (client.store.names database), client) := by
  -- The handle is there and nothing fails, so the names of the present collections are given.
  have found := List.getElem?_eq_getElem known
  simp only [step, found, Handle.listCollections, Store.failure?_eq_none unscripted, Store.names]

/-- The metric tabulates the names of its database. -/
theorem Settings.runMetric_listMetric (settings : Settings) {query : Query}
    (listed : query.target = listMetric)
    (ordered : (client.store.names settings.database).Pairwise (· < ·)) :
    (settings.runMetric query client.store).1 =
      .ok ⟨query.refId, .table (.ofNames (client.store.names settings.database))⟩ := by
  -- What is in order already is not moved when the names are sorted.
  have sorted : settings.metricNames query.target client.store =
      client.store.names settings.database := by
    rw [metricNames, listed, if_neg (by decide)]
    exact List.mergeSort_of_pairwise (ordered.imp fun lt => by simpa using lt.le)
  rw [settings.runMetric_eq query client.store (.inr listed), sorted, Store.pass_eq_ok unscripted]

end

/--
After any operations without scripted failures, an aggregation through a handle opens a cursor whose
reads give the documents that were put in its collection last, one by one, and then nothing,
whatever is done later and whatever the pipeline is. The names of the collections of a database are
those that were put there, in strictly increasing order of their bytes, both where they are listed
and in the table of the metric.
-/
theorem run_stores {before : List Operation}
    (unscripted : ∀ point message, .fail point message ∉ before) :
    let client := Client.fresh.run before
    (∀ handle < client.handles.length, ∀ (database collection : String) (pipeline : List Document),
      ∃ opened : Client,
        client.step (.aggregate handle database collection pipeline) =
          (.opened client.cursors.length, opened) ∧
        ∀ after : List Operation,
          (opened.trace after).filterMap (Event.read? client.cursors.length) =
            readsOf (latest database collection before)
              (after.countP (·.reads client.cursors.length))) ∧
    ∀ database : String, ∃ names : List String,
      names.Pairwise (fun name next => name.toUTF8.data.toList < next.toUTF8.data.toList) ∧
      (∀ name, name ∈ names ↔ ∃ documents, .insert database name documents ∈ before) ∧
      (∀ handle < client.handles.length,
        client.step (.listCollections handle database) = (.names names, client)) ∧
      ∀ (settings : Settings) (query : Query), settings.database = database →
        query.target = listMetric →
          (settings.runMetric query client.store).1 =
            .ok ⟨query.refId, .table (.ofNames names)⟩ := by
  -- The contents are those of the last puts, and nothing is left that could fail.
  intro client
  have stored := Client.stored_run before
  have none := Client.failures_run unscripted
  refine ⟨fun handle known database collection pipeline => ?_, fun database => ?_⟩
  · refine ⟨_, Client.step_aggregate none known database collection pipeline, fun after => ?_⟩
    -- The cursor that is opened is followed through whatever is done after it.
    rw [stored.documents_eq, ← Client.length_reads]
    exact ((reading_opened _ _ _).run after).replies_eq
  · -- The names are ordered as strings, which is the order of their bytes.
    refine ⟨client.store.names database, (stored.ordered database).imp toUTF8_lt,
      stored.mem_names database,
      fun handle known => Client.step_listCollections none known database, ?_⟩
    rintro settings query rfl listed
    -- The metric reads the settings' database, which is this one.
    exact settings.runMetric_listMetric none listed (stored.ordered settings.database)

/-- A cursor on a collection that is replaced while it is read, and the names of its database. -/
theorem run_stores_replaced :
    let before : List Operation :=
      [.connect "uri", .insert "db" "mem" [], .insert "db" "cpu" [[]],
        .insert "db" "cpu" [[("v", .null)], []]]
    let client := Client.fresh.run before
    (∃ opened : Client,
      client.step (.aggregate 0 "db" "cpu" [[("$limit", .null)]]) = (.opened 0, opened) ∧
        (opened.trace [.next 0, .insert "db" "cpu" [], .next 0, .close 0, .next 0]).filterMap
          (Event.read? 0) =
            [.document (some [("v", .null)]), .document (some []), .document none]) ∧
    ∃ names : List String,
      names.Pairwise (fun name next => name.toUTF8.data.toList < next.toUTF8.data.toList) ∧
      "cpu" ∈ names ∧ "mem" ∈ names ∧ "db" ∉ names ∧
      client.step (.listCollections 0 "db") = (.names names, client) ∧
      (Settings.runMetric ⟨"uri", "db", []⟩ ⟨"A", listMetric, "", none, 0, .metrics, none⟩
        client.store).1 = .ok ⟨"A", .table (.ofNames names)⟩ := by
  -- The puts are replayed by the theorem, and only lookups in short lists remain.
  intro before client
  have whole := @run_stores before (by simp [before])
  obtain ⟨opened, step, reads⟩ := whole.1 0 (by decide) "db" "cpu" [[("$limit", .null)]]
  obtain ⟨names, ordered, members, listed, tabulated⟩ := whole.2 "db"
  refine ⟨⟨opened, step, (reads _).trans rfl⟩, names, ordered, ?_, ?_, ?_, listed 0 (by decide),
    tabulated _ _ rfl rfl⟩
  · -- Both collections were put, the first one with nothing in it.
    exact (members "cpu").mpr ⟨[[]], by simp [before]⟩
  · exact (members "mem").mpr ⟨[], by simp [before]⟩
  · -- A database is not the name of one of its collections.
    intro among
    obtain ⟨documents, inserted⟩ := (members "db").mp among
    simp [before] at inserted

end DocSource
