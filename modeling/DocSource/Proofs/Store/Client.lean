import DocSource.Store.Basic

/-!
Clients of a store: any number of handles and cursors that are used in any order, and what one step
of such a client does.
-/

namespace DocSource

/-- What a client asks of a store, or of a handle or a cursor by its number. -/
inductive Operation
  | connect (uri : String)
  | ping (handle : Nat)
  | aggregate (handle : Nat) (database collection : String) (pipeline : List Document)
  | listCollections (handle : Nat) (database : String)
  | disconnect (handle : Nat)
  | next (cursor : Nat)
  | close (cursor : Nat)
  | insert (database collection : String) (documents : List Document)
  | fail (point : FailPoint) (message : String)
  | clearFailures

/-- What a client is answered; nothing has a number before it is opened. -/
inductive Reply
  | done
  | opened (number : Nat)
  | names (names : List String)
  | document (found : Option Document)
  | failed (error : Error)
  | absent

/-- An operation and its reply. -/
structure Event where
  operation : Operation
  reply : Reply

/-- A store with the handles and the cursors that it has opened, in the order of their numbers. -/
structure Client where
  store : Store
  handles : List Handle
  cursors : List Cursor

/-- The reply to an operation that gives nothing but an outcome. -/
def Reply.ofOutcome : Except Error Unit → Reply
  | .ok () => done
  | .error error => failed error

namespace Client

/-- The client of a new store. -/
def fresh : Client := ⟨.empty, [], []⟩

/-- The reply to an operation, and the client after it. -/
def step (client : Client) : Operation → Reply × Client
  -- Asking for a handle or a cursor that was never opened changes nothing.
  | .connect uri =>
    match client.store.connect uri with
    | (.error error, store) => (.failed error, { client with store := store })
    | (.ok handle, store) =>
      -- The new handle's number is how many there were before.
      (.opened client.handles.length,
        { client with store := store, handles := client.handles ++ [handle] })
  | .ping number =>
    match client.handles[number]? with
    | none => (.absent, client)
    | some handle => (.ofOutcome (handle.ping client.store), client)
  | .aggregate number database collection pipeline =>
    match client.handles[number]? with
    -- Whether the handle is still connected makes no difference to an aggregation.
    | none => (.absent, client)
    | some _ =>
      match Handle.aggregate database collection pipeline client.store with
      | (.error error, store) => (.failed error, { client with store := store })
      | (.ok cursor, store) =>
        (.opened client.cursors.length,
          { client with store := store, cursors := client.cursors ++ [cursor] })
  | .listCollections number database =>
    match client.handles[number]? with
    | none => (.absent, client)
    | some _ =>
      match Handle.listCollections database client.store with
      | .error error => (.failed error, client)
      | .ok names => (.names names, client)
  | .disconnect number =>
    match client.handles[number]? with
    | none => (.absent, client)
    | some handle =>
      -- A spent handle keeps its number, and so can be disconnected again.
      let (outcome, handle, store) := handle.disconnect client.store
      (.ofOutcome outcome,
        { client with store := store, handles := client.handles.set number handle })
  | .next number =>
    match client.cursors[number]? with
    | none => (.absent, client)
    | some cursor =>
      let (found, cursor) := cursor.next
      (.document found, { client with cursors := client.cursors.set number cursor })
  | .close number =>
    match client.cursors[number]? with
    | none => (.absent, client)
    | some cursor =>
      let (cursor, store) := cursor.close client.store
      (.done, { client with store := store, cursors := client.cursors.set number cursor })
  | .insert database collection documents =>
    (.done, { client with store := client.store.insert database collection documents })
  | .fail point message => (.done, { client with store := client.store.fail point message })
  | .clearFailures => (.done, { client with store := client.store.clearFailures })

/-- The client after operations in their order. -/
def run (client : Client) (operations : List Operation) : Client :=
  operations.foldl (fun client operation => (client.step operation).2) client

/-- The operations with their replies. -/
def trace (client : Client) : List Operation → List Event
  -- A reply depends on the client at the time, so the rest starts from the one after it.
  | [] => []
  | operation :: rest =>
    let (reply, after) := client.step operation
    ⟨operation, reply⟩ :: after.trace rest

end Client

/-- A handle is connected no more after a disconnect, and only the first one is counted. -/
theorem Handle.disconnect_snd (handle : Handle) (store : Store) :
    (handle.disconnect store).2 = ({ handle with connected := false },
      if handle.connected then store.removeConnection else store) := by
  -- The flag alone decides; a scripted failure changes the outcome, which is not looked at here.
  obtain ⟨uri, connected⟩ := handle
  cases connected <;> rfl

/-- A cursor is open no more after it is closed, and only the first time is counted. -/
theorem Cursor.close_eq (cursor : Cursor) (store : Store) :
    cursor.close store = ({ cursor with opened := false },
      if cursor.opened then store.removeCursor else store) := by
  -- The flag alone decides, and closing clears it in both cases.
  obtain ⟨pending, opened⟩ := cursor
  cases opened <;> rfl

/-- A cursor gives its first pending document, and keeps the others. -/
theorem Cursor.next_eq (cursor : Cursor) :
    cursor.next = (cursor.pending.head?, { cursor with pending := cursor.pending.tail }) := by
  -- An exhausted cursor gives nothing, and nothing is what is left of it.
  obtain ⟨pending, opened⟩ := cursor
  cases pending <;> rfl

/-- The handle that an operation is for. -/
def Operation.handle? : Operation → Option Nat
  -- An insert or a scripted failure goes to the store itself.
  | .ping number | .aggregate number _ _ _ | .listCollections number _ | .disconnect number =>
    some number
  | _ => none

/-- The cursor that an operation is for. -/
def Operation.cursor? : Operation → Option Nat
  | .next number | .close number => some number
  | _ => none

/-- An event that leaves the client as it was, whatever the client is. -/
def Event.quiet : Event → Bool
  -- What only looks, or fails before it opens something, changes nothing.
  | ⟨.ping _, _⟩ | ⟨.listCollections .., _⟩ => true
  | ⟨.connect _, .failed _⟩ | ⟨.aggregate .., .failed _⟩ => true
  | _ => false

/-- What a step can do to a client. -/
inductive Client.Stepped (client : Client) : Event → Client → Prop
  /-- A connect that succeeds is counted, and gives a handle with the next number. -/
  | connect (uri : String) :
    Stepped client ⟨.connect uri, .opened client.handles.length⟩
      { client with
        store := client.store.addConnection
        handles := client.handles ++ [⟨uri, true⟩] }
  /-- An aggregation that succeeds is logged, and gives a cursor on what is stored at the time. -/
  | aggregate (number : Nat) (database collection : String) (pipeline : List Document) :
    Stepped client
      ⟨.aggregate number database collection pipeline, .opened client.cursors.length⟩
      { client with
        store := (client.store.log [⟨database, collection, pipeline⟩]).addCursor
        cursors := client.cursors ++ [⟨client.store.documents database collection, true⟩] }
  /-- A disconnect takes the handle off the count once, also when it is scripted to fail. -/
  | disconnect {number : Nat} {handle : Handle} (found : client.handles[number]? = some handle)
    (outcome : Except Error Unit) :
    Stepped client ⟨.disconnect number, .ofOutcome outcome⟩
      { client with
        store := if handle.connected then client.store.removeConnection else client.store
        handles := client.handles.set number { handle with connected := false } }
  /-- Reading takes the next document out of a cursor, and leaves the store alone. -/
  | next {number : Nat} {cursor : Cursor} (found : client.cursors[number]? = some cursor) :
    Stepped client ⟨.next number, .document cursor.pending.head?⟩
      { client with
        cursors := client.cursors.set number { cursor with pending := cursor.pending.tail } }
  /-- A close takes the cursor off the count once. -/
  | close {number : Nat} {cursor : Cursor} (found : client.cursors[number]? = some cursor) :
    Stepped client ⟨.close number, .done⟩
      { client with
        store := if cursor.opened then client.store.removeCursor else client.store
        cursors := client.cursors.set number { cursor with opened := false } }
  /-- An insert does not reach the cursors that are open. -/
  | insert (database collection : String) (documents : List Document) :
    Stepped client ⟨.insert database collection documents, .done⟩
      { client with store := client.store.insert database collection documents }
  /-- A failure is scripted for what comes after it. -/
  | fail (point : FailPoint) (message : String) :
    Stepped client ⟨.fail point message, .done⟩
      { client with store := client.store.fail point message }
  /-- No failure is scripted any more. -/
  | clearFailures :
    Stepped client ⟨.clearFailures, .done⟩ { client with store := client.store.clearFailures }
  /-- An operation on a handle that was never given says so, and changes nothing. -/
  | noHandle {operation : Operation} {number : Nat} (asked : operation.handle? = some number)
    (missing : client.handles[number]? = none) : Stepped client ⟨operation, .absent⟩ client
  /-- An operation on a cursor that was never given says so, and changes nothing. -/
  | noCursor {operation : Operation} {number : Nat} (asked : operation.cursor? = some number)
    (missing : client.cursors[number]? = none) : Stepped client ⟨operation, .absent⟩ client
  /-- All else looks without changing anything, or fails before it does. -/
  | quiet {event : Event} (quiet : event.quiet = true) : Stepped client event client

namespace Client

/-- Every step does one of these things. -/
theorem stepped_step (client : Client) (operation : Operation) :
    client.Stepped ⟨operation, (client.step operation).1⟩ (client.step operation).2 := by
  -- One case for each operation: what it is for may be missing, its point may fail, or it acts.
  cases operation with
  | connect uri =>
    cases refused : client.store.failure? .connect with
    | some message =>
      simp only [step, Store.connect, refused]
      -- A connect that fails leaves the client as it was, without a new handle.
      exact .quiet rfl
    | none =>
      simp only [step, Store.connect, refused]
      exact .connect uri
  | ping number =>
    cases found : client.handles[number]? with
    | none =>
      simp only [step, found]
      exact .noHandle rfl found
    | some handle =>
      simp only [step, found]
      exact .quiet rfl
  | aggregate number database collection pipeline =>
    cases found : client.handles[number]? with
    | none =>
      simp only [step, found]
      exact .noHandle rfl found
    | some handle =>
      cases refused : client.store.failure? (.aggregate collection) with
      | some message =>
        simp only [step, found, Handle.aggregate, refused]
        -- An aggregation that fails is not logged and opens no cursor.
        exact .quiet rfl
      | none =>
        simp only [step, found, Handle.aggregate, refused]
        exact .aggregate number database collection pipeline
  | listCollections number database =>
    cases found : client.handles[number]? with
    | none =>
      simp only [step, found]
      exact .noHandle rfl found
    | some handle =>
      cases listed : Handle.listCollections database client.store <;>
        · -- Listing changes nothing, whether it gives names or fails.
          simp only [step, found, listed]
          exact .quiet rfl
  | disconnect number =>
    cases found : client.handles[number]? with
    | none =>
      simp only [step, found]
      exact .noHandle rfl found
    | some handle =>
      simp only [step, found, handle.disconnect_snd]
      -- The outcome is left open, as the handle is disconnected in any case.
      exact .disconnect found (handle.disconnect client.store).1
  | next number =>
    cases found : client.cursors[number]? with
    | none =>
      simp only [step, found]
      exact .noCursor rfl found
    | some cursor =>
      simp only [step, found, cursor.next_eq]
      exact .next found
  | close number =>
    cases found : client.cursors[number]? with
    | none =>
      simp only [step, found]
      exact .noCursor rfl found
    | some cursor =>
      simp only [step, found, cursor.close_eq]
      exact .close found
  | insert database collection documents => exact .insert database collection documents
  | fail point message => exact .fail point message
  | clearFailures => exact .clearFailures

/-- What holds of the events so far and of the client, and is kept by each step, holds of a run. -/
theorem run_induction {Holds : List Event → Client → Prop}
    (kept : ∀ events client event after, Holds events client → client.Stepped event after →
      Holds (events ++ [event]) after)
    (operations : List Operation) {events : List Event} {client : Client}
    (start : Holds events client) :
    Holds (events ++ client.trace operations) (client.run operations) := by
  -- Each operation is one more event, and one client later.
  induction operations generalizing events client with
  | nil => simpa [trace, run] using start
  | cons operation rest ih =>
    have one := kept _ _ _ _ start (client.stepped_step operation)
    have others := ih one
    rw [List.append_assoc] at others
    exact others

end Client

end DocSource
