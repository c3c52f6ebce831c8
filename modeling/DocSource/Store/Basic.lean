import DocSource.Bson.Basic
import DocSource.Error

/-! The fixture store: documents by database and collection, scripted failures and counters. -/

namespace DocSource

/-- What can be scripted to fail. -/
inductive FailPoint
  | connect
  | ping
  | disconnect
  | listCollections
  | aggregate (collection : String)
  deriving DecidableEq

/-- An aggregation as the store received it. -/
structure Aggregation where
  database : String
  collection : String
  pipeline : List Document

/-- The collections of a database by name, in increasing order of names. -/
abbrev Collections := List (String × List Document)

/-- The state of a store; an underflow is a release when nothing of its kind counts as open. -/
structure Store where
  databases : List (String × Collections)
  failures : List (FailPoint × String)
  issued : List Aggregation
  connects : Nat
  openConnections : Nat
  openCursors : Nat
  underflows : Nat

/-- A connection to the store, which knows whether it is still connected. -/
structure Handle where
  uri : String
  connected : Bool
  deriving DecidableEq

/-- The documents that an aggregation has still to give. -/
structure Cursor where
  pending : List Document
  opened : Bool

/-- Puts a value under a key of an ordered list, in place of the one there. -/
def insertOrdered {α : Type} (key : String) (value : α) : List (String × α) → List (String × α)
  | [] => [(key, value)]
  | (other, old) :: rest =>
    if key = other then (key, value) :: rest
    else if key < other then (key, value) :: (other, old) :: rest
    else (other, old) :: insertOrdered key value rest

/-- Looking up a key in a list asks the first entry first. -/
theorem lookup_cons_eq_ite {α : Type} (key other : String) (value : α)
    (rest : List (String × α)) :
    ((key, value) :: rest).lookup other =
      if other = key then some value else rest.lookup other := by
  -- Equality of keys as a proposition is their Boolean comparison, which the list looks at.
  by_cases same : other = key
  · simp [same]
  · have differs : (other == key) = false := by simpa using same
    simp [List.lookup_cons, differs, same]

/-- A value is found under the key it was put under, and other keys see what they saw. -/
theorem lookup_insertOrdered {α : Type} (key other : String) (value : α)
    (entries : List (String × α)) :
    (insertOrdered key value entries).lookup other =
      if other = key then some value else entries.lookup other := by
  induction entries with
  | nil => exact lookup_cons_eq_ite key other value []
  | cons entry rest ih =>
    obtain ⟨first, old⟩ := entry
    rw [insertOrdered]
    split
    case isTrue same =>
      -- The key stands in front, and its value is replaced.
      subst same
      by_cases found : other = key <;> simp [lookup_cons_eq_ite, found]
    case isFalse differs =>
      split
      · exact lookup_cons_eq_ite key other value _
      · rw [lookup_cons_eq_ite, lookup_cons_eq_ite, ih]
        by_cases front : other = first
        · simp [front, Ne.symm differs]
        · simp [front]

namespace Store

/-- A store that holds nothing. -/
def empty : Store := ⟨[], [], [], 0, 0, 0, 0⟩

/-- The collections of a database. -/
def collections (store : Store) (database : String) : Collections :=
  (store.databases.lookup database).getD []

/-- The documents of a collection. -/
def documents (store : Store) (database collection : String) : List Document :=
  ((store.collections database).lookup collection).getD []

/-- Replaces the documents of a collection. -/
def insert (database collection : String) (documents : List Document) (store : Store) : Store :=
  let collections := insertOrdered collection documents (store.collections database)
  { store with databases := insertOrdered database collections store.databases }

/-- The documents of a collection are those put there last; other collections keep theirs. -/
theorem documents_insert (database collection : String) (documents : List Document)
    (store : Store) (otherDatabase otherCollection : String) :
    (store.insert database collection documents).documents otherDatabase otherCollection =
      if otherDatabase = database ∧ otherCollection = collection then documents
      else store.documents otherDatabase otherCollection := by
  -- Both levels of the map answer for the key that was put last.
  by_cases sameDatabase : otherDatabase = database <;>
    by_cases sameCollection : otherCollection = collection <;>
    simp [insert, Store.documents, collections, lookup_insertOrdered, sameDatabase, sameCollection]

/-- Makes a point fail with a message until failures are cleared. -/
def fail (point : FailPoint) (message : String) (store : Store) : Store :=
  { store with failures := (point, message) :: store.failures }

/-- Lets every point succeed again. -/
def clearFailures (store : Store) : Store := { store with failures := [] }

/-- The message that a point is scripted to fail with. -/
def failure? (store : Store) (point : FailPoint) : Option String := store.failures.lookup point

/-- Counts a connection that is opened. -/
def addConnection (store : Store) : Store :=
  { store with connects := store.connects + 1, openConnections := store.openConnections + 1 }

/-- Counts a connection that is released; with none open, that is an underflow. -/
def removeConnection (store : Store) : Store :=
  if store.openConnections = 0 then { store with underflows := store.underflows + 1 }
  else { store with openConnections := store.openConnections - 1 }

/-- Counts a cursor that is opened. -/
def addCursor (store : Store) : Store := { store with openCursors := store.openCursors + 1 }

/-- Counts a cursor that is released; with none open, that is an underflow. -/
def removeCursor (store : Store) : Store :=
  if store.openCursors = 0 then { store with underflows := store.underflows + 1 }
  else { store with openCursors := store.openCursors - 1 }

/-- Adds aggregations to the log of those received. -/
def log (aggregations : List Aggregation) (store : Store) : Store :=
  { store with issued := store.issued ++ aggregations }

/-- A log of nothing leaves a store as it is. -/
@[simp]
theorem log_nil (store : Store) : store.log [] = store := by
  -- Nothing is appended to what was issued.
  simp [log]

/-- Two logs are one log. -/
@[simp]
theorem log_log (first second : List Aggregation) (store : Store) :
    (store.log first).log second = store.log (first ++ second) := by
  -- Appending twice is appending once, as appending is associative.
  simp [log]

/-- A connection that was opened is released without a trace but for the number of connects. -/
theorem removeConnection_log_addConnection (aggregations : List Aggregation) (store : Store) :
    (store.addConnection.log aggregations).removeConnection =
      { store.log aggregations with connects := store.connects + 1 } := by
  -- One connection counts as open at least, so releasing it is no underflow.
  simp [removeConnection, log, addConnection]

/-- A cursor that was opened is released without a trace. -/
@[simp]
theorem removeCursor_addCursor (store : Store) : store.addCursor.removeCursor = store := by
  -- One cursor counts as open at least, so releasing it is no underflow.
  simp [removeCursor, addCursor]

/-- Connects, and counts the connection. -/
def connect (uri : String) (store : Store) : Except Error Handle × Store :=
  match store.failure? .connect with
  | some message => (.error (.connection message), store)
  | none => (.ok ⟨uri, true⟩, store.addConnection)

end Store

namespace Handle

/-- Checks that the store answers. -/
def ping (handle : Handle) (store : Store) : Except Error Unit :=
  if handle.connected then
    match store.failure? .ping with
    | some message => .error (.connection message)
    | none => .ok ()
  else .error (.connection "client is disconnected")

/-- Records an aggregation and opens a cursor on the collection as it is now. -/
def aggregate (database collection : String) (pipeline : List Document) (store : Store) :
    Except Error Cursor × Store :=
  -- The pipeline is not evaluated.
  match store.failure? (.aggregate collection) with
  | some message => (.error (.execution message), store)
  | none =>
    (.ok ⟨store.documents database collection, true⟩,
      (store.log [⟨database, collection, pipeline⟩]).addCursor)

/-- The names of the collections of a database. -/
def listCollections (database : String) (store : Store) : Except Error (List String) :=
  match store.failure? .listCollections with
  | some message => .error (.execution message)
  | none => .ok ((store.collections database).map (·.1))

/-- Disconnects once; a scripted failure is reported but the connection is gone. -/
def disconnect (handle : Handle) (store : Store) : Except Error Unit × Handle × Store :=
  if handle.connected then
    let outcome := match store.failure? .disconnect with
      | some message => .error (.connection message)
      | none => .ok ()
    (outcome, { handle with connected := false }, store.removeConnection)
  else (.ok (), handle, store)

end Handle

namespace Cursor

/-- Takes the next document. -/
def next (cursor : Cursor) : Option Document × Cursor :=
  match cursor.pending with
  | [] => (none, cursor)
  | document :: rest => (some document, { cursor with pending := rest })

/-- Closes once. -/
def close (cursor : Cursor) (store : Store) : Cursor × Store :=
  if cursor.opened then ({ cursor with opened := false }, store.removeCursor)
  else (cursor, store)

end Cursor

end DocSource
