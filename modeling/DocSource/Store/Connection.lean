import DocSource.Store.Basic

/-! Connections and cursors in use: each is released once, when it is closed or else dropped. -/

namespace DocSource

/-- A cursor that is closed when it is dropped, unless it was closed before. -/
structure CursorGuard where
  cursor : Cursor
  opened : Bool

namespace CursorGuard

/-- The documents still to come; there are none once the cursor is closed. -/
def pending (guard : CursorGuard) : List Document :=
  if guard.opened then guard.cursor.pending else []

/-- Takes the next document. -/
def next (guard : CursorGuard) : Option Document × CursorGuard :=
  if guard.opened then
    let (document, cursor) := guard.cursor.next
    (document, { guard with cursor := cursor })
  else (none, guard)

/-- Closes the cursor of a guard that goes out of use. -/
def drop (guard : CursorGuard) (store : Store) : Store :=
  if guard.opened then (guard.cursor.close store).2 else store

/-- Closes the cursor; the guard is spent when it is dropped afterwards. -/
def close (guard : CursorGuard) (store : Store) : Store :=
  let (cursor, store) := guard.cursor.close store
  drop ⟨cursor, false⟩ store

end CursorGuard

/-- A handle that answered, and the database it is for; it is disconnected when it is dropped. -/
structure Connection where
  handle : Handle
  database : String
  opened : Bool
  deriving DecidableEq

namespace Connection

/-- Disconnects a connection that goes out of use, whatever the outcome. -/
def drop (connection : Connection) (store : Store) : Store :=
  if connection.opened then (connection.handle.disconnect store).2.2 else store

/-- Checks that the store still answers. -/
def ping (connection : Connection) (store : Store) : Except Error Unit :=
  connection.handle.ping store

/-- Connects and pings; a connection that does not answer is dropped again. -/
def «open» (uri database : String) (store : Store) : Except Error Connection × Store :=
  match store.connect uri with
  | (.error error, store) => (.error error, store)
  | (.ok handle, store) =>
    -- The connection is there from here on, so an error has to take it down again.
    let connection : Connection := ⟨handle, database, true⟩
    match connection.ping store with
    | .ok () => (.ok connection, store)
    | .error error => (.error error, connection.drop store)

/-- Opens a cursor on a collection of the connection's database. -/
def aggregate (connection : Connection) (collection : String) (pipeline : List Document)
    (store : Store) : Except Error CursorGuard × Store :=
  let (cursor, store) := Handle.aggregate connection.database collection pipeline store
  (cursor.map (⟨·, true⟩), store)

/-- The names of the collections of the connection's database. -/
def listCollections (connection : Connection) (store : Store) : Except Error (List String) :=
  Handle.listCollections connection.database store

/-- Disconnects and reports the outcome; the connection is spent when it is dropped afterwards. -/
def release (connection : Connection) (store : Store) : Except Error Unit × Store :=
  let (outcome, handle, store) := connection.handle.disconnect store
  (outcome, drop ⟨handle, connection.database, false⟩ store)

end Connection

end DocSource
