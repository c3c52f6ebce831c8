import DocSource.Proofs.Store.Client

/-!
Counters of a store: after any operations they say how many connections and cursors are open and how
many connects there were, and nothing was released that was not open.
-/

namespace DocSource

namespace Event

/-- The handle that a connect gave. -/
def connected? : Event → Option Nat
  | ⟨.connect _, .opened number⟩ => some number
  | _ => none

/-- The handle that a disconnect was for, whatever the outcome. -/
def disconnected? : Event → Option Nat
  | ⟨.disconnect number, .done⟩ | ⟨.disconnect number, .failed _⟩ => some number
  | _ => none

/-- The cursor that an aggregation gave. -/
def cursorOpened? : Event → Option Nat
  | ⟨.aggregate .., .opened number⟩ => some number
  | _ => none

/-- The cursor that was closed. -/
def cursorClosed? : Event → Option Nat
  | ⟨.close number, .done⟩ => some number
  | _ => none

/-- An event that opens and releases nothing. -/
structure Neutral (event : Event) : Prop where
  connected?_eq : event.connected? = none
  disconnected?_eq : event.disconnected? = none
  cursorOpened?_eq : event.cursorOpened? = none
  cursorClosed?_eq : event.cursorClosed? = none

/-- What is not there is neither opened nor released. -/
theorem neutral_absent (operation : Operation) : Neutral ⟨operation, .absent⟩ := by
  -- Only replies that name or confirm something tell of opening or releasing.
  cases operation <;> exact ⟨rfl, rfl, rfl, rfl⟩

/-- A quiet event opens and releases nothing. -/
theorem neutral_of_quiet {event : Event} (quiet : event.quiet = true) : event.Neutral := by
  -- The replies that tell of opening and releasing are not quiet.
  obtain ⟨operation, reply⟩ := event
  cases operation <;> cases reply <;>
    first
    | exact ⟨rfl, rfl, rfl, rfl⟩
    | cases quiet

end Event

/-- What events opened, by its numbers, and did not release. -/
def stillOpen (opened released : Event → Option Nat) (events : List Event) : List Nat :=
  (events.filterMap opened).filter (· ∉ events.filterMap released)

/-- A count of what events left open, with a flag for each thing that they opened. -/
structure Tally (opened released : Event → Option Nat) (events : List Event) (flags : List Bool)
    (count : Nat) : Prop where
  /-- Numbers are given in order, one for each flag. -/
  opened_eq : events.filterMap opened = List.range flags.length
  /-- A flag is up as long as its number was not released. -/
  flags_eq : flags =
    (List.range flags.length).map fun number => decide (number ∉ events.filterMap released)
  /-- Nothing is released before it was given. -/
  released_lt : ∀ number ∈ events.filterMap released, number < flags.length
  /-- What is counted as open is what is flagged as open. -/
  count_eq : count = flags.count true

namespace Tally

variable {opened released : Event → Option Nat} {events : List Event} {flags : List Bool}
  {count : Nat} (tally : Tally opened released events flags count)
include tally

/-- Something is flagged as open as long as it is not released. -/
theorem getElem?_eq {number : Nat} (within : number < flags.length) :
    flags[number]? = some (decide (number ∉ events.filterMap released)) := by
  -- The flags are one computed value for each number below their count.
  rw [tally.flags_eq, List.getElem?_map, List.getElem?_range within]
  rfl

/-- What was released is one of the things that were opened, and is flagged as open no more. -/
theorem getElem?_of_released {number : Nat} (released : number ∈ events.filterMap released) :
    flags[number]? = some false := by
  -- Only numbers that were given are released, so there is a flag to speak of.
  rw [tally.getElem?_eq (tally.released_lt number released)]
  exact congrArg some (decide_eq_false (not_not_intro released))

/-- The count is that of what is still open. -/
theorem count_eq_length : count = (stillOpen opened released events).length := by
  rw [stillOpen, tally.opened_eq, tally.count_eq, ← List.countP_eq_length_filter, tally.flags_eq,
    List.count_eq_countP, List.countP_map, List.length_map, List.length_range]
  -- Both count the same numbers.
  refine List.countP_congr fun number _ => ?_
  simp

/-- No number is given twice. -/
theorem nodup : (events.filterMap opened).Nodup := by
  -- The numbers given are those from zero up, each once.
  rw [tally.opened_eq]
  exact List.nodup_range

/-- What is flagged as open is counted. -/
theorem count_pos {number : Nat} (found : flags[number]? = some true) : 0 < count := by
  -- The count is how often the flag occurs, and it occurs here.
  rw [tally.count_eq, List.count_pos_iff]
  exact List.mem_of_getElem? found

variable {event : Event}

/-- An event that opens and releases nothing does not count. -/
theorem keep (opens : opened event = none) (releases : released event = none) :
    Tally opened released (events ++ [event]) flags count where
  -- Neither list of numbers grows, so nothing that is said of them changes.
  opened_eq := by simp [opens, tally.opened_eq]
  flags_eq := by simpa [releases] using tally.flags_eq
  released_lt := by simpa [releases] using tally.released_lt
  count_eq := tally.count_eq

/-- What is opened has the next number, and is counted. -/
theorem give (opens : opened event = some flags.length) (releases : released event = none) :
    Tally opened released (events ++ [event]) (flags ++ [true]) (count + 1) where
  opened_eq := by simp [opens, tally.opened_eq, List.range_succ]
  flags_eq := by
    -- What is released was given before, and so has a smaller number than the next one.
    have new : flags.length ∉ events.filterMap released := fun among =>
      Nat.lt_irrefl _ (tally.released_lt _ among)
    have same : (events ++ [event]).filterMap released = events.filterMap released := by
      simp [releases]
    rw [List.length_append, List.length_singleton, List.range_succ, List.map_append, same,
      ← tally.flags_eq, List.map_singleton, decide_eq_true new]
  released_lt := by
    intro number among
    -- Room for one more flag does not hurt what was released before.
    have within := tally.released_lt number (by simpa [releases] using among)
    rw [List.length_append]
    omega
  count_eq := by simp [tally.count_eq]

/-- What is released is open no more, and it counts only if it was. -/
theorem release {number : Nat} {flag : Bool} (found : flags[number]? = some flag)
    (opens : opened event = none) (releases : released event = some number) :
    Tally opened released (events ++ [event]) (flags.set number false)
      (if flag then count - 1 else count) := by
  obtain ⟨within, rfl⟩ := List.getElem?_eq_some_iff.mp found
  refine ⟨by simp [opens, tally.opened_eq], ?_, ?_, ?_⟩
  · -- Only the flag of this number changes.
    refine List.ext_getElem? fun other => ?_
    rw [List.length_set]
    by_cases inside : other < flags.length
    · rw [List.getElem?_map, List.getElem?_range inside, List.getElem?_set,
        tally.getElem?_eq inside]
      by_cases same : number = other
      · simp [same, inside, releases]
      · simp [same, Ne.symm same, releases]
    · rw [List.getElem?_eq_none (by simpa using inside),
        List.getElem?_eq_none (by simpa using inside)]
  · intro other among
    rw [List.length_set]
    rw [List.filterMap_append, List.mem_append] at among
    rcases among with before | now
    · exact tally.released_lt other before
    · have same : other = number := by simpa [releases] using now
      rwa [same]
  · rw [List.count_set within, tally.count_eq]
    cases flags[number] <;> simp

end Tally

/-- A connection is taken off the count where one was counted, which is no underflow. -/
theorem Store.removeConnection_ite {store : Store} {flag : Bool}
    (counted : flag = true → 0 < store.openConnections) :
    (if flag then store.removeConnection else store) =
      { store with
        openConnections :=
          if flag then store.openConnections - 1 else store.openConnections } := by
  -- The underflow branch needs a count of zero, which a set flag rules out.
  cases flag with
  | false => rfl
  | true =>
    have some := Nat.ne_of_gt (counted rfl)
    rw [if_pos rfl, if_pos rfl, removeConnection, if_neg some]

/-- A cursor is taken off the count where one was counted, which is no underflow. -/
theorem Store.removeCursor_ite {store : Store} {flag : Bool}
    (counted : flag = true → 0 < store.openCursors) :
    (if flag then store.removeCursor else store) =
      { store with
        openCursors := if flag then store.openCursors - 1 else store.openCursors } := by
  -- The underflow branch needs a count of zero, which a set flag rules out.
  cases flag with
  | false => rfl
  | true =>
    have some := Nat.ne_of_gt (counted rfl)
    rw [if_pos rfl, if_pos rfl, removeCursor, if_neg some]

/-- The counters of a client's store agree with what the events opened and released. -/
structure Recorded (events : List Event) (client : Client) : Prop where
  /-- Handles are flagged while they are connected. -/
  handles : Tally Event.connected? Event.disconnected? events
    (client.handles.map (·.connected)) client.store.openConnections
  /-- Cursors are flagged until they are closed. -/
  cursors : Tally Event.cursorOpened? Event.cursorClosed? events
    (client.cursors.map (·.opened)) client.store.openCursors
  /-- Connects are never taken back. -/
  connects_eq : client.store.connects = client.handles.length
  /-- A release that would find nothing to release never happens. -/
  underflows_eq : client.store.underflows = 0

/-- A new store has counted nothing. -/
theorem recorded_fresh : Recorded [] Client.fresh :=
  -- There are no events, no handles and no cursors, so both sides are empty.
  ⟨⟨rfl, rfl, by simp, rfl⟩, ⟨rfl, rfl, by simp, rfl⟩, rfl, rfl⟩

/-- An event that opens and releases nothing leaves the record as it is. -/
theorem Recorded.append_neutral {events : List Event} {client : Client} {event : Event}
    (recorded : Recorded events client) (neutral : event.Neutral) :
    Recorded (events ++ [event]) client :=
  -- Each part of the record looks at one of the four kinds of event, and this is none of them.
  ⟨recorded.handles.keep neutral.connected?_eq neutral.disconnected?_eq,
    recorded.cursors.keep neutral.cursorOpened?_eq neutral.cursorClosed?_eq,
    recorded.connects_eq, recorded.underflows_eq⟩

/-- Each step keeps the counters in agreement with the events. -/
theorem Recorded.step {events : List Event} {client after : Client} {event : Event}
    (recorded : Recorded events client) (stepped : client.Stepped event after) :
    Recorded (events ++ [event]) after := by
  obtain ⟨handles, cursors, connects, underflows⟩ := recorded
  cases stepped with
  | connect uri =>
    refine ⟨?_, cursors.keep rfl rfl, ?_, underflows⟩
    · rw [List.map_append]
      exact handles.give (by simp [Event.connected?]) rfl
    · rw [List.length_append, List.length_singleton, ← connects]
      rfl
  | aggregate number database collection pipeline =>
    refine ⟨handles.keep rfl rfl, ?_, connects, underflows⟩
    rw [List.map_append]
    exact cursors.give (by simp [Event.cursorOpened?]) rfl
  | @disconnect number handle found outcome =>
    have flagged : (client.handles.map (·.connected))[number]? = some handle.connected := by
      simp [found]
    have releases : Event.disconnected? ⟨.disconnect number, .ofOutcome outcome⟩ = some number := by
      cases outcome <;> rfl
    -- A handle that is connected is counted, and any other is not counted again.
    rw [Store.removeConnection_ite fun live => handles.count_pos (live ▸ flagged)]
    refine ⟨?_, cursors.keep ?_ ?_, connects.trans List.length_set.symm, underflows⟩
    · rw [List.map_set]
      exact handles.release flagged rfl releases
    · cases outcome <;> rfl
    · cases outcome <;> rfl
  | @next number cursor found =>
    -- Reading changes no flag.
    have flags : (client.cursors.set number { cursor with pending := cursor.pending.tail }).map
        (·.opened) = client.cursors.map (·.opened) := by
      have flagged : (client.cursors.map (·.opened))[number]? = some cursor.opened := by
        simp [found]
      obtain ⟨within, same⟩ := List.getElem?_eq_some_iff.mp flagged
      rw [List.map_set, ← same, List.set_getElem_self]
    refine ⟨handles.keep rfl rfl, ?_, connects, underflows⟩
    rw [flags]
    exact cursors.keep rfl rfl
  | @close number cursor found =>
    have flagged : (client.cursors.map (·.opened))[number]? = some cursor.opened := by
      simp [found]
    rw [Store.removeCursor_ite fun live => cursors.count_pos (live ▸ flagged)]
    refine ⟨handles.keep rfl rfl, ?_, connects, underflows⟩
    rw [List.map_set]
    exact cursors.release flagged rfl rfl
  | insert database collection documents =>
    exact append_neutral ⟨handles, cursors, connects, underflows⟩ ⟨rfl, rfl, rfl, rfl⟩
  | fail point message =>
    exact append_neutral ⟨handles, cursors, connects, underflows⟩ ⟨rfl, rfl, rfl, rfl⟩
  | clearFailures =>
    exact append_neutral ⟨handles, cursors, connects, underflows⟩ ⟨rfl, rfl, rfl, rfl⟩
  | noHandle asked missing =>
    exact append_neutral ⟨handles, cursors, connects, underflows⟩ (Event.neutral_absent _)
  | noCursor asked missing =>
    exact append_neutral ⟨handles, cursors, connects, underflows⟩ (Event.neutral_absent _)
  | quiet quiet =>
    exact append_neutral ⟨handles, cursors, connects, underflows⟩ (Event.neutral_of_quiet quiet)

/-- After any operations of a new client, the counters agree with the events. -/
theorem recorded_run (operations : List Operation) :
    Recorded (Client.fresh.trace operations) (Client.fresh.run operations) :=
  -- One step keeps the agreement, so a run from a new store does.
  Client.run_induction (fun _ _ _ _ recorded => recorded.step) operations recorded_fresh

/-- A handle that was disconnected is answered that it is, and nothing changes. -/
theorem Recorded.disconnect_again {events : List Event} {client : Client}
    (recorded : Recorded events client) {number : Nat}
    (released : number ∈ events.filterMap Event.disconnected?) :
    client.step (.disconnect number) = (.done, client) := by
  -- A handle that was released exists, and its flag is down.
  have flagged := recorded.handles.getElem?_of_released released
  rw [List.getElem?_map, Option.map_eq_some_iff] at flagged
  obtain ⟨handle, found, spent⟩ := flagged
  obtain ⟨inside, rfl⟩ := List.getElem?_eq_some_iff.mp found
  -- A disconnect looks at the flag first, and does nothing when it is down.
  simp [Client.step, found, Handle.disconnect, spent, Reply.ofOutcome]

/-- A cursor that was closed is closed, and nothing changes. -/
theorem Recorded.close_again {events : List Event} {client : Client}
    (recorded : Recorded events client) {number : Nat}
    (released : number ∈ events.filterMap Event.cursorClosed?) :
    client.step (.close number) = (.done, client) := by
  -- A cursor that was closed exists, and its flag is down.
  have flagged := recorded.cursors.getElem?_of_released released
  rw [List.getElem?_map, Option.map_eq_some_iff] at flagged
  obtain ⟨cursor, found, spent⟩ := flagged
  obtain ⟨inside, rfl⟩ := List.getElem?_eq_some_iff.mp found
  -- Closing looks at the flag first, and does nothing when it is down.
  simp [Client.step, found, Cursor.close, spent]

/--
After any operations on any number of handles and cursors of a new store, failures scripted between
them or not, the store counts the connects that succeeded, the handles that were connected and not
disconnected since, and the cursors that were opened and not closed since. Nothing is released that
is not counted, and what was released once is released again without effect or error.
-/
theorem run_counts (operations : List Operation) :
    let events := Client.fresh.trace operations
    let client := Client.fresh.run operations
    client.store.connects = (events.filterMap Event.connected?).length ∧
      client.store.openConnections =
        (stillOpen Event.connected? Event.disconnected? events).length ∧
      client.store.openCursors =
        (stillOpen Event.cursorOpened? Event.cursorClosed? events).length ∧
      (events.filterMap Event.connected?).Nodup ∧ (events.filterMap Event.cursorOpened?).Nodup ∧
      client.store.underflows = 0 ∧
      (∀ number ∈ events.filterMap Event.disconnected?,
        client.step (.disconnect number) = (.done, client)) ∧
      ∀ number ∈ events.filterMap Event.cursorClosed?,
        client.step (.close number) = (.done, client) := by
  -- All of it is read off the record that the steps keep.
  intro events client
  have recorded := recorded_run operations
  refine ⟨?_, recorded.handles.count_eq_length, recorded.cursors.count_eq_length,
    recorded.handles.nodup, recorded.cursors.nodup, recorded.underflows_eq,
    fun _ => recorded.disconnect_again, fun _ => recorded.close_again⟩
  -- Connects are never taken back, so their count is the number of handles given.
  rw [recorded.connects_eq, recorded.handles.opened_eq, List.length_range, List.length_map]

/-- A disconnect that is scripted to fail releases the handle, and the next one does not fail. -/
example :
    (Client.fresh.trace
      [.connect "uri", .fail .disconnect "gone", .disconnect 0, .disconnect 0]).map (·.reply) =
        [.opened 0, .done, .failed (.connection "gone"), .done] := rfl

end DocSource
