import Mathlib.Data.List.Infix

/-!
# Following the event log

The page reader of the event log and the loop that polls it.  A log is the list
of its records; between two polls it only grows at its end.
-/

namespace SimulatorBroker.Events

abbrev EventId : Type := Nat

/-- The fields of an event record that a reader looks at. -/
structure EventRecord where
  eventId : EventId
  aliasName : Option String := none
  projectId : Option String := none
  purposeId : Option String := none
  type : Option String := none
  deriving DecidableEq, Repr

/-! ## Reading a page -/

inductive LimitMode where
  | head
  | tail
  deriving DecidableEq, Repr

/-- The options of a read; the outer `none` is `undefined`, the inner one `null`. -/
structure ReadOptions where
  aliasName : Option (Option String) := none
  projectId : Option (Option String) := none
  purposeId : Option (Option String) := none
  type : Option (Option String) := none
  afterEventId : Option (Option EventId) := none
  limit : Option Nat := none
  limitMode : LimitMode := .tail

/-- A filter that is missing or empty selects everything. -/
def selects (wanted : Option (Option String)) (field : Option String) : Bool :=
  match wanted.join with
  | none | some "" => true
  | some text => decide (field = some text)

def ReadOptions.accepts (options : ReadOptions) (event : EventRecord) : Bool :=
  selects options.aliasName event.aliasName && selects options.projectId event.projectId
    && selects options.purposeId event.purposeId && selects options.type event.type

/-- `canUseTailEventRead`: only a read that names nothing but a limit. -/
def canUseTailEventRead (options : ReadOptions) : Bool :=
  options.afterEventId.isNone && options.aliasName.isNone && options.projectId.isNone
    && options.purposeId.isNone && options.type.isNone
    && options.limit.any (fun limit => decide (0 < limit)) && decide (options.limitMode ≠ .head)

/-- `slice(-count)`. -/
def takeLast {α : Type} (count : Nat) (items : List α) : List α :=
  items.drop (items.length - count)

def loadEventRecords (options : ReadOptions) (log : List EventRecord) : List EventRecord :=
  if canUseTailEventRead options then takeLast (options.limit.getD 0) log else log

structure EventPage where
  cursor : Option EventId
  events : List EventRecord
  nextCursor : Option EventId
  scannedCursor : Option EventId
  deriving DecidableEq, Repr

inductive ReadError where
  | eventCursorNotFound
  deriving DecidableEq, Repr

/-- `events.at(-1)?.eventId`. -/
def lastId (events : List EventRecord) : Option EventId :=
  events.getLast?.map (·.eventId)

/-- The events after the cursor. -/
def scannedEvents (events : List EventRecord) :
    Option EventId → Except ReadError (List EventRecord)
  | none => .ok events
  | some afterEventId =>
      match events.findIdx? fun event => decide (event.eventId = afterEventId) with
      | none => .error .eventCursorNotFound
      | some afterIndex => .ok (events.drop (afterIndex + 1))

def pageOf (afterEventId nextCursor : Option EventId) (scanned filtered : List EventRecord) :
    EventPage where
  cursor := (lastId filtered).or afterEventId
  events := filtered
  nextCursor
  scannedCursor := (lastId scanned).or afterEventId

/-- A full head page moves the cursor to its last event, any other page past all
that was scanned. -/
def readEventsBroker (options : ReadOptions) (log : List EventRecord) :
    Except ReadError EventPage := do
  let afterEventId := options.afterEventId.join
  let scanned ← scannedEvents (loadEventRecords options log) afterEventId
  let filtered := scanned.filter options.accepts
  let nextCursor := (lastId scanned).or afterEventId
  match options.limit with
  | none => return pageOf afterEventId nextCursor scanned filtered
  | some 0 => return pageOf afterEventId nextCursor scanned []
  | some limit =>
      match options.limitMode with
      | .head =>
          let limited := filtered.take limit
          if limited.length < filtered.length then
            return pageOf afterEventId ((lastId limited).or afterEventId) scanned limited
          else
            return pageOf afterEventId nextCursor scanned limited
      | .tail => return pageOf afterEventId nextCursor scanned (takeLast limit filtered)

/-! ## Following -/

/-- The options of a stream; `null` and `undefined` are the same to it. -/
structure StreamOptions where
  aliasName : Option String := none
  projectId : Option String := none
  purposeId : Option String := none
  type : Option String := none
  afterEventId : Option EventId := none
  limit : Nat
  follow : Bool := true

structure StreamState where
  cursor : Option EventId
  didInitialRead : Bool := false
  written : List EventRecord := []
  deriving DecidableEq, Repr

/-- The read of one poll; every field is given. -/
def pollOptions (options : StreamOptions) (state : StreamState) : ReadOptions where
  aliasName := some options.aliasName
  projectId := some options.projectId
  purposeId := some options.purposeId
  type := some options.type
  afterEventId := some state.cursor
  limit := some options.limit
  limitMode :=
    if options.follow && (state.didInitialRead || state.cursor.isSome) then .head else .tail

/-- What the filters of a stream let through. -/
def StreamOptions.accepts (options : StreamOptions) : EventRecord → Bool :=
  (pollOptions options { cursor := none }).accepts

/-- One turn of the loop: read, write the events, move the cursor. -/
def streamPoll (options : StreamOptions) (state : StreamState) (log : List EventRecord) :
    Except ReadError StreamState := do
  let page ← readEventsBroker (pollOptions options state) log
  return {
    cursor := (page.nextCursor.or page.scannedCursor).or page.cursor
    didInitialRead := true
    written := state.written ++ page.events }

/-- `streamEventsLocal`, stopped after it has seen `logs`; without `follow` it
ends after the first. -/
def streamEventsLocal (options : StreamOptions) (logs : List (List EventRecord)) :
    Except ReadError StreamState :=
  let polled := if options.follow then logs else logs.take 1
  polled.foldlM (streamPoll options) { cursor := options.afterEventId }

/-- Reading page after page of one log in head mode. -/
def readPages (options : ReadOptions) (log : List EventRecord) :
    Nat → Option EventId → Except ReadError (List (List EventRecord))
  | 0, _ => .ok []
  | pages + 1, cursor => do
      let page ← readEventsBroker { options with afterEventId := some cursor } log
      let rest ← readPages options log pages page.nextCursor
      return page.events :: rest

end SimulatorBroker.Events
