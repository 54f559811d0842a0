import SiloForge.Lib.Like
import SiloForge.Lib.Polling
import SiloForge.Organizations.GroupSnapshots

/-!
# The activity log

What happens is logged as rows with an optional board, task and agent. A member is shown the rows of the boards it may
read, and those of the queue worker and of batches of webhooks, which have neither a board nor a task.

* `recordTelemetryActivity` : the rows of the worker and of the webhooks;
* `listShows`, `streamShows` : the visibility clause of the list, and that of the stream;
* `openActivityStream`, `feed` : the stream, opened with the boards of the member and polled.
-/

namespace SiloForge

open Lib

/-! ## Rows -/

structure ActivityEventRow where
  id : Uuid
  eventType : String
  message : Option String := none
  payload : Option (List (String × Json)) := none
  agentId : Option Uuid := none
  taskId : Option Uuid := none
  boardId : Option Uuid := none
  createdAt : Time
  deriving DecidableEq

instance : Keyed ActivityEventRow Uuid := ⟨ActivityEventRow.id⟩

structure ActivityDb where
  members : Table OrganizationMember := ∅
  boardAccess : Table OrganizationBoardAccess := ∅
  boards : Table GroupBoard := ∅
  tasks : Table Task := ∅
  events : Table ActivityEventRow := ∅

namespace ActivityDb

def access (db : ActivityDb) : Db where
  members := db.members
  boardAccess := db.boardAccess
  boards := db.boards.view (·.toBoard) GroupBoard.key_toBoard

def readable (db : ActivityDb) (member : OrganizationMember) : List Uuid :=
  listAccessibleBoardIds db.access member false

def taskBoardId (db : ActivityDb) (event : ActivityEventRow) : Option Uuid :=
  (event.taskId.bind db.tasks.get?).bind (·.boardId)

/-- `event_board_id or task_board_id`. -/
def resolvedBoardId (db : ActivityDb) (event : ActivityEventRow) : Option Uuid :=
  event.boardId.or (db.taskBoardId event)

end ActivityDb

/-! ## Telemetry -/

/-- `event_type LIKE pattern`. -/
def eventTypeLike (pattern eventType : String) : Bool := like pattern.toList eventType.toList = some true

def workerPattern : String := "queue.worker.%"

def webhookPattern : String := "webhook.dispatch.%"

/-- `str(payload.get(key) or default)`, for the texts the telemetry holds. -/
def telemetryText (payload : List (String × Json)) (key default : String) : String :=
  match (Json.lookup payload key).bind Json.str? with
  | none => default
  | some text => if text = "" then default else text

def telemetryMessage (eventType : String) (payload : List (String × Json)) : String :=
  let status := telemetryText payload "status" "updated"
  if "queue.worker.".toList.isPrefixOf eventType.toList then
    let taskType := telemetryText payload "task_type" ""
    if taskType ≠ "" then "Queue worker " ++ status ++ " " ++ taskType ++ "." else "Queue worker " ++ status ++ "."
  else if "webhook.dispatch.".toList.isPrefixOf eventType.toList then
    let payloadId := telemetryText payload "payload_id" ""
    if payloadId ≠ "" then "Webhook dispatch " ++ status ++ " for payload " ++ payloadId ++ "."
    else "Webhook dispatch " ++ status ++ "."
  else eventType

/-- `record_telemetry_activity`; the queue worker leaves the board out. -/
def recordTelemetryActivity (db : ActivityDb) (now : Time) (id : Uuid) (eventType : String)
    (payload : List (String × Json)) (boardId : Option Uuid := none) : Except Failure ActivityDb := do
  let events ← orFail (db.events.insert?
    { id, eventType, message := some (telemetryMessage eventType payload), payload := some payload, boardId
      createdAt := now }) .integrityError
  return { db with events }

/-! ## Visibility -/

def globalActivityEventPatterns : List String := [workerPattern, "webhook.dispatch.batch_%"]

/-- `_global_activity_visibility_clause`. -/
def globalActivity (eventType : String) : Bool := globalActivityEventPatterns.any fun p => eventTypeLike p eventType

/-- The clause of the list: of a board of the ids, or a global row. -/
def listShows (db : ActivityDb) (boardIds : List Uuid) (event : ActivityEventRow) : Bool :=
  event.boardId.any (· ∈ boardIds) ||
    (event.boardId.isNone && (db.taskBoardId event).any (· ∈ boardIds)) ||
      (event.boardId.isNone && event.taskId.isNone && globalActivity event.eventType)

/-- The clause of the stream: that of the list, or the one board it is asked for. -/
def streamShows (db : ActivityDb) (allowedIds : List Uuid) (boardId : Option Uuid) (event : ActivityEventRow) : Bool :=
  match boardId with
  | some boardId => event.boardId = some boardId || db.taskBoardId event = some boardId
  | none => !allowedIds.isEmpty && listShows db allowedIds event

/-! ## What is sent -/

inductive RouteParam where
  | id (value : Uuid)
  | text (value : String)
  | time (value : Time)
  deriving DecidableEq

def buildActivityRoute (event : ActivityEventRow) (boardId : Option Uuid) : String × List (String × RouteParam) :=
  match boardId with
  | some boardId =>
    let boardParams := [("boardId", RouteParam.id boardId)]
    if event.eventType = "task.comment" ∧ event.taskId.isSome then
      ("board", boardParams ++ event.taskId.toList.map (fun taskId => ("taskId", .id taskId)) ++
        [("commentId", .id event.id)])
    else if "approval.".toList.isPrefixOf event.eventType.toList then ("board.approvals", boardParams)
    else if "board.".toList.isPrefixOf event.eventType.toList then ("board", boardParams ++ [("panel", .text "chat")])
    else ("board", boardParams ++ event.taskId.toList.map fun taskId => ("taskId", .id taskId))
  | none =>
    ("activity", [("eventId", .id event.id), ("eventType", .text event.eventType), ("createdAt", .time event.createdAt)]
      ++ event.taskId.toList.map fun taskId => ("taskId", .id taskId))

structure ActivityEventRead where
  id : Uuid
  eventType : String
  message : Option String
  payload : Option (List (String × Json))
  agentId : Option Uuid
  taskId : Option Uuid
  boardId : Option Uuid
  routeName : String
  routeParams : List (String × RouteParam)
  createdAt : Time
  deriving DecidableEq

def readActivity (db : ActivityDb) (event : ActivityEventRow) : ActivityEventRead :=
  let (routeName, routeParams) := buildActivityRoute event (db.resolvedBoardId event)
  { id := event.id, eventType := event.eventType, message := event.message, payload := event.payload
    agentId := event.agentId, taskId := event.taskId, boardId := db.resolvedBoardId event, routeName, routeParams
    createdAt := event.createdAt }

/-! ## The list -/

structure Page (α : Type) where
  items : List α
  total : Nat
  limit : Int
  offset : Int

def paginate {α : Type} (rows : List α) (limit offset : Int) : Page α :=
  { items := (rows.drop offset.toNat).take limit.toNat, total := rows.length, limit, offset }

/-- Who asks: an agent, or a user with its active membership. -/
inductive ActivityActor where
  | agent (agentId : Uuid)
  | user (member : Option OrganizationMember)

/-- The rows the list of a member goes through, the latest first. -/
def memberActivity (db : ActivityDb) (member : OrganizationMember) : List ActivityEventRead :=
  let boardIds := db.readable member
  ((db.events.rows.filter fun e => !boardIds.isEmpty && listShows db boardIds e).mergeSort
    fun a b => b.createdAt ≤ a.createdAt).map (readActivity db)

def listActivity (db : ActivityDb) (actor : ActivityActor) (limit offset : Int) :
    Except Failure (Page ActivityEventRead) := do
  require (1 ≤ limit ∧ limit ≤ 200 ∧ 0 ≤ offset) (.status 422)
  match actor with
  | .agent agentId =>
    let rows := (db.events.rows.filter fun e => e.agentId = some agentId).mergeSort fun a b => b.createdAt ≤ a.createdAt
    return paginate (rows.map (readActivity db)) limit offset
  | .user member =>
    let member ← orFail member (.status 403)
    return paginate (memberActivity db member) limit offset

/-! ## The stream -/

def sseSeenMax : Nat := 2000

def fetchActivityEvents (db : ActivityDb) (allowedIds : List Uuid) (boardId : Option Uuid) (since : Time) :
    List ActivityEventRead :=
  ((db.events.rows.filter fun e => since ≤ e.createdAt && streamShows db allowedIds boardId e).mergeSort
    fun a b => a.createdAt ≤ b.createdAt).map (readActivity db)

/-- What a stream that is open keeps: the boards of the member when it was opened, and the board asked for. -/
structure ActivityStream where
  allowedIds : List Uuid
  boardId : Option Uuid
  start : Time

/-- `stream_activity`, up to its generator. -/
def openActivityStream (db : ActivityDb) (member : OrganizationMember) (now : Time) (since : Option Time)
    (boardId : Option Uuid) : Except Failure ActivityStream := do
  let allowedIds := db.readable member
  require (boardId.all (· ∈ allowedIds)) (.status 403)
  return { allowedIds, boardId, start := since.getD now }

theorem mem_fetchActivityEvents {read : ActivityEventRead} : read ∈ fetchActivityEvents db allowedIds boardId since ↔
    (∃ event ∈ db.events, streamShows db allowedIds boardId event = true ∧ readActivity db event = read) ∧
      since ≤ read.createdAt := by
  simp only [fetchActivityEvents, List.mem_map, List.mem_mergeSort, List.mem_filter, Bool.and_eq_true,
    decide_eq_true_eq]
  constructor
  · rintro ⟨event, ⟨hmem, hsince, hshows⟩, rfl⟩
    exact ⟨⟨event, hmem, hshows, rfl⟩, hsince⟩
  · rintro ⟨⟨event, hmem, hshows, rfl⟩, hsince⟩
    exact ⟨event, ⟨hmem, hsince, hshows⟩, rfl⟩

namespace ActivityStream

def feed (stream : ActivityStream) (db : ActivityDb) : Feed ActivityEventRead ActivityEventRead.createdAt where
  shows read := ∃ event ∈ db.events, streamShows db stream.allowedIds stream.boardId event = true ∧
    readActivity db event = read
  fetch := fetchActivityEvents db stream.allowedIds stream.boardId
  mem_fetch _ _ := mem_fetchActivityEvents

/-- What the stream emits when it is polled in the states of the database, one after the other. -/
def emitted (stream : ActivityStream) (polls : List ActivityDb) : List ActivityEventRead :=
  polled sseSeenMax ActivityEventRead.id stream.start (polls.map stream.feed)

end ActivityStream

end SiloForge
