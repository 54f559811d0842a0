import SiloForge.Activity.Log
import SiloForge.Queue.Contracts

/-!
# The telemetry of the dashboard

The dashboard sums up what the queue worker and the webhooks have logged. The webhooks are those of the boards the
member asks for; the worker is one for all.

* `resolveDashboardBoardIds` : the boards the dashboard is about;
* `telemetryOpsMetrics` : the summary;
* `dashboardTelemetryOpsMetrics` : the endpoint.
-/

namespace SiloForge

open Lib

/-- `DashboardRangeKey`. -/
inductive RangeKey where
  | hours24 | days3 | days7 | days14 | month1 | months3 | months6 | year1
  deriving DecidableEq

def hour : Nat := 3600 * 1000000

def RangeKey.duration : RangeKey → Nat
  | .hours24 => 24 * hour
  | .days3 => 3 * 24 * hour
  | .days7 => 7 * 24 * hour
  | .days14 => 14 * 24 * hour
  | .month1 => 30 * 24 * hour
  | .months3 => 90 * 24 * hour
  | .months6 => 180 * 24 * hour
  | .year1 => 365 * 24 * hour

/-- Whether an event falls in the range that ends now. -/
def RangeKey.covers (key : RangeKey) (now createdAt : Time) : Bool :=
  now ≤ createdAt + key.duration && createdAt ≤ now

structure TelemetryWorkerMetrics where
  latestEventType : Option String := none
  latestAt : Option Time := none
  latestQueueName : Option String := none
  latestTaskType : Option String := none
  latestAttempt : Option Int := none
  latestBoardId : Option Uuid := none
  latestTaskId : Option Uuid := none
  successCount : Nat := 0
  failureCount : Nat := 0
  dequeueFailureCount : Nat := 0
  deriving DecidableEq

structure TelemetryWebhookMetrics where
  latestEventType : Option String := none
  latestAt : Option Time := none
  latestPayloadId : Option String := none
  latestAttempt : Option Int := none
  latestBoardId : Option Uuid := none
  successCount : Nat := 0
  failureCount : Nat := 0
  retriedCount : Nat := 0
  deriving DecidableEq

structure TelemetryOpsMetrics where
  generatedAt : Time
  worker : TelemetryWorkerMetrics
  webhook : TelemetryWebhookMetrics
  deriving DecidableEq

def payloadText (payload : Option (List (String × Json))) (key : String) : Option String :=
  ((payload.bind fun fields => Json.lookup fields key).bind Json.str?).bind fun text =>
    if isBlank text then none else some (strip text)

/-- `_payload_int`: a truth value is an integer, and a float is truncated. -/
def payloadInt (payload : Option (List (String × Json))) (keys : List String) : Option Int :=
  keys.findSome? fun key => (payload.bind fun fields => Json.lookup fields key).bind fun
    | .int n => some n
    | .bool b => some b.toNat
    | .float bits => floatToInt? bits
    | _ => none

def latestEvent (events : List ActivityEventRow) : Option ActivityEventRow :=
  firstBy (fun a b => b.createdAt < a.createdAt) events

def countEvents (events : List ActivityEventRow) (key : RangeKey) (now : Time) (eventType : String) : Nat :=
  (events.filter fun e => key.covers now e.createdAt && e.eventType = eventType).length

def workerEvents (db : ActivityDb) : List ActivityEventRow :=
  db.events.rows.filter fun e => eventTypeLike workerPattern e.eventType

def webhookEvents (db : ActivityDb) (boardIds : List Uuid) : List ActivityEventRow :=
  db.events.rows.filter fun e => eventTypeLike webhookPattern e.eventType && e.boardId.any (· ∈ boardIds)

def workerMetrics (events : List ActivityEventRow) (key : RangeKey) (now : Time) : TelemetryWorkerMetrics :=
  let recent := latestEvent events
  let payload := recent.bind (·.payload)
  { latestEventType := recent.map (·.eventType)
    latestAt := recent.map (·.createdAt)
    latestQueueName := payloadText payload "queue_name"
    latestTaskType := payloadText payload "task_type"
    latestAttempt := payloadInt payload ["attempt"]
    latestBoardId := recent.bind (·.boardId)
    latestTaskId := recent.bind (·.taskId)
    successCount := countEvents events key now "queue.worker.success"
    failureCount := countEvents events key now "queue.worker.failed"
    dequeueFailureCount := countEvents events key now "queue.worker.dequeue_failed" }

def webhookMetrics (events : List ActivityEventRow) (key : RangeKey) (now : Time) : TelemetryWebhookMetrics :=
  let recent := latestEvent events
  let payload := recent.bind (·.payload)
  { latestEventType := recent.map (·.eventType)
    latestAt := recent.map (·.createdAt)
    latestPayloadId := payloadText payload "payload_id"
    latestAttempt := payloadInt payload ["attempt", "delivery_attempt", "attempts"]
    latestBoardId := recent.bind (·.boardId)
    successCount := countEvents events key now "webhook.dispatch.success"
    failureCount := countEvents events key now "webhook.dispatch.failed"
    retriedCount := countEvents events key now "webhook.dispatch.requeued" }

def telemetryOpsMetrics (db : ActivityDb) (now : Time) (key : RangeKey) (boardIds : List Uuid) : TelemetryOpsMetrics :=
  if boardIds = [] then { generatedAt := now, worker := {}, webhook := {} }
  else
    { generatedAt := now
      worker := workerMetrics (workerEvents db) key now
      webhook := webhookMetrics (webhookEvents db boardIds) key now }

def resolveDashboardBoardIds (db : ActivityDb) (member : OrganizationMember) (boardId groupId : Option Uuid) :
    Except Failure (List Uuid) := do
  let boardIds := db.readable member
  if boardIds = [] then return []
  else
    require (boardId.all (· ∈ boardIds)) (.status 403)
    match groupId with
    | none => return boardId.elim boardIds ([·])
    | some groupId =>
      let groupBoardIds := (db.boards.rows.filter fun b =>
        b.organizationId = member.organizationId ∧ b.boardGroupId = some groupId ∧ b.id ∈ boardIds).map (·.id)
      return boardId.elim groupBoardIds fun boardId => if boardId ∈ groupBoardIds then [boardId] else []

def dashboardTelemetryOpsMetrics (db : ActivityDb) (member : OrganizationMember) (now : Time) (key : RangeKey)
    (boardId groupId : Option Uuid) : Except Failure TelemetryOpsMetrics := do
  let boardIds ← resolveDashboardBoardIds db member boardId groupId
  return telemetryOpsMetrics db now key boardIds

end SiloForge
