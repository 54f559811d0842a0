import SiloForge.Queue.Worker

/-!
# The webhook flusher

`flush_webhook_delivery_queue` pops one entry after the other from the queue every kind of task shares, and delivers
it. A delivery that fails is queued again after a delay; every turn leaves telemetry rows.

* `dequeueWebhookDelivery` : popping an entry and reading it as a delivery;
* `webhookRequeueIfFailed` : queueing a delivery again;
* `flushWebhookDeliveryQueue` : the loop.
-/

namespace SiloForge

inductive DeliveryEvent where
  | success | failed | requeued | batchComplete
  deriving DecidableEq

inductive Recording where
  | written | typeError | raised
  deriving DecidableEq

structure DeliveryCircumstances where
  clock : Clock
  /-- Redis answers the dequeue. -/
  up : Bool := true
  /-- Redis answers the requeue. -/
  requeueUp : Bool := true
  requeueNow : Seconds := clock.later
  /-- Redis answers the requeue after a type error. -/
  retryUp : Bool := true
  /-- Processing the delivery raises. -/
  processRaises : Bool := false
  recorded : DeliveryEvent → Recording := fun _ => .written
  /-- `random.random()`. -/
  jitter : Rat := 0

/-- Pop an entry and read it as a delivery. An entry that is none is gone when the error is raised. -/
def dequeueWebhookDelivery (env : QueueEnv) (up : Bool) (clock : Clock) (block : Bool) (b : Broker) :
    Except QueueError (Option QueuedInboundDelivery) × Broker :=
  match dequeueTask env up clock block b with
  | (.error e, b) => (.error e, b)
  | (.ok none, b) => (.ok none, b)
  | (.ok (some task), b) => ((decodeWebhookTask env.texts clock.wall task).map some, b)

def webhookRequeueIfFailed (env : QueueEnv) (up : Bool) (now : Seconds) (b : Broker) (item : QueuedInboundDelivery)
    (delaySeconds : Seconds) : Except QueueError (Bool × Broker) := do
  let queued ← taskFromDelivery env.texts item
  requeueIfFailed env up now b queued delaySeconds

/-- The inner `try`: queue the delivery again, and once more where a type error is raised after that. The flag tells
that an exception left it. -/
def requeueDelivery (env : QueueEnv) (c : DeliveryCircumstances) (item : QueuedInboundDelivery) (delay : Seconds)
    (b : Broker) : Bool × Broker :=
  match webhookRequeueIfFailed env c.requeueUp c.requeueNow b item delay with
  | .error _ => (true, b)
  | .ok (_, b) =>
    match c.recorded .requeued with
    | .written => (false, b)
    | .raised => (true, b)
    | .typeError =>
      match webhookRequeueIfFailed env c.retryUp c.requeueNow b item 0 with
      | .error _ => (true, b)
      | .ok (_, b) => (false, b)

/-- The `except` branch. The flag tells that an exception left it. -/
def failDelivery (env : QueueEnv) (c : DeliveryCircumstances) (item : QueuedInboundDelivery) (b : Broker) :
    Bool × Broker :=
  if c.recorded .failed = .written then
    match attemptsToDelay env item.attempts with
    | .error _ => (true, b)
    | .ok delay => requeueDelivery env c item (delay + computeJitter env delay c.jitter) b
  else (true, b)

/-- The turn of a delivery. The telemetry of a success is inside the `try`. -/
def flushDelivery (env : QueueEnv) (c : DeliveryCircumstances) (item : QueuedInboundDelivery) (b : Broker) :
    Bool × Broker :=
  if c.processRaises = false ∧ c.recorded .success = .written then (false, b) else failDelivery env c item b

structure DeliveryFlush where
  broker : Broker
  ending : FlushEnd

def flushWebhookDeliveryQueue (env : QueueEnv) (block : Bool) (processed : Nat) :
    List DeliveryCircumstances → Broker → DeliveryFlush
  | [], b => { broker := b, ending := .running }
  | c :: cs, b =>
    match dequeueWebhookDelivery env c.up c.clock block b with
    | (.error _, b) => flushWebhookDeliveryQueue env block processed cs b
    | (.ok none, b) =>
      { broker := b
        ending := if processed = 0 ∨ c.recorded .batchComplete = .written then .returned processed else .raised }
    | (.ok (some item), b) =>
      let turn := flushDelivery env c item b
      if turn.1 then { broker := turn.2, ending := .raised }
      else flushWebhookDeliveryQueue env block (if c.processRaises then processed else processed + 1) cs turn.2

namespace Sample

def failingDelivery : QueuedInboundDelivery where
  boardId := 1
  webhookId := 2
  payloadId := 3
  receivedAt := newYear

def failingDeliveryTask : QueuedTask where
  taskType := TaskType.webhookDelivery
  payload := failingDelivery.fields queueTexts.dump
  createdAt := newYear

end Sample

end SiloForge
