import SiloForge.Queue.Service

/-!
# The queue worker

`flush_queue` pops one task after the other and runs the handler of its type. A handler that raises has its task
queued again after a delay; every turn leaves a telemetry row.

* `Circumstances` : what goes right and wrong around a turn of the loop;
* `flushTask` : what the loop does with a popped task;
* `flushQueue` : the loop;
* `mem_popped_flushQueue` : every popped task went through `flushTask`.
-/

namespace SiloForge

inductive WorkerEvent where
  | dequeueFailed | taskUnhandled | success | failed | dropTask | batchComplete
  deriving DecidableEq

structure Circumstances where
  clock : Clock
  /-- Redis answers the dequeue. -/
  up : Bool := true
  /-- Redis answers the requeue. -/
  requeueUp : Bool := true
  requeueNow : Seconds := clock.later
  /-- The handler raises, whatever it did to the queue before. -/
  handlerRaises : Bool := false
  handlerWrites : Broker → Broker := id
  /-- The database takes the telemetry row. -/
  recorded : WorkerEvent → Bool := fun _ => true
  /-- `random.random()`. -/
  jitter : Rat := 0

inductive TaskHandler where
  | lifecycleReconcile | webhook | taskExecutionDispatch
  deriving DecidableEq

def taskHandler? (taskType : String) : Option TaskHandler :=
  if taskType = TaskType.agentLifecycleReconcile then some .lifecycleReconcile
  else if taskType = TaskType.webhookDelivery then some .webhook
  else if taskType = TaskType.taskExecutionDispatch then some .taskExecutionDispatch
  else none

/-! ## One task -/

/-- The exponent from which on a power of two is no float. -/
def floatExponentLimit : Int := 1024

/-- The delay after a number of attempts, the same for every handler. -/
def attemptsToDelay (env : QueueEnv) (attempts : Int) : Except QueueError Seconds :=
  if attempts < floatExponentLimit then
    .ok (min (env.settings.retryBaseSeconds * 2 ^ (max 0 attempts).toNat) env.settings.retryMaxSeconds)
  else .error .overflow

def computeJitter (env : QueueEnv) (baseDelay : Seconds) (jitter : Rat) : Seconds :=
  min (env.settings.retryMaxSeconds / 10) (baseDelay * (1 / 10)) * jitter

/-- A handler decodes the task before its work; answers whether it returned. -/
def runHandler (env : QueueEnv) (c : Circumstances) (task : QueuedTask) (b : Broker) : Bool × Broker :=
  match decodeTyped env.texts c.clock.wall task with
  | .ok _ => (!c.handlerRaises, c.handlerWrites b)
  | .error _ => (false, b)

/-- The handler's requeue. A webhook delivery is decoded and written anew. -/
def requeueTask (env : QueueEnv) (c : Circumstances) (task : QueuedTask) (delay : Seconds) (b : Broker) :
    TaskHandler → Except QueueError (Bool × Broker)
  | .webhook => do
    let payload ← decodeWebhookTask env.texts c.clock.wall task
    let queued ← taskFromDelivery env.texts payload
    requeueIfFailed env c.requeueUp c.requeueNow b queued delay
  | .lifecycleReconcile | .taskExecutionDispatch =>
    requeueIfFailed env c.requeueUp c.requeueNow b task (max 0 delay)

/-- What became of a popped task: whether its handler returned, what its requeue answered, and whether an exception
left the loop. -/
structure Fate where
  broker : Broker
  handled : Bool := false
  requeued : Option Bool := none
  stopped : Bool := false

def failTask (env : QueueEnv) (c : Circumstances) (task : QueuedTask) (handler : TaskHandler) (handled : Bool)
    (b : Broker) : Fate :=
  if c.recorded .failed then
    match attemptsToDelay env task.attempts with
    | .error _ => { broker := b, handled, stopped := true }
    | .ok baseDelay =>
      match requeueTask env c task (baseDelay + computeJitter env baseDelay c.jitter) b handler with
      | .error _ => { broker := b, handled, stopped := true }
      | .ok (true, b) => { broker := b, handled, requeued := some true }
      | .ok (false, b) => { broker := b, handled, requeued := some false, stopped := !c.recorded .dropTask }
  else { broker := b, handled, stopped := true }

/-- The turn of a popped task. The telemetry of a success is inside the `try`. -/
def flushTask (env : QueueEnv) (c : Circumstances) (task : QueuedTask) (b : Broker) : Fate :=
  match taskHandler? task.taskType with
  | none => { broker := b, stopped := !c.recorded .taskUnhandled }
  | some handler =>
    let ran := runHandler env c task b
    if ran.1 = true ∧ c.recorded .success = true then { broker := ran.2, handled := true }
    else failTask env c task handler ran.1 ran.2

/-! ## The loop -/

structure Popped where
  circumstances : Circumstances
  task : QueuedTask
  fate : Fate

/-- How a flush ended: the queue was empty, an exception left it, or it was still running. -/
inductive FlushEnd where
  | returned (processed : Nat)
  | raised
  | running
  deriving DecidableEq

structure Flush where
  broker : Broker
  popped : List Popped := []
  ending : FlushEnd

def flushQueue (env : QueueEnv) (block : Bool) (processed : Nat) : List Circumstances → Broker → Flush
  | [], b => { broker := b, ending := .running }
  | c :: cs, b =>
    match dequeueTask env c.up c.clock block b with
    | (.error _, b) =>
      if c.recorded .dequeueFailed then flushQueue env block processed cs b
      else { broker := b, ending := .raised }
    | (.ok none, b) =>
      { broker := b
        ending := if processed = 0 ∨ c.recorded .batchComplete = true then .returned processed else .raised }
    | (.ok (some task), b) =>
      let fate := flushTask env c task b
      if fate.stopped then { broker := fate.broker, popped := [⟨c, task, fate⟩], ending := .raised }
      else
        let rest := flushQueue env block (if fate.handled then processed + 1 else processed) cs fate.broker
        { rest with popped := ⟨c, task, fate⟩ :: rest.popped }

theorem exists_entry_of_dequeue {env : QueueEnv} {up : Bool} {clock : Clock} {block : Bool} {b b' : Broker}
    {task : QueuedTask} (h : dequeueTask env up clock block b = (.ok (some task), b')) :
    ∃ e, decodeTask env.texts clock.wall e = .ok task := by
  unfold dequeueTask at h
  split at h
  · simp only at h
    split at h
    · rename_i e b'' hpop
      have hdecode := (Prod.mk.inj h).1
      obtain ⟨t, ht, heq⟩ := map_eq_ok.mp hdecode
      obtain rfl := Option.some.inj heq
      exact ⟨e, ht⟩
    · have hnone := (Prod.mk.inj h).1
      cases hnone
  · have herror := (Prod.mk.inj h).1
    cases herror

/-- **Every popped task** was an entry of the queue and went through one turn. -/
theorem mem_popped_flushQueue {env : QueueEnv} {block : Bool} {cs : List Circumstances} {processed : Nat} {b : Broker}
    {p : Popped} (h : p ∈ (flushQueue env block processed cs b).popped) :
    (∃ e, decodeTask env.texts p.circumstances.clock.wall e = .ok p.task) ∧
      ∃ b', p.fate = flushTask env p.circumstances p.task b' := by
  induction cs generalizing processed b with
  | nil => cases h
  | cons c cs ih =>
    unfold flushQueue at h
    split at h
    · split at h
      · exact ih h
      · cases h
    · cases h
    · rename_i task b' hdequeue
      have hentry := exists_entry_of_dequeue hdequeue
      simp only at h
      split at h
      · obtain rfl := List.mem_singleton.mp h
        exact ⟨hentry, b', rfl⟩
      · rcases List.mem_cons.mp h with rfl | h
        · exact ⟨hentry, b', rfl⟩
        · exact ih h

end SiloForge
