import SiloForge.Lib.Countdown
import SiloForge.Queue.WebhookFlush
import SiloForge.Queue.WorkKept

/-!
# Retries

A task that fails is stored again with one more attempt, up to the limit; a check that comes too early is put off and
keeps its attempts, or its handler raises, too. What a turn stores is what it leaves in a queue that was empty, and the
next turn of the task reads it from there.

* `Treatment` : what a turn does with a task; `Treatment.stored` : the entries it stores;
* `failTask_of_retakes`, `failTask_of_not_retakes` : what a failure stores in any queue, and when nothing is;
* `retried_iff` : the tasks the worker executes as often as the limit says.
-/

namespace SiloForge

open Lib

/-! ## What a turn stores -/

def Broker.entries (b : Broker) : List Entry := b.ready ++ b.scheduled.members

/-- Put a check off, with the attempts it has. -/
def deferLifecycleReconcile (env : QueueEnv) (up : Bool) (now : Seconds) (wall : Instant) (b : Broker)
    (task : QueuedTask) (delaySeconds : Seconds) : Except QueueError (Bool × Broker) := do
  let payload ← decodeLifecycleTask env.texts task
  let queued ← taskFromReconcile env.texts wall { payload with attempts := task.attempts }
  return enqueueTaskWithDelay env up now b queued (max 0 delaySeconds)

def Circumstances.failing (c : Circumstances) : Circumstances :=
  { c with handlerRaises := true, handlerWrites := id }

/-- Circumstances in which the check is too early: it is put off, and the handler raises where Redis does not take it. -/
def Circumstances.deferring (env : QueueEnv) (task : QueuedTask) (c : Circumstances) (up : Bool)
    (now delaySeconds : Seconds) : Circumstances :=
  let deferral := fun b => deferLifecycleReconcile env up now c.clock.wall b task delaySeconds
  { c with
    handlerRaises := match deferral {} with
      | .ok (true, _) => false
      | _ => true
    handlerWrites := fun b => match deferral b with
      | .ok (_, b) => b
      | .error _ => b }

/-- What happens to a task in its turn: its handler raises, or puts it off, which Redis takes or not (`up`). -/
inductive Treatment where
  | fails (c : Circumstances)
  | deferred (c : Circumstances) (up : Bool) (now delaySeconds : Seconds)

namespace Treatment

def circumstances : Treatment → Circumstances
  | fails c => c
  | deferred c _ _ _ => c

def failed : Treatment → Bool
  | fails _ => true
  | deferred _ up _ _ => !up

/-- The entries the turn of a task leaves in a queue that was empty. -/
def stored (env : QueueEnv) (task : QueuedTask) : Treatment → List Entry
  | fails c => (flushTask env c.failing task {}).broker.entries
  | deferred c up now delaySeconds => (flushTask env (c.deferring env task up now delaySeconds) task {}).broker.entries

end Treatment

def sole? {α : Type} : List α → Option α
  | [a] => some a
  | _ => none

theorem mem_of_sole? {α : Type} {l : List α} {a x : α} (h : sole? l = some a) (hx : x ∈ l) : x = a := by
  match l with
  | [b] =>
    obtain rfl := Option.some.inj h
    exact List.mem_singleton.mp hx
  | [] | _ :: _ :: _ => cases h

theorem holds_iff_mem_entries {b : Broker} {e : Entry} : b.Holds e ↔ e ∈ b.entries := List.mem_append.symm

def workedTask? (env : QueueEnv) (wall : Instant) (entry : Entry) : Option QueuedTask :=
  match decodeTask env.texts wall entry with
  | .ok task => if (taskHandler? task.taskType).isSome then some task else none
  | .error _ => none

def Treatment.turn (env : QueueEnv) (t : Treatment) (entry : Entry) : Option Entry :=
  (workedTask? env t.circumstances.clock.wall entry).bind fun task => sole? (t.stored env task)

def executedAt (env : QueueEnv) (ts : ℕ → Treatment) (entry : Entry) (n : ℕ) : Option QueuedTask :=
  (turns (Treatment.turn env) (firstInputs ts n) entry).bind (workedTask? env (ts n).circumstances.clock.wall)

def failures (ts : ℕ → Treatment) (n : ℕ) : ℕ := (firstInputs ts n).countP Treatment.failed

theorem failures_succ (ts : ℕ → Treatment) (n : ℕ) :
    failures ts (n + 1) = failures ts n + if (ts n).failed then 1 else 0 := by
  rw [failures, firstInputs_succ, List.countP_append, List.countP_singleton, failures]

theorem executedAt_succ (env : QueueEnv) (ts : ℕ → Treatment) (entry : Entry) (n : ℕ) :
    executedAt env ts entry (n + 1) = (executedAt env ts entry n).bind fun task =>
      (sole? ((ts n).stored env task)).bind (workedTask? env (ts (n + 1)).circumstances.clock.wall) := by
  rw [executedAt, turns_firstInputs_succ, executedAt, Option.bind_assoc, Option.bind_assoc]
  congr 1
  funext e
  exact Option.bind_assoc ..

/-! ## Requeues into an empty queue -/

structure Puts (entry : Entry) (put : Broker → Broker) : Prop where
  holds : ∀ b e, (put b).Holds e ↔ b.Holds e ∨ e = entry
  entries : (put {}).entries = [entry]

section Requeue
variable {env : QueueEnv} {now delay : Seconds} {task : QueuedTask}

theorem puts_lpush (entry : Entry) : Puts entry fun b => b.lpush [entry] where
  holds b e := by
    unfold Broker.Holds Broker.lpush
    rw [List.mem_append, List.reverse_singleton, List.mem_singleton]
    tauto
  entries := rfl

theorem puts_zadd (entry : Entry) (score : Seconds) : Puts entry fun b => b.zadd entry score where
  holds b e := by
    unfold Broker.Holds Broker.zadd
    rw [SortedSet.members_add, List.mem_cons, SortedSet.members_remove, List.mem_filter]
    by_cases he : e = entry
    · simp [he]
    · simp [he]
  entries := rfl

theorem enqueueTaskWithDelay_stores {entry : Entry} (h : task.toJson env.texts = .ok entry) :
    ∃ put, (∀ b, enqueueTaskWithDelay env true now b task delay = (true, put b)) ∧ Puts entry put := by
  by_cases hdelay : max 0 delay = 0
  · refine ⟨_, fun b => ?_, puts_lpush entry⟩
    rw [enqueueTaskWithDelay, if_pos hdelay, enqueueTask, h]
    rfl
  · refine ⟨_, fun b => ?_, puts_zadd entry (now + max 0 delay)⟩
    simp only [enqueueTaskWithDelay, if_neg hdelay, scheduleForLater, h]
    rfl

theorem requeueIfFailed_stores (hlimit : task.attempts < env.settings.maxRetries) (hwritable : task.Writable) :
    ∃ put entry, (∀ b, requeueIfFailed env true now b task delay = .ok (true, put b)) ∧
      (requeueWithAttempt task).toJson env.texts = .ok entry ∧ Puts entry put := by
  obtain ⟨entry, hjson⟩ : ∃ entry, (requeueWithAttempt task).toJson env.texts = .ok entry :=
    ⟨_, toJson_eq_ok hwritable.requeueWithAttempt⟩
  by_cases hdelay : 0 < delay
  · refine ⟨_, _, fun b => ?_, hjson, puts_zadd _ (now + delay)⟩
    rw [requeueIfFailed_of_lt hlimit hjson, if_pos hdelay, if_pos rfl]
  · refine ⟨_, _, fun b => ?_, hjson, puts_lpush _⟩
    rw [requeueIfFailed_of_lt hlimit hjson, if_neg hdelay, if_pos rfl]

theorem requeueIfFailed_down (b : Broker) (hlimit : task.attempts < env.settings.maxRetries)
    (hwritable : task.Writable) : requeueIfFailed env false now b task delay =
      if 0 < delay then .error .redis else .ok (false, b) := by
  rw [requeueIfFailed_of_lt hlimit (toJson_eq_ok hwritable.requeueWithAttempt)]
  rfl

end Requeue

/-! ## A failure -/

/-- The task a handler queues again. A webhook delivery is decoded and written anew. -/
def requeuedTask (env : QueueEnv) (wall : Instant) (task : QueuedTask) : TaskHandler → Except QueueError QueuedTask
  | .webhook => do
    let payload ← decodeWebhookTask env.texts wall task
    taskFromDelivery env.texts payload
  | .lifecycleReconcile | .taskExecutionDispatch => .ok task

section Failure
variable {env : QueueEnv} {c : Circumstances} {task queued : QueuedTask} {handler : TaskHandler} {wall : Instant}

theorem requeueTask_eq_bind (env : QueueEnv) (c : Circumstances) (task : QueuedTask) (delay : Seconds)
    (handler : TaskHandler) : ∃ delay', ∀ b, requeueTask env c task delay b handler =
      requeuedTask env c.clock.wall task handler >>= fun queued =>
        requeueIfFailed env c.requeueUp c.requeueNow b queued delay' := by
  cases handler with
  | webhook => exact ⟨delay, fun b => (bind_assoc ..).symm⟩
  | lifecycleReconcile => exact ⟨max 0 delay, fun b => rfl⟩
  | taskExecutionDispatch => exact ⟨max 0 delay, fun b => rfl⟩

theorem requeuedTask_eq_ok (hhandler : taskHandler? task.taskType = some handler)
    (h : requeuedTask env wall task handler = .ok queued) :
    queued.taskType = task.taskType ∧ queued.attempts = task.attempts ∧ (task.Writable → queued.Writable) := by
  cases handler with
  | webhook =>
    have htype := taskType_of_taskHandler? hhandler
    obtain ⟨p, hp, hqueued⟩ := bind_eq_ok.mp h
    obtain ⟨hsame, -, hwhole⟩ := decodeWebhookTask_eq_ok htype hp
    rw [taskFromDelivery_eq_ok env.texts hwhole] at hqueued
    obtain rfl := Except.ok.inj hqueued
    exact ⟨htype.symm, hsame, fun hwritable => ⟨hsame ▸ hwritable.attempts, hwhole⟩⟩
  | lifecycleReconcile | taskExecutionDispatch =>
    obtain rfl := Except.ok.inj h
    exact ⟨rfl, rfl, id⟩

theorem requeuedTask_again (hhandler : taskHandler? task.taskType = some handler)
    (h : requeuedTask env wall task handler = .ok queued) (later : Instant) :
    ∃ queued', requeuedTask env later (requeueWithAttempt queued).sorted handler = .ok queued' := by
  cases handler with
  | webhook =>
    have htype := taskType_of_taskHandler? hhandler
    obtain ⟨p, hp, hqueued⟩ := bind_eq_ok.mp h
    obtain ⟨-, hfits, hwhole⟩ := decodeWebhookTask_eq_ok htype hp
    exact ⟨_, bind_eq_ok.mpr ⟨_, decodeWebhookTask_retry hfits hqueued, taskFromDelivery_eq_ok env.texts hwhole⟩⟩
  | lifecycleReconcile | taskExecutionDispatch => exact ⟨_, rfl⟩

theorem requeuedTask_later (hhandler : taskHandler? task.taskType = some handler) (later : Instant) :
    requeuedTask env later task handler = requeuedTask env wall task handler := by
  cases handler with
  | webhook =>
    have hlegacy : task.taskType ≠ TaskType.legacy := by
      rw [taskType_of_taskHandler? hhandler]
      decide
    simp only [requeuedTask, decodeWebhookTask, if_neg hlegacy]
  | lifecycleReconcile | taskExecutionDispatch => rfl

theorem flushTask_failing (hhandler : taskHandler? task.taskType = some handler) (b : Broker) :
    flushTask env c.failing task b = failTask env c task handler false b := by
  unfold flushTask runHandler
  rw [hhandler]
  cases decodeTyped env.texts c.failing.clock.wall task <;> rfl

/-- A requeue is reached after so many attempts, below the limit, and Redis takes it. -/
structure RequeueTaken (env : QueueEnv) (c : Circumstances) (attempts : Int) : Prop where
  recorded : c.recorded .failed = true
  exponent : attempts < floatExponentLimit
  limit : attempts < env.settings.maxRetries
  up : c.requeueUp = true

/-- The requeue of a failed task is taken, and the task can be queued again. -/
structure Retakes (env : QueueEnv) (c : Circumstances) (task : QueuedTask) (handler : TaskHandler) : Prop
    extends RequeueTaken env c task.attempts where
  readable : ∃ queued, requeuedTask env c.clock.wall task handler = .ok queued

/-- **A failure that is taken again** stores the task with one more attempt, and nothing else. -/
theorem failTask_of_retakes (hhandler : taskHandler? task.taskType = some handler) (hwritable : task.Writable)
    (h : Retakes env c task handler) : ∃ queued entry put,
      requeuedTask env c.clock.wall task handler = .ok queued ∧
      (requeueWithAttempt queued).toJson env.texts = .ok entry ∧ Puts entry put ∧
      ∀ handled b, (failTask env c task handler handled b).broker = put b := by
  obtain ⟨queued, hqueued⟩ := h.readable
  obtain ⟨-, hsame, hkept⟩ := requeuedTask_eq_ok hhandler hqueued
  set delay := min (env.settings.retryBaseSeconds * 2 ^ (max 0 task.attempts).toNat) env.settings.retryMaxSeconds
    with hdelay
  obtain ⟨delay', hrequeue⟩ := requeueTask_eq_bind env c task (delay + computeJitter env delay c.jitter) handler
  obtain ⟨put, entry, hstores, hjson, hputs⟩ : ∃ put entry,
      (∀ b, requeueIfFailed env true c.requeueNow b queued delay' = .ok (true, put b)) ∧
        (requeueWithAttempt queued).toJson env.texts = .ok entry ∧ Puts entry put :=
    requeueIfFailed_stores (by rw [hsame]; exact h.limit) (hkept hwritable)
  refine ⟨queued, entry, put, hqueued, hjson, hputs, fun handled b => ?_⟩
  have hall : requeueTask env c task (delay + computeJitter env delay c.jitter) b handler = .ok (true, put b) := by
    rw [hrequeue, h.up]
    exact bind_eq_ok.mpr ⟨queued, hqueued, hstores b⟩
  rw [failTask, if_pos h.recorded, attemptsToDelay, if_pos h.exponent]
  simp only [← hdelay, hall]

theorem failTask_of_not_retakes (hhandler : taskHandler? task.taskType = some handler) (hwritable : task.Writable)
    (h : ¬ Retakes env c task handler) (handled : Bool) (b : Broker) :
    (failTask env c task handler handled b).broker = b := by
  rw [failTask]
  by_cases hrecorded : c.recorded .failed = true
  · rw [if_pos hrecorded, attemptsToDelay]
    by_cases hexponent : task.attempts < floatExponentLimit
    · rw [if_pos hexponent]
      simp only
      set delay := min (env.settings.retryBaseSeconds * 2 ^ (max 0 task.attempts).toNat) env.settings.retryMaxSeconds
      obtain ⟨delay', hrequeue⟩ := requeueTask_eq_bind env c task (delay + computeJitter env delay c.jitter) handler
      rw [hrequeue]
      cases hqueued : requeuedTask env c.clock.wall task handler with
      | error e => rfl
      | ok queued =>
        obtain ⟨-, hsame, hkept⟩ := requeuedTask_eq_ok hhandler hqueued
        rw [show (Except.ok queued >>= fun queued => requeueIfFailed env c.requeueUp c.requeueNow b queued delay') =
          requeueIfFailed env c.requeueUp c.requeueNow b queued delay' from rfl]
        by_cases hlimit : task.attempts < env.settings.maxRetries
        · -- Redis does not take it
          have hdown : c.requeueUp = false := by
            by_contra hup
            exact h ⟨⟨hrecorded, hexponent, hlimit, by simpa using hup⟩, queued, hqueued⟩
          rw [hdown, requeueIfFailed_down _ (by rw [hsame]; exact hlimit) (hkept hwritable)]
          split_ifs <;> rfl
        · rw [requeueIfFailed_of_le (by rw [hsame]; exact not_lt.mp hlimit)]
    · rw [if_neg hexponent]
  · rw [if_neg hrecorded]

theorem stored_fails (hhandler : taskHandler? task.taskType = some handler) (hwritable : task.Writable)
    (h : Retakes env c task handler) : ∃ queued entry,
      requeuedTask env c.clock.wall task handler = .ok queued ∧
      (requeueWithAttempt queued).toJson env.texts = .ok entry ∧ (Treatment.fails c).stored env task = [entry] := by
  obtain ⟨queued, entry, put, hqueued, hjson, hputs, hfails⟩ := failTask_of_retakes hhandler hwritable h
  refine ⟨queued, entry, hqueued, hjson, ?_⟩
  rw [Treatment.stored, flushTask_failing hhandler, hfails]
  exact hputs.entries

theorem stored_fails_of_not (hhandler : taskHandler? task.taskType = some handler) (hwritable : task.Writable)
    (h : ¬ Retakes env c task handler) : (Treatment.fails c).stored env task = [] := by
  rw [Treatment.stored, flushTask_failing hhandler, failTask_of_not_retakes hhandler hwritable h]
  rfl

end Failure

/-! ## A deferral -/

section Deferral
variable {env : QueueEnv} {c : Circumstances} {task : QueuedTask} {p : QueuedAgentLifecycleReconcile}
  {now delaySeconds : Seconds}

theorem deferLifecycleReconcile_eq_ok (hread : decodeLifecycleTask env.texts task = .ok p) (wall : Instant) :
    ∃ queued, taskFromReconcile env.texts wall p = .ok queued ∧ queued.attempts = task.attempts ∧
      (task.Writable → queued.Writable) ∧
      ∀ up now b delaySeconds, deferLifecycleReconcile env up now wall b task delaySeconds =
        .ok (enqueueTaskWithDelay env up now b queued (max 0 delaySeconds)) := by
  obtain ⟨hsame, hfits, hwhole⟩ := decodeLifecycleTask_eq_ok hread
  have hp : { p with attempts := task.attempts } = p := by rw [← hsame]
  have hqueued := taskFromReconcile_eq_ok hfits.generation hwhole env.texts wall
  refine ⟨_, hqueued, hsame, fun h => ⟨hsame ▸ h.attempts, DateTime.wholeMinutes_naive wall⟩, fun up now b delay => ?_⟩
  refine bind_eq_ok.mpr ⟨p, hread, bind_eq_ok.mpr ⟨_, ?_, rfl⟩⟩
  rw [hp]
  exact hqueued

theorem deferring_up (hread : decodeLifecycleTask env.texts task = .ok p) (hwritable : task.Writable) (c : Circumstances)
    (now delaySeconds : Seconds) : ∃ queued entry put,
      taskFromReconcile env.texts c.clock.wall p = .ok queued ∧ queued.attempts = task.attempts ∧
        queued.toJson env.texts = .ok entry ∧ Puts entry put ∧
        (c.deferring env task true now delaySeconds).handlerRaises = false ∧
        (c.deferring env task true now delaySeconds).handlerWrites = put := by
  obtain ⟨queued, hqueued, hsame, hkept, hdeferred⟩ := deferLifecycleReconcile_eq_ok hread c.clock.wall
  obtain ⟨entry, hjson⟩ : ∃ entry, queued.toJson env.texts = .ok entry := ⟨_, toJson_eq_ok (hkept hwritable)⟩
  obtain ⟨put, hstores, hputs⟩ : ∃ put, (∀ b, enqueueTaskWithDelay env true now b queued (max 0 delaySeconds) =
      (true, put b)) ∧ Puts entry put := enqueueTaskWithDelay_stores hjson
  refine ⟨queued, entry, put, hqueued, hsame, hjson, hputs, ?_, ?_⟩
  · simp only [Circumstances.deferring, hdeferred, hstores]
  · funext b
    simp only [Circumstances.deferring, hdeferred, hstores]

theorem deferring_down (hread : decodeLifecycleTask env.texts task = .ok p) (hwritable : task.Writable)
    (c : Circumstances) (now delaySeconds : Seconds) :
    c.deferring env task false now delaySeconds = c.failing := by
  obtain ⟨queued, -, -, hkept, hdeferred⟩ := deferLifecycleReconcile_eq_ok hread c.clock.wall
  have hrefused : ∀ b, enqueueTaskWithDelay env false now b queued (max 0 delaySeconds) = (false, b) := by
    intro b
    simp only [enqueueTaskWithDelay, enqueueTask, scheduleForLater, toJson_eq_ok (hkept hwritable)]
    split <;> rfl
  simp only [Circumstances.deferring, Circumstances.failing, hdeferred, hrefused]
  rfl

theorem stored_refused (hread : decodeLifecycleTask env.texts task = .ok p) (hwritable : task.Writable)
    (c : Circumstances) (now delaySeconds : Seconds) :
    (Treatment.deferred c false now delaySeconds).stored env task = (Treatment.fails c).stored env task := by
  simp only [Treatment.stored, deferring_down hread hwritable]

/-- **A check that is put off** is stored with the attempts it has, beside the retry of a failure to record its success. -/
theorem stored_putOff (hread : decodeLifecycleTask env.texts task = .ok p)
    (hhandler : taskHandler? task.taskType = some .lifecycleReconcile) (hwritable : task.Writable) (c : Circumstances)
    (now delaySeconds : Seconds) : ∃ queued entry put,
    taskFromReconcile env.texts c.clock.wall p = .ok queued ∧ queued.attempts = task.attempts ∧
      queued.toJson env.texts = .ok entry ∧ Puts entry put ∧
      (Treatment.deferred c true now delaySeconds).stored env task =
        if c.recorded .success = true then [entry]
        else (failTask env c task .lifecycleReconcile true (put {})).broker.entries := by
  obtain ⟨queued, entry, put, hqueued, hsame, hjson, hputs, hreturns, hwrites⟩ :=
    deferring_up hread hwritable c now delaySeconds
  have hpayload : decodeTyped env.texts (c.deferring env task true now delaySeconds).clock.wall task =
      .ok (.reconcile p) := by
    rw [decodeTyped_reconcile (taskType_of_taskHandler? hhandler), hread]
    rfl
  refine ⟨queued, entry, put, hqueued, hsame, hjson, hputs, ?_⟩
  rw [Treatment.stored]
  split
  · rename_i hrecorded
    rw [flushTask_of_success hhandler hpayload hreturns hrecorded, hwrites]
    exact hputs.entries
  · rename_i hunrecorded
    rw [flushTask_of_failure hhandler hpayload fun h => hunrecorded h.2, hreturns, hwrites]
    rfl

theorem sole?_stored_putOff (hread : decodeLifecycleTask env.texts task = .ok p)
    (hhandler : taskHandler? task.taskType = some .lifecycleReconcile) (hwritable : task.Writable) (c : Circumstances)
    (now delaySeconds : Seconds) :
    (c.recorded .success = true ∨ ¬ Retakes env c task .lifecycleReconcile →
      ∃ queued entry, taskFromReconcile env.texts c.clock.wall p = .ok queued ∧ queued.attempts = task.attempts ∧
        queued.toJson env.texts = .ok entry ∧
        sole? ((Treatment.deferred c true now delaySeconds).stored env task) = some entry) ∧
    (¬ (c.recorded .success = true ∨ ¬ Retakes env c task .lifecycleReconcile) →
      sole? ((Treatment.deferred c true now delaySeconds).stored env task) = none) := by
  obtain ⟨queued, entry, put, hqueued, hsame, hjson, hputs, hstored⟩ :=
    stored_putOff hread hhandler hwritable c now delaySeconds
  rw [hstored]
  constructor
  · intro hsafe
    refine ⟨queued, entry, hqueued, hsame, hjson, ?_⟩
    split
    · rfl
    · rename_i hunrecorded
      rw [failTask_of_not_retakes hhandler hwritable (hsafe.resolve_left hunrecorded), hputs.entries]
      rfl
  · intro hunsafe
    obtain ⟨hunrecorded, hretakes⟩ := not_or.mp hunsafe
    obtain ⟨queued', entry', put', hqueued', hjson', hputs', hfails⟩ :=
      failTask_of_retakes hhandler hwritable (not_not.mp hretakes)
    obtain rfl := Except.ok.inj hqueued'
    rw [if_neg hunrecorded, hfails]
    -- two entries: their attempts differ
    cases hsole : sole? (put' (put {})).entries with
    | none => rfl
    | some e =>
      have hboth : (put' (put {})).Holds entry ∧ (put' (put {})).Holds entry' :=
        ⟨(hputs'.holds _ _).mpr (.inl ((hputs.holds _ _).mpr (.inr rfl))), (hputs'.holds _ _).mpr (.inr rfl)⟩
      have hone : ∀ {x}, (put' (put {})).Holds x → x = e := fun hx => mem_of_sole? hsole (holds_iff_mem_entries.mp hx)
      have hread : decodeTask env.texts 0 entry = .ok queued.sorted := decodeTask_toJson hjson
      rw [hone hboth.1, ← hone hboth.2, decodeTask_toJson hjson'] at hread
      have hattempts : task.attempts + 1 = queued.attempts := congrArg QueuedTask.attempts (Except.ok.inj hread)
      omega

end Deferral

/-! ## The worker -/

section Worker
variable {env : QueueEnv} {ts : ℕ → Treatment} {entry : Entry} {task t : QueuedTask} {handler : TaskHandler}
  {wall : Instant} {k n : ℕ}

theorem handler_of_decodeLifecycleTask {p : QueuedAgentLifecycleReconcile}
    (hread : decodeLifecycleTask env.texts t = .ok p) (hhandler : taskHandler? t.taskType = some handler) :
    handler = .lifecycleReconcile ∧ t.taskType = TaskType.agentLifecycleReconcile := by
  obtain ⟨_, htype, -⟩ := bind_eq_ok.mp hread
  rcases require_eq_ok.mp htype with htype | htype
  · rw [htype] at hhandler
    exact ⟨(Option.some.inj hhandler).symm, htype⟩
  · rw [htype, taskHandler?_legacy] at hhandler
    cases hhandler

/-- What a task keeps on its way: its handler, that it can be queued again, and that it can be put off. -/
structure Carried (env : QueueEnv) (wall : Instant) (task : QueuedTask) (handler : TaskHandler) (k : ℕ)
    (t : QueuedTask) : Prop where
  handled : taskHandler? t.taskType = some handler
  attempts : t.attempts = k
  createdAt : t.createdAt.WholeMinutes
  requeued : (∃ queued, requeuedTask env wall task handler = .ok queued) →
    ∀ later, ∃ queued, requeuedTask env later t handler = .ok queued
  deferred : (∃ p, decodeLifecycleTask env.texts task = .ok p) → ∃ p, decodeLifecycleTask env.texts t = .ok p

theorem Carried.writable (h : Carried env wall task handler k t) : t.Writable :=
  ⟨h.attempts ▸ Int.natCast_nonneg k, h.createdAt⟩

theorem workedTask?_of_toJson {later : Instant} (hhandler : taskHandler? t.taskType = some handler)
    (hjson : t.toJson env.texts = .ok entry) : workedTask? env later entry = some t.sorted := by
  rw [workedTask?, decodeTask_toJson hjson]
  exact if_pos (show (taskHandler? t.taskType).isSome = true from hhandler ▸ rfl)

theorem Carried.fails (h : Carried env wall task handler k t) {c : Circumstances} (hretakes : Retakes env c t handler)
    (later : Instant) : ∃ t', (sole? ((Treatment.fails c).stored env t)).bind (workedTask? env later) = some t' ∧
      Carried env wall task handler (k + 1) t' := by
  obtain ⟨queued, entry, hqueued, hjson, hstored⟩ := stored_fails h.handled h.writable hretakes
  obtain ⟨htype, hsame, hkept⟩ := requeuedTask_eq_ok h.handled hqueued
  have hhandler : taskHandler? (requeueWithAttempt queued).taskType = some handler := by
    show taskHandler? queued.taskType = _
    rw [htype, h.handled]
  have hattempts : (requeueWithAttempt queued).attempts = k + 1 := by
    rw [attempts_requeueWithAttempt, hsame, h.attempts]
  refine ⟨(requeueWithAttempt queued).sorted, ?_, hhandler, hattempts, (hkept h.writable).createdAt,
    fun _ => requeuedTask_again h.handled hqueued, fun hread => ?_⟩
  · rw [hstored]
    exact workedTask?_of_toJson hhandler hjson
  · obtain ⟨p, hp⟩ := h.deferred hread
    obtain ⟨rfl, -⟩ := handler_of_decodeLifecycleTask hp h.handled
    obtain rfl := Except.ok.inj hqueued
    exact ⟨_, decodeLifecycleTask_retry hp⟩

theorem Carried.putOff (h : Carried env wall task .lifecycleReconcile k t) {p : QueuedAgentLifecycleReconcile}
    (hp : decodeLifecycleTask env.texts t = .ok p) {queued : QueuedTask} {instant : Instant}
    (hqueued : taskFromReconcile env.texts instant p = .ok queued) (hsame : queued.attempts = t.attempts) :
    Carried env wall task .lifecycleReconcile k queued.sorted := by
  obtain ⟨-, hfits, hwhole⟩ := decodeLifecycleTask_eq_ok hp
  have hstored : queued.taskType = TaskType.agentLifecycleReconcile ∧ queued.createdAt.WholeMinutes := by
    rw [taskFromReconcile_eq_ok hfits.generation hwhole] at hqueued
    obtain rfl := Except.ok.inj hqueued
    exact ⟨rfl, DateTime.wholeMinutes_naive instant⟩
  refine ⟨?_, hsame.trans h.attempts, hstored.2, fun _ _ => ⟨_, rfl⟩, fun _ => ⟨p, ?_⟩⟩
  · show taskHandler? queued.taskType = _
    rw [hstored.1]
    rfl
  · exact decodeLifecycleTask_taskFromReconcile hfits hqueued

/-! ### Its turns -/

/-- Only a check whose payload is read is put off. -/
def PutsOff (env : QueueEnv) (ts : ℕ → Treatment) (task : QueuedTask) : Prop :=
  ∀ n c up now delaySeconds, ts n = .deferred c up now delaySeconds → ∃ p, decodeLifecycleTask env.texts task = .ok p

/-- The turn goes on to another one: a failure is taken again; a check that is put off is not queued a second time, as it
is where its success is not recorded. -/
def TakenAgain (env : QueueEnv) (t : QueuedTask) (handler : TaskHandler) : Treatment → Prop
  | .fails c | .deferred c false _ _ => Retakes env c t handler
  | .deferred c true _ _ => c.recorded .success = true ∨ ¬ Retakes env c t handler

theorem Carried.next (h : Carried env wall task handler k t) (hdefers : PutsOff env ts task) (later : Instant) :
    (TakenAgain env t handler (ts n) →
      ∃ t', (sole? ((ts n).stored env t)).bind (workedTask? env later) = some t' ∧
        Carried env wall task handler (k + if (ts n).failed then 1 else 0) t') ∧
    (¬ TakenAgain env t handler (ts n) → (sole? ((ts n).stored env t)).bind (workedTask? env later) = none) := by
  have hfails : ∀ c, (Retakes env c t handler →
      ∃ t', (sole? ((Treatment.fails c).stored env t)).bind (workedTask? env later) = some t' ∧
        Carried env wall task handler (k + 1) t') ∧
      (¬ Retakes env c t handler → (sole? ((Treatment.fails c).stored env t)).bind (workedTask? env later) = none) := by
    refine fun c => ⟨fun hgoes => h.fails hgoes later, fun hstops => ?_⟩
    rw [stored_fails_of_not h.handled h.writable hstops]
    rfl
  cases hturn : ts n with
  | fails c => exact hfails c
  | deferred c up now delaySeconds =>
    obtain ⟨p, hp⟩ := h.deferred (hdefers n c up now delaySeconds hturn)
    cases up with
    | false =>
      rw [stored_refused hp h.writable]
      exact hfails c
    | true =>
      obtain ⟨rfl, -⟩ := handler_of_decodeLifecycleTask hp h.handled
      obtain ⟨hgoes, hstops⟩ := sole?_stored_putOff hp h.handled h.writable c now delaySeconds
      refine ⟨fun hsafe => ?_, fun hunsafe => by rw [hstops hunsafe]; rfl⟩
      obtain ⟨queued, entry, hqueued, hsame, hjson, hsole⟩ := hgoes hsafe
      have hcarried := h.putOff hp hqueued hsame
      refine ⟨queued.sorted, ?_, hcarried⟩
      rw [hsole]
      exact workedTask?_of_toJson hcarried.handled hjson

theorem createdAt_of_executedAt (hhandler : taskHandler? t.taskType = some handler)
    (h : executedAt env ts entry n = some t) : t.createdAt.WholeMinutes := by
  obtain ⟨e, -, hworked⟩ := Option.bind_eq_some_iff.mp h
  unfold workedTask? at hworked
  split at hworked
  · rename_i hread
    split at hworked
    · obtain rfl := Option.some.inj hworked
      refine (writable_of_decodeTask hread ?_).createdAt
      rintro hlegacy
      rw [hlegacy, taskHandler?_legacy] at hhandler
      cases hhandler
    · cases hworked
  · cases hworked

/-- **The attempts of an executed task** are its failures so far. -/
theorem carried_executedAt (hstart : executedAt env ts entry 0 = some task)
    (hhandler : taskHandler? task.taskType = some handler) (hattempts : task.attempts = 0)
    (hdefers : PutsOff env ts task) (h : executedAt env ts entry n = some t) :
    Carried env (ts 0).circumstances.clock.wall task handler (failures ts n) t := by
  induction n generalizing t with
  | zero =>
    obtain rfl := Option.some.inj (hstart.symm.trans h)
    refine ⟨hhandler, hattempts, createdAt_of_executedAt hhandler hstart, fun hqueued later => ?_, id⟩
    rw [requeuedTask_later hhandler]
    exact hqueued
  | succ n ih =>
    rw [executedAt_succ] at h
    obtain ⟨t', ht', hnext⟩ := Option.bind_eq_some_iff.mp h
    obtain ⟨hgoes, hstops⟩ := (ih ht').next hdefers (n := n) (ts (n + 1)).circumstances.clock.wall
    by_cases hturn : TakenAgain env t' handler (ts n)
    · obtain ⟨t'', ht'', hcarried⟩ := hgoes hturn
      obtain rfl := Option.some.inj (ht''.symm.trans hnext)
      rw [failures_succ]
      exact hcarried
    · rw [hstops hturn] at hnext
      cases hnext

/-- **Retries of the worker**: as many failures as the limit says are followed by another turn, and each turn's
attempts are the failures so far. -/
structure Retried (env : QueueEnv) (ts : ℕ → Treatment) (entry : Entry) : Prop where
  executed : ∀ n, (executedAt env ts entry n).isSome = true ↔ (failures ts n : ℤ) ≤ env.settings.maxRetries
  attempts : ∀ n t, executedAt env ts entry n = some t → t.attempts = failures ts n

/-- What the retries rest on: a limit of none at least; below it, the requeue of a failure is reached and taken; a check
that is put off is not queued again, too; and the payload of a delivery is read. -/
structure RetriesSettle (env : QueueEnv) (ts : ℕ → Treatment) (task : QueuedTask) : Prop where
  limit : 0 ≤ env.settings.maxRetries
  fails : ∀ n, (ts n).failed = true → (failures ts n : ℤ) < env.settings.maxRetries →
    RequeueTaken env (ts n).circumstances (failures ts n)
  deferred : ∀ n, (ts n).failed = false → (failures ts n : ℤ) ≤ env.settings.maxRetries →
    (ts n).circumstances.recorded .success = true ∨ ¬ RequeueTaken env (ts n).circumstances (failures ts n)
  readable : 0 < env.settings.maxRetries → task.taskType = TaskType.webhookDelivery →
    ∃ p, decodeWebhookTask env.texts (ts 0).circumstances.clock.wall task = .ok p

theorem exists_requeuedTask_iff (hhandler : taskHandler? t.taskType = some handler) :
    (∃ queued, requeuedTask env wall t handler = .ok queued) ↔
      (t.taskType = TaskType.webhookDelivery → ∃ p, decodeWebhookTask env.texts wall t = .ok p) := by
  have htype := taskType_of_taskHandler? hhandler
  cases handler with
  | webhook =>
    constructor
    · rintro ⟨queued, hqueued⟩ -
      obtain ⟨p, hp, -⟩ := bind_eq_ok.mp hqueued
      exact ⟨p, hp⟩
    · intro h
      obtain ⟨p, hp⟩ := h htype
      exact ⟨_, bind_eq_ok.mpr ⟨p, hp, taskFromDelivery_eq_ok env.texts (decodeWebhookTask_eq_ok htype hp).2.2⟩⟩
  | lifecycleReconcile | taskExecutionDispatch =>
    refine ⟨fun _ hdelivery => ?_, fun _ => ⟨t, rfl⟩⟩
    rw [htype] at hdelivery
    exact absurd hdelivery (by decide)

theorem takenAgain_of_settle (hsettle : RetriesSettle env ts task) (hhandler : taskHandler? task.taskType = some handler)
    (hcarried : Carried env (ts 0).circumstances.clock.wall task handler (failures ts n) t)
    (hlimit : (failures ts (n + 1) : ℤ) ≤ env.settings.maxRetries) : TakenAgain env t handler (ts n) := by
  rw [failures_succ] at hlimit
  have hretakes : (ts n).failed = true → Retakes env (ts n).circumstances t handler := by
    intro hfailed
    simp only [hfailed, if_true] at hlimit
    have htaken := hsettle.fails n hfailed (by omega)
    have hreadable := (exists_requeuedTask_iff hhandler).mpr (hsettle.readable (by omega))
    exact ⟨hcarried.attempts ▸ htaken, hcarried.requeued hreadable _⟩
  have hsafe : (ts n).failed = false →
      (ts n).circumstances.recorded .success = true ∨ ¬ Retakes env (ts n).circumstances t handler := by
    intro hreturned
    simp only [hreturned, Bool.false_eq_true, if_false] at hlimit
    refine (hsettle.deferred n hreturned hlimit).imp_right fun hleft hretakes => hleft ?_
    exact hcarried.attempts ▸ hretakes.toRequeueTaken
  cases hturn : ts n with
  | fails c =>
    rw [hturn] at hretakes
    exact hretakes rfl
  | deferred c up now delaySeconds =>
    rw [hturn] at hretakes hsafe
    cases up with
    | false => exact hretakes rfl
    | true => exact hsafe rfl

theorem exists_handler_of_executedAt (h : executedAt env ts entry n = some t) :
    ∃ handler, taskHandler? t.taskType = some handler := by
  obtain ⟨e, -, hworked⟩ := Option.bind_eq_some_iff.mp h
  unfold workedTask? at hworked
  split at hworked
  · split at hworked
    · rename_i hsome
      obtain rfl := Option.some.inj hworked
      exact Option.isSome_iff_exists.mp hsome
    · cases hworked
  · cases hworked

theorem isSome_executedAt_succ (hstart : executedAt env ts entry 0 = some task)
    (hhandler : taskHandler? task.taskType = some handler) (hattempts : task.attempts = 0)
    (hdefers : PutsOff env ts task) : (executedAt env ts entry (n + 1)).isSome = true ↔
      ∃ t, executedAt env ts entry n = some t ∧ TakenAgain env t handler (ts n) := by
  rw [executedAt_succ]
  cases ht : executedAt env ts entry n with
  | none => simp
  | some t =>
    obtain ⟨hgoes, hstops⟩ := (carried_executedAt hstart hhandler hattempts hdefers ht).next hdefers (n := n)
      (ts (n + 1)).circumstances.clock.wall
    rw [Option.bind_some]
    by_cases hturn : TakenAgain env t handler (ts n)
    · obtain ⟨t', ht', -⟩ := hgoes hturn
      exact ⟨fun _ => ⟨t, rfl, hturn⟩, fun _ => by rw [ht']; rfl⟩
    · rw [hstops hturn]
      refine ⟨nofun, ?_⟩
      rintro ⟨t', ht', hgoes'⟩
      obtain rfl := Option.some.inj ht'
      exact absurd hgoes' hturn

theorem TakenAgain.cases (hgoes : TakenAgain env t handler (ts n)) :
    ((ts n).failed = true → Retakes env (ts n).circumstances t handler) ∧
      ((ts n).failed = false →
        (ts n).circumstances.recorded .success = true ∨ ¬ Retakes env (ts n).circumstances t handler) := by
  cases hturn : ts n with
  | fails c =>
    rw [hturn] at hgoes
    exact ⟨fun _ => hgoes, nofun⟩
  | deferred c up now delaySeconds =>
    rw [hturn] at hgoes
    cases up with
    | false => exact ⟨fun _ => hgoes, nofun⟩
    | true => exact ⟨nofun, fun _ => hgoes⟩

/-- Where every turn up to the limit is followed by another one, the failures settle. -/
theorem Retried.settle (h : Retried env ts entry) (hstart : executedAt env ts entry 0 = some task)
    (hhandler : taskHandler? task.taskType = some handler) (hattempts : task.attempts = 0)
    (hdefers : PutsOff env ts task) : RetriesSettle env ts task := by
  have hgoes : ∀ n, (failures ts (n + 1) : ℤ) ≤ env.settings.maxRetries →
      ∃ t, executedAt env ts entry n = some t ∧ TakenAgain env t handler (ts n) :=
    fun n hlimit => (isSome_executedAt_succ hstart hhandler hattempts hdefers).mp ((h.executed (n + 1)).mpr hlimit)
  have hfails : ∀ n, (ts n).failed = true → (failures ts n : ℤ) < env.settings.maxRetries →
      ∃ t, executedAt env ts entry n = some t ∧ Retakes env (ts n).circumstances t handler := by
    intro n hfailed hlimit
    have hnext : (failures ts (n + 1) : ℤ) ≤ env.settings.maxRetries := by
      rw [failures_succ, if_pos hfailed]
      omega
    obtain ⟨t, ht, hagain⟩ := hgoes n hnext
    exact ⟨t, ht, hagain.cases.1 hfailed⟩
  constructor
  case limit => exact (h.executed 0).mp (by rw [hstart]; rfl)
  case fails =>
    intro n hfailed hlimit
    obtain ⟨t, ht, hretakes⟩ := hfails n hfailed hlimit
    exact h.attempts n t ht ▸ hretakes.toRequeueTaken
  case deferred =>
    intro n hreturned hlimit
    have hnext : (failures ts (n + 1) : ℤ) ≤ env.settings.maxRetries := by
      rw [failures_succ, hreturned]
      simpa using hlimit
    obtain ⟨t, ht, hagain⟩ := hgoes n hnext
    refine (hagain.cases.2 hreturned).imp_right fun hleft htaken => hleft ⟨h.attempts n t ht ▸ htaken, ?_⟩
    -- only a check is put off, which is queued again as it is
    cases hturn : ts n with
    | fails c =>
      rw [hturn] at hreturned
      cases hreturned
    | deferred c up now delaySeconds =>
      obtain ⟨p, hp⟩ := hdefers n c up now delaySeconds hturn
      obtain ⟨rfl, -⟩ := handler_of_decodeLifecycleTask hp hhandler
      exact ⟨t, rfl⟩
  case readable =>
    intro hpositive htype
    cases hturn : ts 0 with
    | fails c =>
      obtain ⟨t, ht, hretakes⟩ := hfails 0 (by rw [hturn]; rfl) hpositive
      obtain rfl := Option.some.inj (hstart.symm.trans ht)
      rw [hturn] at hretakes
      exact (exists_requeuedTask_iff hhandler).mp hretakes.readable htype
    | deferred c up now delaySeconds =>
      obtain ⟨p, hp⟩ := hdefers 0 c up now delaySeconds hturn
      have hcheck := (handler_of_decodeLifecycleTask hp hhandler).2
      rw [htype] at hcheck
      exact absurd hcheck (by decide)

theorem RetriesSettle.retried (h : RetriesSettle env ts task) (hstart : executedAt env ts entry 0 = some task)
    (hhandler : taskHandler? task.taskType = some handler) (hattempts : task.attempts = 0)
    (hdefers : PutsOff env ts task) : Retried env ts entry := by
  have hcarried : ∀ n t, executedAt env ts entry n = some t →
      Carried env (ts 0).circumstances.clock.wall task handler (failures ts n) t :=
    fun n t => carried_executedAt hstart hhandler hattempts hdefers
  refine ⟨fun n => ?_, fun n t ht => (hcarried n t ht).attempts⟩
  induction n with
  | zero =>
    rw [hstart]
    exact ⟨fun _ => h.limit, fun _ => rfl⟩
  | succ n ih =>
    rw [isSome_executedAt_succ hstart hhandler hattempts hdefers]
    constructor
    · rintro ⟨t, ht, hgoes⟩
      have hbefore := ih.mp (by rw [ht]; rfl)
      rw [failures_succ]
      cases hfailed : (ts n).failed with
      | true =>
        have hbelow := (hgoes.cases.1 hfailed).limit
        rw [(hcarried n t ht).attempts] at hbelow
        simp only [if_true]
        omega
      | false => simpa using hbefore
    · intro hlimit
      have hbefore : (failures ts n : ℤ) ≤ env.settings.maxRetries := by
        rw [failures_succ] at hlimit
        omega
      obtain ⟨t, ht⟩ := Option.isSome_iff_exists.mp (ih.mpr hbefore)
      exact ⟨t, ht, takenAgain_of_settle h hhandler (hcarried n t ht) hlimit⟩

/-- **The tasks that are retried as often as the limit says**, whatever their kind: those whose failures settle. -/
theorem retried_iff (hstart : executedAt env ts entry 0 = some task) (hattempts : task.attempts = 0)
    (hdefers : PutsOff env ts task) : Retried env ts entry ↔ RetriesSettle env ts task := by
  obtain ⟨handler, hhandler⟩ := exists_handler_of_executedAt hstart
  exact ⟨fun h => h.settle hstart hhandler hattempts hdefers,
    fun h => h.retried hstart hhandler hattempts hdefers⟩

end Worker

end SiloForge
