import SiloForge.Queue.Worker

/-!
# Popped work is not lost

A task the worker pops is gone from the queue. It was done, or it is queued again, or its attempts were used up; and
it should be one of these only.

* `EndsOnce` : exactly one of the three;
* `RequeueSettles` : the requeue of a failed task is reached and stores or drops it;
* `endsOnce_iff` : a popped task ends once exactly when its type has a handler, a failure reaches the requeue, and a
  success does not.
-/

namespace SiloForge

/-! ## How a task ends -/

/-- A task of the same payload with one more attempt is queued. -/
def RetryQueued (env : QueueEnv) (now : Instant) (b : Broker) (task : QueuedTask) (payload : Decoded) : Prop :=
  ∃ e, b.Holds e ∧ ∃ t, decodeTask env.texts now e = .ok t ∧ t.taskType = task.taskType ∧
    t.attempts = task.attempts + 1 ∧ decodeTyped env.texts now t = .ok payload.retry

def Requeued (env : QueueEnv) (p : Popped) (payload : Decoded) : Prop :=
  p.fate.requeued = some true ∧ RetryQueued env p.circumstances.clock.wall p.fate.broker p.task payload

def Dropped (env : QueueEnv) (p : Popped) : Prop :=
  p.fate.requeued = some false ∧ env.settings.maxRetries ≤ p.task.attempts

/-- Exactly one of: the handler returned, the task is queued again, the task was dropped at the limit. -/
def EndsOnce (env : QueueEnv) (p : Popped) (payload : Decoded) : Prop :=
  (p.fate.handled = true ∧ ¬ Requeued env p payload ∧ ¬ Dropped env p) ∨
  (p.fate.handled = false ∧ Requeued env p payload ∧ ¬ Dropped env p) ∨
  (p.fate.handled = false ∧ ¬ Requeued env p payload ∧ Dropped env p)

/-- The requeue is reached (the telemetry of the failure is written, the delay is a number), and settles the task:
its attempts are used up, or Redis takes it. -/
def RequeueSettles (env : QueueEnv) (task : QueuedTask) (c : Circumstances) : Prop :=
  c.recorded .failed = true ∧ task.attempts < floatExponentLimit ∧
    (env.settings.maxRetries ≤ task.attempts ∨ c.requeueUp = true)

/-- A turn that keeps the task: a failure is settled by the requeue, a success is not requeued. -/
def KeepsTask (env : QueueEnv) (task : QueuedTask) (c : Circumstances) : Prop :=
  task.taskType ≠ TaskType.legacy ∧
    (c.handlerRaises = true → RequeueSettles env task c) ∧
    (c.handlerRaises = false → c.recorded .success = true ∨ ¬ RequeueSettles env task c)

instance (env : QueueEnv) (task : QueuedTask) (c : Circumstances) : Decidable (RequeueSettles env task c) :=
  inferInstanceAs (Decidable (_ ∧ _ ∧ (_ ∨ _)))

instance (env : QueueEnv) (task : QueuedTask) (c : Circumstances) : Decidable (KeepsTask env task c) :=
  inferInstanceAs (Decidable (_ ∧ (_ → _) ∧ (_ → _ ∨ ¬ _)))

/-! ## The requeue -/

theorem taskType_of_decodeTyped {texts : QueueTexts} {now : Instant} {task : QueuedTask} {payload : Decoded}
    (h : decodeTyped texts now task = .ok payload) :
    (taskHandler? task.taskType).isSome ∨ task.taskType = TaskType.legacy := by
  unfold decodeTyped at h
  split at h
  · rename_i htype
    rw [htype]
    exact .inl rfl
  · split at h
    · rename_i htype
      rw [htype]
      exact .inl rfl
    · obtain ⟨p, hp, -⟩ := map_eq_ok.mp h
      obtain ⟨_, htype, -⟩ := bind_eq_ok.mp hp
      rcases require_eq_ok.mp htype with htype | htype
      · rw [htype]
        exact .inl rfl
      · exact .inr htype

def TaskHandler.taskType : TaskHandler → String
  | .lifecycleReconcile => TaskType.agentLifecycleReconcile
  | .webhook => TaskType.webhookDelivery
  | .taskExecutionDispatch => TaskType.taskExecutionDispatch

theorem taskType_of_taskHandler? {taskType : String} {handler : TaskHandler} (h : taskHandler? taskType = some handler) :
    taskType = handler.taskType := by
  unfold taskHandler? at h
  split at h
  · obtain rfl := Option.some.inj h
    assumption
  · split at h
    · obtain rfl := Option.some.inj h
      assumption
    · split at h
      · obtain rfl := Option.some.inj h
        assumption
      · cases h

theorem taskHandler?_legacy : taskHandler? TaskType.legacy = none := by decide

theorem retryQueued_of_holds {env : QueueEnv} {now : Instant} {b : Broker} {task queued : QueuedTask}
    {payload : Decoded} {e : Entry} (htype : queued.taskType = task.taskType)
    (hattempts : queued.attempts = task.attempts)
    (hread : decodeTyped env.texts now (requeueWithAttempt queued).sorted = .ok payload.retry)
    (hjson : (requeueWithAttempt queued).toJson env.texts = .ok e) (hholds : b.Holds e) :
    RetryQueued env now b task payload := by
  refine ⟨e, hholds, _, decodeTask_toJson hjson, htype, ?_, hread⟩
  exact congrArg (· + 1) hattempts

theorem requeueTask_eq {env : QueueEnv} {c : Circumstances} {task : QueuedTask} {payload : Decoded}
    {handler : TaskHandler} (hhandler : taskHandler? task.taskType = some handler)
    (hpayload : decodeTyped env.texts c.clock.wall task = .ok payload) (delay : Seconds) (b : Broker) :
    ∃ queued delay', requeueTask env c task delay b handler =
        requeueIfFailed env c.requeueUp c.requeueNow b queued delay' ∧
      queued.taskType = task.taskType ∧ queued.attempts = task.attempts ∧ (task.Writable → queued.Writable) ∧
      decodeTyped env.texts c.clock.wall (requeueWithAttempt queued).sorted = .ok payload.retry := by
  have htype := taskType_of_taskHandler? hhandler
  cases handler with
  | taskExecutionDispatch =>
    rw [decodeTyped_dispatch htype] at hpayload
    obtain ⟨p, hp, rfl⟩ := map_eq_ok.mp hpayload
    have hsame : (requeueWithAttempt task).sorted.taskType = TaskType.taskExecutionDispatch := htype
    refine ⟨task, max 0 delay, rfl, rfl, rfl, id, ?_⟩
    exact (decodeTyped_dispatch hsame).trans (map_eq_ok.mpr ⟨_, decodeTaskExecutionDispatchTask_retry hp, rfl⟩)
  | lifecycleReconcile =>
    rw [decodeTyped_reconcile htype] at hpayload
    obtain ⟨p, hp, rfl⟩ := map_eq_ok.mp hpayload
    have hsame : (requeueWithAttempt task).sorted.taskType = TaskType.agentLifecycleReconcile := htype
    refine ⟨task, max 0 delay, rfl, rfl, rfl, id, ?_⟩
    exact (decodeTyped_reconcile hsame).trans (map_eq_ok.mpr ⟨_, decodeLifecycleTask_retry hp, rfl⟩)
  | webhook =>
    rw [decodeTyped_delivery htype] at hpayload
    obtain ⟨p, hp, rfl⟩ := map_eq_ok.mp hpayload
    obtain ⟨hattempts, hfits, hwhole⟩ := decodeWebhookTask_eq_ok htype hp
    have hqueued := taskFromDelivery_eq_ok env.texts hwhole
    refine ⟨_, delay, ?_, htype.symm, hattempts, fun h => ⟨hattempts ▸ h.attempts, hwhole⟩,
      (decodeTyped_delivery rfl).trans (map_eq_ok.mpr ⟨_, decodeWebhookTask_retry hfits hqueued, rfl⟩)⟩
    unfold requeueTask
    rw [hp]
    simp only [hqueued, bind, Except.bind]

/-! ## The requeue settles a task, or leaves it -/

variable {env : QueueEnv} {c : Circumstances} {task : QueuedTask} {payload : Decoded} {handler : TaskHandler}

theorem failTask_of_settles (hhandler : taskHandler? task.taskType = some handler)
    (hpayload : decodeTyped env.texts c.clock.wall task = .ok payload) (hwritable : task.Writable)
    (hsettles : RequeueSettles env task c) (handled : Bool) (b : Broker) :
    let fate := failTask env c task handler handled b
    (fate.requeued = some true ∧ RetryQueued env c.clock.wall fate.broker task payload ∧
        task.attempts < env.settings.maxRetries) ∨
      (fate.requeued = some false ∧ env.settings.maxRetries ≤ task.attempts) := by
  obtain ⟨hrecorded, hexponent, hreach⟩ := hsettles
  simp only [failTask, hrecorded, if_true, attemptsToDelay, hexponent]
  set delay := min (env.settings.retryBaseSeconds * 2 ^ (max 0 task.attempts).toNat) env.settings.retryMaxSeconds
  obtain ⟨queued, delay', hrequeue, htype, hattempts, hqueued, hread⟩ :=
    requeueTask_eq hhandler hpayload (delay + computeJitter env delay c.jitter) b
  rw [hrequeue]
  by_cases hlimit : env.settings.maxRetries ≤ task.attempts
  · rw [requeueIfFailed_of_le (hattempts ▸ hlimit)]
    exact .inr ⟨rfl, hlimit⟩
  · have hup : c.requeueUp = true := hreach.resolve_left hlimit
    have hlt : queued.attempts < env.settings.maxRetries := by omega
    obtain ⟨b', hok⟩ : ∃ b', requeueIfFailed env true c.requeueNow b queued delay' = .ok (true, b') :=
      requeueIfFailed_of_up hlt (hqueued hwritable)
    obtain ⟨e, hjson, hholds⟩ := exists_entry_of_requeued hok
    rw [hup, hok]
    exact .inl ⟨rfl, retryQueued_of_holds htype hattempts hread hjson hholds, by omega⟩

theorem failTask_of_not_settles (hhandler : taskHandler? task.taskType = some handler)
    (hpayload : decodeTyped env.texts c.clock.wall task = .ok payload)
    (hsettles : ¬ RequeueSettles env task c) (handled : Bool) (b : Broker) :
    let fate := failTask env c task handler handled b
    fate.requeued ≠ some true ∧ (fate.requeued = some false → task.attempts < env.settings.maxRetries) := by
  by_cases hrecorded : c.recorded .failed = true
  · by_cases hexponent : task.attempts < floatExponentLimit
    · -- the requeue is reached: Redis is not there, and the limit is not reached
      have hlimit : task.attempts < env.settings.maxRetries := by
        by_contra hle
        exact hsettles ⟨hrecorded, hexponent, .inl (not_lt.mp hle)⟩
      have hdown : c.requeueUp = false := by
        cases hup : c.requeueUp with
        | false => rfl
        | true => exact absurd ⟨hrecorded, hexponent, .inr hup⟩ hsettles
      simp only [failTask, hrecorded, if_true, attemptsToDelay, hexponent]
      set delay := min (env.settings.retryBaseSeconds * 2 ^ (max 0 task.attempts).toNat) env.settings.retryMaxSeconds
      obtain ⟨queued, delay', hrequeue, -⟩ :=
        requeueTask_eq hhandler hpayload (delay + computeJitter env delay c.jitter) b
      rw [hrequeue, hdown]
      split
      · exact ⟨nofun, nofun⟩
      · rename_i hok
        exact absurd hok requeueIfFailed_of_down
      · exact ⟨nofun, fun _ => hlimit⟩
    · simp only [failTask, hrecorded, if_true, attemptsToDelay, hexponent, if_false]
      exact ⟨nofun, nofun⟩
  · simp only [failTask, hrecorded]
    exact ⟨nofun, nofun⟩

theorem handled_failTask (handled : Bool) (b : Broker) : (failTask env c task handler handled b).handled = handled := by
  unfold failTask
  split
  · split
    · rfl
    · split <;> rfl
  · rfl

/-! ## Popped tasks -/

theorem writable_of_decodeTask {texts : QueueTexts} {now : Instant} {e : Entry}
    (h : decodeTask texts now e = .ok task) (htype : task.taskType ≠ TaskType.legacy) : task.Writable := by
  cases e with
  | other text => cases h
  | json document =>
    cases document with
    | obj fields =>
      rw [decodeTask] at h
      split at h
      · obtain ⟨n, -, ht⟩ := bind_eq_ok.mp h
        obtain rfl := pure_eq_ok.mp ht
        exact absurd rfl htype
      · exact writable_of_parse h
    | _ => cases h

theorem endsOnce_of_settled {p : Popped}
    (h : (Requeued env p payload ∧ ¬ Dropped env p) ∨ (¬ Requeued env p payload ∧ Dropped env p)) :
    EndsOnce env p payload ↔ p.fate.handled = false := by
  unfold EndsOnce
  cases hhandled : p.fate.handled with
  | false => rcases h with ⟨hr, hd⟩ | ⟨hr, hd⟩ <;> simp [hr, hd]
  | true => rcases h with ⟨hr, hd⟩ | ⟨hr, hd⟩ <;> simp [hr, hd]

theorem endsOnce_of_left {p : Popped} (hr : ¬ Requeued env p payload) (hd : ¬ Dropped env p) :
    EndsOnce env p payload ↔ p.fate.handled = true := by
  unfold EndsOnce
  simp [hr, hd]

theorem flushTask_of_none (h : taskHandler? task.taskType = none) (b : Broker) :
    (flushTask env c task b).handled = false ∧ (flushTask env c task b).requeued = none := by
  unfold flushTask
  rw [h]
  exact ⟨rfl, rfl⟩

theorem flushTask_of_success (hhandler : taskHandler? task.taskType = some handler)
    (hpayload : decodeTyped env.texts c.clock.wall task = .ok payload) (hraises : c.handlerRaises = false)
    (hrecorded : c.recorded .success = true) (b : Broker) :
    flushTask env c task b = { broker := c.handlerWrites b, handled := true } := by
  unfold flushTask runHandler
  rw [hhandler, hpayload]
  simp only [hraises, hrecorded, Bool.not_false, and_self, if_true]

theorem flushTask_of_failure (hhandler : taskHandler? task.taskType = some handler)
    (hpayload : decodeTyped env.texts c.clock.wall task = .ok payload)
    (hfails : ¬ (c.handlerRaises = false ∧ c.recorded .success = true)) (b : Broker) :
    flushTask env c task b = failTask env c task handler (!c.handlerRaises) (c.handlerWrites b) := by
  unfold flushTask runHandler
  rw [hhandler, hpayload]
  have hcond : ¬ ((!c.handlerRaises) = true ∧ c.recorded .success = true) := by
    rwa [Bool.not_eq_true']
  simp only [hcond, if_false]

/-- **A popped task of an accepted payload ends once** exactly when its turn keeps it. -/
theorem endsOnce_iff {block : Bool} {cs : List Circumstances} {b : Broker} {p : Popped}
    (hp : p ∈ (flushQueue env block 0 cs b).popped)
    (hpayload : decodeTyped env.texts p.circumstances.clock.wall p.task = .ok payload) :
    EndsOnce env p payload ↔ KeepsTask env p.task p.circumstances := by
  obtain ⟨⟨e, hentry⟩, b', hfate⟩ := mem_popped_flushQueue hp
  unfold KeepsTask
  cases hhandler : taskHandler? p.task.taskType with
  | none =>
    -- a legacy task: nothing runs, nothing is queued
    have hlegacy : p.task.taskType = TaskType.legacy :=
      (taskType_of_decodeTyped hpayload).resolve_left (by rw [hhandler]; exact Bool.false_ne_true)
    obtain ⟨hhandled, hrequeued⟩ := flushTask_of_none (c := p.circumstances) hhandler b'
    rw [← hfate] at hhandled hrequeued
    have hr : ¬ Requeued env p payload := fun h => by cases hrequeued.symm.trans h.1
    have hd : ¬ Dropped env p := fun h => by cases hrequeued.symm.trans h.1
    rw [endsOnce_of_left hr hd, hhandled]
    exact ⟨nofun, fun h => absurd hlegacy h.1⟩
  | some handler =>
    have htype : p.task.taskType ≠ TaskType.legacy := by
      intro hlegacy
      rw [hlegacy, taskHandler?_legacy] at hhandler
      cases hhandler
    have hwritable := writable_of_decodeTask hentry htype
    by_cases hsuccess : p.circumstances.handlerRaises = false ∧ p.circumstances.recorded .success = true
    · -- the handler returned, and nothing raised after it
      have hturn := hfate.trans (flushTask_of_success hhandler hpayload hsuccess.1 hsuccess.2 b')
      have hr : ¬ Requeued env p payload := fun h => by rw [Requeued, hturn] at h; cases h.1
      have hd : ¬ Dropped env p := fun h => by rw [Dropped, hturn] at h; cases h.1
      rw [endsOnce_of_left hr hd, hturn]
      have hreturned : p.circumstances.handlerRaises ≠ true := by rw [hsuccess.1]; exact Bool.false_ne_true
      exact ⟨fun _ => ⟨htype, fun h => absurd h hreturned, fun _ => .inl hsuccess.2⟩, fun _ => rfl⟩
    · have hturn := hfate.trans (flushTask_of_failure hhandler hpayload hsuccess b')
      have hhandled : p.fate.handled = !p.circumstances.handlerRaises := by rw [hturn, handled_failTask]
      by_cases hsettles : RequeueSettles env p.task p.circumstances
      · have hsettled := failTask_of_settles hhandler hpayload hwritable hsettles (!p.circumstances.handlerRaises)
          (p.circumstances.handlerWrites b')
        rw [← hturn] at hsettled
        have hone : (Requeued env p payload ∧ ¬ Dropped env p) ∨ (¬ Requeued env p payload ∧ Dropped env p) := by
          rcases hsettled with ⟨hrequeued, hqueued, hlt⟩ | ⟨hrequeued, hle⟩
          · exact .inl ⟨⟨hrequeued, hqueued⟩, fun hd => absurd hd.2 (not_le.mpr hlt)⟩
          · exact .inr ⟨fun hr => (by cases hrequeued.symm.trans hr.1), hrequeued, hle⟩
        rw [endsOnce_of_settled hone, hhandled]
        cases hraises : p.circumstances.handlerRaises with
        | true => exact ⟨fun _ => ⟨htype, fun _ => hsettles, nofun⟩, fun _ => rfl⟩
        | false =>
          refine ⟨nofun, fun h => ?_⟩
          have hrecorded := (h.2.2 rfl).resolve_right (not_not.mpr hsettles)
          exact absurd ⟨hraises, hrecorded⟩ hsuccess
      · obtain ⟨hnotTrue, hfalse⟩ := failTask_of_not_settles hhandler hpayload hsettles
          (!p.circumstances.handlerRaises) (p.circumstances.handlerWrites b')
        rw [← hturn] at hnotTrue hfalse
        have hr : ¬ Requeued env p payload := fun h => hnotTrue h.1
        have hd : ¬ Dropped env p := fun h => absurd h.2 (not_le.mpr (hfalse h.1))
        rw [endsOnce_of_left hr hd, hhandled]
        cases p.circumstances.handlerRaises with
        | true => exact ⟨nofun, fun h => absurd (h.2.1 rfl) hsettles⟩
        | false => exact ⟨fun _ => ⟨htype, nofun, fun _ => .inr hsettles⟩, fun _ => rfl⟩

/-! ## A task whose handler raises -/

namespace Sample

def dispatchPayload : Decoded := .dispatch { organizationId := 1, boardId := 2, taskId := 3, runId := 4 }

def dispatchQueue : Broker where
  ready := [.json (.obj [("attempts", .int 0), ("created_at", .str "2026-01-01T00:00:00Z"),
    ("payload", .obj dispatchTask.payload), ("task_type", .str TaskType.taskExecutionDispatch)])]

def raising (recorded : Bool) : Circumstances where
  clock := { now := 0, later := 0, wall := newYear.micros }
  handlerRaises := true
  recorded _ := recorded

def poppedDispatch (recorded : Bool) : Popped where
  circumstances := raising recorded
  task := dispatchTask
  fate := flushTask queueEnv (raising recorded) dispatchTask {}

end Sample

theorem endsOnce_iff_raising : EndsOnce Sample.queueEnv (Sample.poppedDispatch true) Sample.dispatchPayload := by
  have hp : Sample.poppedDispatch true ∈
      (flushQueue Sample.queueEnv false 0 [Sample.raising true] Sample.dispatchQueue).popped := by
    with_unfolding_all exact List.mem_cons_self
  exact (endsOnce_iff hp rfl).mpr (by decide)

/-- A task whose handler raises while the database takes no telemetry is gone. -/
theorem not_endsOnce :
    ¬ ∀ (env : QueueEnv) (block : Bool) (cs : List Circumstances) (b : Broker),
      ∀ p ∈ (flushQueue env block 0 cs b).popped, ∀ payload,
        decodeTyped env.texts p.circumstances.clock.wall p.task = .ok payload → EndsOnce env p payload := by
  intro h
  have hends := h Sample.queueEnv false [Sample.raising false] Sample.dispatchQueue (Sample.poppedDispatch false)
    (List.mem_singleton.mpr rfl) Sample.dispatchPayload rfl
  have hhandled : (Sample.poppedDispatch false).fate.handled = false := rfl
  have hrequeued : (Sample.poppedDispatch false).fate.requeued = none := rfl
  rcases hends with ⟨hends, -, -⟩ | ⟨-, hends, -⟩ | ⟨-, -, hends⟩
  · cases hhandled.symm.trans hends
  · cases hrequeued.symm.trans hends.1
  · cases hrequeued.symm.trans hends.1

end SiloForge
