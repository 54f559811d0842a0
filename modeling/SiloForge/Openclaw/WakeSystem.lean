import SiloForge.Lib.Machine
import SiloForge.Openclaw.Lifecycle

/-!
# Runs, check-ins and tasks side by side

The requests about an agent and the tasks of the queue about it, in steps with anything in between. Each works on the
copy of the row it has read. A lifecycle run holds the row's lock from its first write to its commit, but keeps working
on the copy it has; other writers wait for the lock, readers do not.

* `AgentJob`, `WakeSystem` : a request or a task between its steps, the committed row and the queue;
* `AgentAction`, `wakeSystemMachine` : the steps;
* `forall_jobs_move`, `forall_jobs_close`, `forall_jobs_fail` : what holds of the jobs once one of them takes a step.
-/

namespace SiloForge

open Lib

/-! ## Jobs -/

/-- What a job is for: a lifecycle run of a request, a task of the queue, a heartbeat, or another
request of the agent. -/
inductive AgentWork where
  | run (options : LifecycleOptions)
  | task (payload : QueuedAgentLifecycleReconcile)
  | heartbeat (byAgent : Bool) (statusValue : Option String)
  | presence

def AgentWork.options : AgentWork → LifecycleOptions
  | .run options => options
  | _ => .ofReconcile

/-- How far a job is: a task is popped; the row is read; the agent is given up; a run has begun and
calls the gateway; it is committed; a task is to be queued; a task has failed. -/
inductive JobStage where
  | popped
  | loaded (agent : AgentRow)
  | givingUp (agent : AgentRow)
  | running (agent : AgentRow) (begun : Time) (minted : Option TokenHash)
  | committed
  | queueing (payload : QueuedAgentLifecycleReconcile)
  | failed

structure AgentJob where
  id : Nat
  work : AgentWork
  stage : JobStage

instance : Keyed AgentJob Nat := ⟨AgentJob.id⟩

/-! ## The system -/

/-- The committed row of an agent, the job that holds its lock, the jobs between their steps and the tasks in the
queue, ready or scheduled; and the generations committed by runs, the last first. -/
structure WakeSystem where
  row : Option AgentRow
  writing : Option Nat := none
  jobs : Table AgentJob := ∅
  queue : List QueuedAgentLifecycleReconcile := []
  generations : List Nat := []

/-- The steps. Where a task reads the row, its gateway and board may be gone; where one is queued, Redis may be. -/
inductive AgentAction where
  | start (id : Nat) (work : AgentWork)
  | pop (id : Nat) (payload : QueuedAgentLifecycleReconcile)
  | read (id : Nat) (now : Time) (reachable stored : Bool)
  | begin (id : Nat) (now : Time) (minted : Option TokenHash)
  | finish (id : Nat) (now : Time) (run : GatewayRun)
  | refresh (id : Nat)
  | interrupt (id : Nat)
  | enqueue (id : Nat) (stored : Bool)
  | giveUp (id : Nat) (now : Time)
  | checkIn (id : Nat) (now : Time)
  | leave (id : Nat)
  | requeue (id : Nat) (stored : Bool)
  | remove

def AgentAction.job? : AgentAction → Option Nat
  | .start id _ | .pop id _ | .read id .. | .begin id .. | .finish id .. | .refresh id | .interrupt id | .enqueue id _
  | .giveUp id _ | .checkIn id _ | .leave id | .requeue id _ => some id
  | .remove => none

def AgentWork.checkedIn (work : AgentWork) (agent : AgentRow) (now : Time) : Option AgentRow :=
  match work with
  | .heartbeat byAgent statusValue =>
    some ((if byAgent then agent.touchAgentPresence now else agent).commitHeartbeat now statusValue)
  | .presence => some (agent.touchAgentPresence now)
  | _ => none

def committedRow (agent : AgentRow) (begun : Time) (options : LifecycleOptions) (minted : Option TokenHash)
    (finished current : AgentRow) : AgentRow :=
  let started := agent.beginLifecycle begun options minted
  finished.writtenOver started (started.writtenOver agent current)

/-- The task a committed run queues, by the row read anew. -/
def AgentRow.reconcileTask (row : AgentRow) (deadline : Time) : QueuedAgentLifecycleReconcile :=
  { agentId := row.id
    gatewayId := row.gatewayId
    boardId := row.boardId
    generation := row.lifecycleGeneration
    checkinDeadlineAt := ⟨deadline, none⟩ }

namespace WakeSystem

def close (s : WakeSystem) (job : AgentJob) : WakeSystem :=
  { s with jobs := s.jobs.deleteWhere fun j => j.id = job.id }

def move (s : WakeSystem) (job : AgentJob) (stage : JobStage) : WakeSystem :=
  { s with jobs := s.jobs.put { job with stage } }

/-- A job raises an exception: a task may be queued again, a request is over. -/
def fail (s : WakeSystem) (job : AgentJob) : WakeSystem :=
  match job.work with
  | .task _ => s.move job .failed
  | _ => s.close job

def push (s : WakeSystem) (stored : Bool) (payload : QueuedAgentLifecycleReconcile) : WakeSystem :=
  if stored then { s with queue := s.queue ++ [payload] } else s

/-- A task has read the row: `process_lifecycle_queue_task` up to its first write. -/
def reconcile (s : WakeSystem) (job : AgentJob) (payload : QueuedAgentLifecycleReconcile) (now : Time)
    (reachable stored : Bool) : WakeSystem :=
  match s.row with
  | none => s.close job
  | some agent =>
    match reconcileDecision agent payload now with
    | .skip => s.close job
    | .defer _ => if stored then (s.close job).push true payload else s.fail job
    | .giveUp => s.move job (.givingUp agent)
    | .repeatRun => if reachable then s.move job (.loaded agent) else s.close job

def conclude (s : WakeSystem) (job : AgentJob) (agent : AgentRow) (begun : Time) (minted : Option TokenHash)
    (current : AgentRow) (now : Time) (run : GatewayRun) : WakeSystem :=
  match (agent.beginLifecycle begun job.work.options minted).finishLifecycle now job.work.options run with
  | none => { s.fail job with writing := none }
  | some finished =>
    let row := committedRow agent begun job.work.options minted finished current
    let s := { s with row := some row, writing := none, generations := row.lifecycleGeneration :: s.generations }
    match run.ending with
    | .done => if job.work.options.wake then s.move job .committed else s.close job
    | .noUrl => s.close job
    | _ => s.fail job

def stepJob (maxRetries : Int) (s : WakeSystem) (job : AgentJob) : AgentAction → Option WakeSystem
  | .read _ now reachable stored =>
    match job.work, job.stage with
    | .task payload, .popped => some (s.reconcile job payload now reachable stored)
    | _, _ => none
  | .begin _ now minted =>
    match job.work, job.stage, s.writing, s.row with
    | .run _, .loaded agent, none, some _ | .task _, .loaded agent, none, some _ =>
      some { s.move job (.running agent now minted) with writing := some job.id }
    | .run _, .loaded _, none, none | .task _, .loaded _, none, none => some (s.fail job)
    | _, _, _, _ => none
  | .finish _ now run =>
    match job.stage, s.row with
    | .running agent begun minted, some current => some (s.conclude job agent begun minted current now run)
    | _, _ => none
  | .refresh _ =>
    match job.stage, s.row with
    | .committed, none => some (s.fail job)
    | .committed, some row =>
      match row.checkinDeadlineAt with
      | some deadline => some (s.move job (.queueing (row.reconcileTask deadline)))
      | none => some (s.close job)
    | _, _ => none
  | .interrupt _ =>
    match job.work, job.stage with
    | .task _, .committed => some (s.fail job)
    | _, _ => none
  | .enqueue _ stored =>
    match job.stage with
    | .queueing payload => some ((s.close job).push stored payload)
    | _ => none
  | .giveUp _ now =>
    match job.stage, s.writing, s.row with
    | .givingUp agent, none, some current =>
      some { s.close job with row := some ((agent.giveUpWaking now).writtenOver agent current) }
    | .givingUp _, none, none => some (s.fail job)
    | _, _, _ => none
  | .checkIn _ now =>
    match job.stage, s.writing with
    | .loaded agent, none => (job.work.checkedIn agent now).map fun new =>
      { s.close job with row := s.row.map fun current => new.writtenOver agent current }
    | _, _ => none
  | .leave _ =>
    match job.stage with
    | .popped | .loaded _ | .givingUp _ => some (s.fail job)
    | _ => none
  | .requeue _ stored =>
    match job.work, job.stage with
    | .task payload, .failed =>
      some ((s.close job).push (stored && decide (payload.attempts + 1 ≤ maxRetries))
        { payload with attempts := payload.attempts + 1 })
    | _, _ => none
  | _ => none

def step (maxRetries : Int) (s : WakeSystem) : AgentAction → Option WakeSystem
  | .start id work =>
    match work, s.row with
    | .task _, _ | _, none => none
    | _, some agent => (s.jobs.insert? { id, work, stage := .loaded agent }).map fun jobs => { s with jobs }
  | .pop id payload =>
    if payload ∈ s.queue then
      (s.jobs.insert? { id, work := .task payload, stage := .popped }).map fun jobs =>
        { s with jobs, queue := s.queue.erase payload }
    else none
  | .remove => if s.writing = none then some { s with row := none } else none
  | action => (action.job?.bind s.jobs.get?).bind fun job => s.stepJob maxRetries job action

end WakeSystem

def wakeSystemMachine (maxRetries : Int) : Machine WakeSystem AgentAction where
  commits s action := (s.step maxRetries action).toList

/-! ## The rows the steps leave -/

section Rows
variable {agent current : AgentRow} {begun now : Time} {options : LifecycleOptions} {minted : Option TokenHash}

theorem committedRow_columns (current : AgentRow) {finished : AgentRow} {run : GatewayRun}
    (h : (agent.beginLifecycle begun options minted).finishLifecycle now options run = some finished) :
    let row := committedRow agent begun options minted finished current
    row.lifecycleGeneration = agent.lifecycleGeneration + 1 ∧ row.lastSeenAt = current.lastSeenAt ∧
      (options.wake = false → row.lastWakeSentAt = current.lastWakeSentAt) := by
  obtain ⟨hgeneration, -, hwoken, hseen, -⟩ := AgentRow.finishLifecycle_eq_some h
  have hnext : agent.lifecycleGeneration + 1 ≠ agent.lifecycleGeneration := Nat.succ_ne_self _
  unfold committedRow AgentRow.writtenOver
  dsimp only
  rw [hgeneration, hwoken, hseen]
  refine ⟨?_, ?_, fun hwake => ?_⟩
  · rw [writtenColumn_unchanged, AgentRow.beginLifecycle_lifecycleGeneration, writtenColumn_of_ne hnext]
  · rw [writtenColumn_unchanged, AgentRow.beginLifecycle_lastSeenAt, writtenColumn_unchanged]
  · rw [writtenColumn_unchanged, AgentRow.beginLifecycle_lastWakeSentAt, hwake, if_neg Bool.false_ne_true,
      writtenColumn_unchanged]

theorem giveUpWaking_columns :
    let row := (agent.giveUpWaking now).writtenOver agent current
    row.lifecycleGeneration = current.lifecycleGeneration ∧ row.lastSeenAt = current.lastSeenAt ∧
      row.lastWakeSentAt = current.lastWakeSentAt := by
  unfold AgentRow.giveUpWaking AgentRow.writtenOver
  dsimp only
  refine ⟨?_, ?_, ?_⟩ <;> rw [writtenColumn_unchanged]

theorem touchAgentPresence_columns (agent : AgentRow) (now : Time) :
    (agent.touchAgentPresence now).lifecycleGeneration = agent.lifecycleGeneration ∧
      (agent.touchAgentPresence now).lastWakeSentAt = agent.lastWakeSentAt := by
  unfold AgentRow.touchAgentPresence
  split <;> exact ⟨rfl, rfl⟩

theorem checkedIn_columns {work : AgentWork} {new : AgentRow} (h : work.checkedIn agent now = some new) :
    let row := new.writtenOver agent current
    row.lifecycleGeneration = current.lifecycleGeneration ∧ row.lastWakeSentAt = current.lastWakeSentAt := by
  have hnew : new.lifecycleGeneration = agent.lifecycleGeneration ∧ new.lastWakeSentAt = agent.lastWakeSentAt := by
    cases work with
    | heartbeat byAgent statusValue =>
      obtain rfl := Option.some.inj h
      cases byAgent with
      | false => exact ⟨rfl, rfl⟩
      | true => exact touchAgentPresence_columns agent now
    | presence =>
      obtain rfl := Option.some.inj h
      exact touchAgentPresence_columns agent now
    | run | task => cases h
  unfold AgentRow.writtenOver
  dsimp only
  rw [hnew.1, hnew.2]
  exact ⟨writtenColumn_unchanged _ _, writtenColumn_unchanged _ _⟩

end Rows

/-! ## The jobs after a step of one of them -/

section Jobs
variable {s : WakeSystem} {job : AgentJob} {P : AgentJob → Prop}

theorem forall_jobs_close (hold : ∀ j ∈ s.jobs, j.id ≠ job.id → P j) : ∀ j ∈ (s.close job).jobs, P j := by
  intro j hj
  obtain ⟨hmem, hid⟩ := Table.mem_deleteWhere.mp hj
  exact hold j hmem (of_decide_eq_false hid)

theorem forall_jobs_move {stage : JobStage} (hnew : P { job with stage }) (hold : ∀ j ∈ s.jobs, j.id ≠ job.id → P j) :
    ∀ j ∈ (s.move job stage).jobs, P j := by
  intro j hj
  rcases Table.mem_put.mp hj with ⟨hmem, hid⟩ | ⟨rfl, -⟩
  · exact hold j hmem hid
  · exact hnew

theorem forall_jobs_fail (hnew : P { job with stage := .failed }) (hold : ∀ j ∈ s.jobs, j.id ≠ job.id → P j) :
    ∀ j ∈ (s.fail job).jobs, P j := by
  unfold WakeSystem.fail
  split
  · exact forall_jobs_move hnew hold
  · exact forall_jobs_close hold

theorem forall_jobs_insert {jobs : Table AgentJob} (h : s.jobs.insert? job = some jobs) (hnew : P job)
    (hold : ∀ j ∈ s.jobs, P j) : ∀ j ∈ jobs, P j := by
  intro j hj
  rcases (Table.mem_insert? h).mp hj with hmem | rfl
  · exact hold j hmem
  · exact hnew

@[simp] theorem fail_row (s : WakeSystem) (job : AgentJob) : (s.fail job).row = s.row := by
  unfold WakeSystem.fail
  split <;> rfl

@[simp] theorem fail_writing (s : WakeSystem) (job : AgentJob) : (s.fail job).writing = s.writing := by
  unfold WakeSystem.fail
  split <;> rfl

@[simp] theorem fail_generations (s : WakeSystem) (job : AgentJob) : (s.fail job).generations = s.generations := by
  unfold WakeSystem.fail
  split <;> rfl

end Jobs

theorem step_eq_some {maxRetries : Int} {s t : WakeSystem} {action : AgentAction}
    (h : s.step maxRetries action = some t) :
    (∃ id work agent, action = .start id work ∧ (∀ p, work ≠ .task p) ∧ s.row = some agent ∧
        ∃ jobs, s.jobs.insert? { id, work, stage := .loaded agent } = some jobs ∧ t = { s with jobs }) ∨
      (∃ id payload, action = .pop id payload ∧ payload ∈ s.queue ∧
        ∃ jobs, s.jobs.insert? { id, work := .task payload, stage := .popped } = some jobs ∧
          t = { s with jobs, queue := s.queue.erase payload }) ∨
      (action = .remove ∧ s.writing = none ∧ t = { s with row := none }) ∨
      ∃ job ∈ s.jobs, action.job? = some job.id ∧ s.stepJob maxRetries job action = some t := by
  unfold WakeSystem.step at h
  split at h
  · rename_i id _
    split at h
    · cases h
    · cases h
    · rename_i work _ _ agent hnot hrow
      obtain ⟨jobs, hjobs, rfl⟩ := Option.map_eq_some_iff.mp h
      exact .inl ⟨id, work, agent, rfl, hnot, hrow, jobs, hjobs, rfl⟩
  · rename_i id payload
    split at h
    · rename_i hmem
      obtain ⟨jobs, hjobs, rfl⟩ := Option.map_eq_some_iff.mp h
      exact .inr (.inl ⟨id, payload, rfl, hmem, jobs, hjobs, rfl⟩)
    · cases h
  · split at h
    · rename_i hwriting
      exact .inr (.inr (.inl ⟨rfl, hwriting, (Option.some.inj h).symm⟩))
    · cases h
  · obtain ⟨job, hjob, hstep⟩ := Option.bind_eq_some_iff.mp h
    obtain ⟨id, hid, hget⟩ := Option.bind_eq_some_iff.mp hjob
    refine .inr (.inr (.inr ⟨job, Table.mem_of_get? hget, ?_, hstep⟩))
    rw [hid, ← Table.key_of_get? hget]
    rfl

/-! ## The steps of a job -/

section JobSteps
variable {maxRetries : Int} {s t : WakeSystem} {job : AgentJob} {id : Nat} {now : Time}

theorem stepJob_read {reachable stored : Bool} (h : s.stepJob maxRetries job (.read id now reachable stored) = some t) :
    ∃ payload, job.work = .task payload ∧ job.stage = .popped ∧ t = s.reconcile job payload now reachable stored := by
  unfold WakeSystem.stepJob at h
  dsimp only at h
  split at h
  · rename_i payload hwork hstage
    exact ⟨payload, hwork, hstage, (Option.some.inj h).symm⟩
  · cases h

theorem stepJob_begin {minted : Option TokenHash} (h : s.stepJob maxRetries job (.begin id now minted) = some t) :
    s.writing = none ∧ ∃ agent, job.stage = .loaded agent ∧
      ((∃ row, s.row = some row ∧ t = { s.move job (.running agent now minted) with writing := some job.id }) ∨
        (s.row = none ∧ t = s.fail job)) := by
  unfold WakeSystem.stepJob at h
  dsimp only at h
  split at h
  · rename_i hstage hwriting hrow
    exact ⟨hwriting, _, hstage, .inl ⟨_, hrow, (Option.some.inj h).symm⟩⟩
  · rename_i hstage hwriting hrow
    exact ⟨hwriting, _, hstage, .inl ⟨_, hrow, (Option.some.inj h).symm⟩⟩
  · rename_i hstage hwriting hrow
    exact ⟨hwriting, _, hstage, .inr ⟨hrow, (Option.some.inj h).symm⟩⟩
  · rename_i hstage hwriting hrow
    exact ⟨hwriting, _, hstage, .inr ⟨hrow, (Option.some.inj h).symm⟩⟩
  · cases h

theorem stepJob_finish {run : GatewayRun} (h : s.stepJob maxRetries job (.finish id now run) = some t) :
    ∃ agent begun minted current, job.stage = .running agent begun minted ∧ s.row = some current ∧
      t = s.conclude job agent begun minted current now run := by
  unfold WakeSystem.stepJob at h
  dsimp only at h
  split at h
  · rename_i hstage hrow
    exact ⟨_, _, _, _, hstage, hrow, (Option.some.inj h).symm⟩
  · cases h

theorem stepJob_refresh (h : s.stepJob maxRetries job (.refresh id) = some t) :
    job.stage = .committed ∧
      ((s.row = none ∧ t = s.fail job) ∨
        ∃ row, s.row = some row ∧
          ((∃ deadline, row.checkinDeadlineAt = some deadline ∧ t = s.move job (.queueing (row.reconcileTask deadline))) ∨
            (row.checkinDeadlineAt = none ∧ t = s.close job))) := by
  unfold WakeSystem.stepJob at h
  dsimp only at h
  split at h
  · rename_i hstage hrow
    exact ⟨hstage, .inl ⟨hrow, (Option.some.inj h).symm⟩⟩
  · rename_i row hstage hrow
    refine ⟨hstage, .inr ⟨row, hrow, ?_⟩⟩
    split at h
    · rename_i deadline hdeadline
      exact .inl ⟨deadline, hdeadline, (Option.some.inj h).symm⟩
    · rename_i hdeadline
      exact .inr ⟨hdeadline, (Option.some.inj h).symm⟩
  · cases h

theorem stepJob_interrupt (h : s.stepJob maxRetries job (.interrupt id) = some t) :
    job.stage = .committed ∧ t = s.fail job := by
  unfold WakeSystem.stepJob at h
  dsimp only at h
  split at h
  · rename_i hstage
    exact ⟨hstage, (Option.some.inj h).symm⟩
  · cases h

theorem stepJob_enqueue {stored : Bool} (h : s.stepJob maxRetries job (.enqueue id stored) = some t) :
    ∃ payload, job.stage = .queueing payload ∧ t = (s.close job).push stored payload := by
  unfold WakeSystem.stepJob at h
  dsimp only at h
  split at h
  · rename_i payload hstage
    exact ⟨payload, hstage, (Option.some.inj h).symm⟩
  · cases h

theorem stepJob_giveUp (h : s.stepJob maxRetries job (.giveUp id now) = some t) :
    s.writing = none ∧ ∃ agent, job.stage = .givingUp agent ∧
      ((∃ current, s.row = some current ∧
          t = { s.close job with row := some ((agent.giveUpWaking now).writtenOver agent current) }) ∨
        (s.row = none ∧ t = s.fail job)) := by
  unfold WakeSystem.stepJob at h
  dsimp only at h
  split at h
  · rename_i hstage hwriting hrow
    exact ⟨hwriting, _, hstage, .inl ⟨_, hrow, (Option.some.inj h).symm⟩⟩
  · rename_i hstage hwriting hrow
    exact ⟨hwriting, _, hstage, .inr ⟨hrow, (Option.some.inj h).symm⟩⟩
  · cases h

theorem stepJob_checkIn (h : s.stepJob maxRetries job (.checkIn id now) = some t) :
    s.writing = none ∧ ∃ agent new, job.stage = .loaded agent ∧ job.work.checkedIn agent now = some new ∧
      t = { s.close job with row := s.row.map fun current => new.writtenOver agent current } := by
  unfold WakeSystem.stepJob at h
  dsimp only at h
  split at h
  · rename_i agent hstage hwriting
    obtain ⟨new, hnew, rfl⟩ := Option.map_eq_some_iff.mp h
    exact ⟨hwriting, agent, new, hstage, hnew, rfl⟩
  · cases h

theorem stepJob_leave (h : s.stepJob maxRetries job (.leave id) = some t) :
    (job.stage = .popped ∨ ∃ agent, job.stage = .loaded agent ∨ job.stage = .givingUp agent) ∧ t = s.fail job := by
  unfold WakeSystem.stepJob at h
  dsimp only at h
  split at h
  · rename_i hstage
    exact ⟨.inl hstage, (Option.some.inj h).symm⟩
  · rename_i hstage
    exact ⟨.inr ⟨_, .inl hstage⟩, (Option.some.inj h).symm⟩
  · rename_i hstage
    exact ⟨.inr ⟨_, .inr hstage⟩, (Option.some.inj h).symm⟩
  · cases h

theorem stepJob_requeue {stored : Bool} (h : s.stepJob maxRetries job (.requeue id stored) = some t) :
    ∃ payload, job.work = .task payload ∧ job.stage = .failed ∧
      t = (s.close job).push (stored && decide (payload.attempts + 1 ≤ maxRetries))
        { payload with attempts := payload.attempts + 1 } := by
  unfold WakeSystem.stepJob at h
  dsimp only at h
  split at h
  · rename_i payload hwork hstage
    exact ⟨payload, hwork, hstage, (Option.some.inj h).symm⟩
  · cases h

end JobSteps

end SiloForge
