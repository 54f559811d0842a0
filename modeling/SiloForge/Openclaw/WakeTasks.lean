import SiloForge.Openclaw.WakeSystem

/-!
# The tasks of woken agents

A committed run that woke the agent queues a task with the agent's generation, by which the wake is repeated. The task
is lost where the run is committed though its calls fail, where Redis does not take it, or where nobody queues one for
the generation a run without a wake commits.

* `AwaitsTask`, `TaskQueued` : an agent needs a task; one with its generation is in the queue;
* `Carries`, `TaskKept` : a job has popped such a task, or is about to queue it; it is in the queue, or a job has it;
* `KeepsWakeTask` : the steps after which a needed task is still there;
* `wakesTasked` : in every run of such steps the task is in the queue or in hand.
-/

namespace SiloForge

open Lib

/-! ## Needed tasks -/

/-- The agent was woken, has not checked in since, and is neither offline nor being deleted. -/
def AgentRow.AwaitsTask (agent : AgentRow) : Prop :=
  agent.awaitsCheckin = true ∧ agent.status ≠ "offline" ∧ agent.status ≠ "deleting"

instance (agent : AgentRow) : Decidable agent.AwaitsTask :=
  inferInstanceAs (Decidable (agent.awaitsCheckin = true ∧ agent.status ≠ "offline" ∧ agent.status ≠ "deleting"))

def Needs (s : WakeSystem) (generation : Int) : Prop :=
  ∃ row, s.row = some row ∧ row.AwaitsTask ∧ (row.lifecycleGeneration : Int) = generation

def InQueue (s : WakeSystem) (generation : Int) : Prop := ∃ payload ∈ s.queue, payload.generation = generation

/-- A job has popped a task of a generation, or is about to queue one; a committed run queues one of the generation
the row has by then. -/
def AgentJob.Carries (job : AgentJob) (generation : Int) : Prop :=
  match job.stage with
  | .committed => True
  | .queueing payload => payload.generation = generation
  | _ => ∃ payload, job.work = .task payload ∧ payload.generation = generation

def JobStage.queues : JobStage → Bool
  | .committed | .queueing _ => true
  | _ => false

def InHand (s : WakeSystem) (generation : Int) : Prop := ∃ job ∈ s.jobs, job.Carries generation

def TaskQueued (s : WakeSystem) : Prop := ∀ generation, Needs s generation → InQueue s generation

def TaskHeld (s : WakeSystem) (generation : Int) : Prop := InQueue s generation ∨ InHand s generation

def TaskKept (s : WakeSystem) : Prop := ∀ generation, Needs s generation → TaskHeld s generation

theorem TaskKept.taskQueued {s : WakeSystem} (h : TaskKept s) (hjobs : s.jobs = ∅) : TaskQueued s := by
  intro generation hneeds
  rcases h generation hneeds with hqueue | ⟨job, hjob, -⟩
  · exact hqueue
  · rw [hjobs] at hjob
    exact absurd hjob (Table.not_mem_empty job)

/-- A needed task is not lost: the gateway and the board of the agent are there when it is due; a
run that woke the agent succeeds or is rolled back; a needed task is stored in Redis; an agent that
waits has its deadline when the row is read anew, within the worker's time; an agent given up has
not come back online; a check-in is not older than the last wake. -/
def KeepsWakeTask (maxRetries : Int) (s : WakeSystem) : AgentAction → Prop
  | .read id now reachable _ => ∀ job, s.jobs.get? id = some job → ∀ payload, job.work = .task payload →
    ∀ row, s.row = some row → row.AwaitsTask → reconcileDecision row payload now = .repeatRun → reachable = true
  | .finish id _ run => ∀ job, s.jobs.get? id = some job →
    run.ending = .cut ∨ (job.work.options.wake = true ∧ run.ending = .done) ∨
      (job.work.options.wake = false ∧ ∀ row, s.row = some row → row.awaitsCheckin = false)
  | .refresh _ => ∀ row, s.row = some row → row.AwaitsTask → row.checkinDeadlineAt ≠ none
  | .interrupt _ => ∀ row, s.row = some row → ¬ row.AwaitsTask
  | .enqueue id stored => ∀ job, s.jobs.get? id = some job → ∀ payload, job.stage = .queueing payload →
    Needs s payload.generation → stored = true
  | .requeue id stored => ∀ job, s.jobs.get? id = some job → ∀ payload, job.work = .task payload →
    Needs s payload.generation → stored = true ∧ payload.attempts + 1 ≤ maxRetries
  | .giveUp id _ => ∀ job, s.jobs.get? id = some job → ∀ agent, job.stage = .givingUp agent → agent.status = "offline" →
    ∀ payload, job.work = .task payload → ¬ Needs s payload.generation
  | .checkIn id now => ∀ job, s.jobs.get? id = some job → ∀ agent, job.stage = .loaded agent →
    ∀ row, s.row = some row → ¬ row.AwaitsTask → (job.work = .presence → agent.seenRecently now = false) →
      (∀ woken, row.lastWakeSentAt = some woken → woken ≤ now) ∧
        (agent.lastSeenAt = some now → row.lastSeenAt = some now)
  | _ => True

variable {maxRetries : Int} {s t : WakeSystem} {job : AgentJob} {generation : Int}

/-! ## The task of a generation after a move of a job -/

theorem TaskHeld.close (hjob : job ∈ s.jobs) (hnot : ¬ job.Carries generation) (h : TaskHeld s generation) :
    TaskHeld (s.close job) generation := by
  rcases h with hqueue | ⟨j, hj, hcarries⟩
  · exact .inl hqueue
  · refine .inr ⟨j, Table.mem_deleteWhere.mpr ⟨hj, decide_eq_false fun hid => hnot ?_⟩, hcarries⟩
    obtain rfl : j = job := Table.eq_of_key_eq hj hjob hid
    exact hcarries

theorem inHand_move {stage : JobStage} (hjob : job ∈ s.jobs)
    (hnew : AgentJob.Carries { job with stage } generation) : InHand (s.move job stage) generation := by
  refine ⟨_, Table.mem_put.mpr (.inr ⟨rfl, ?_⟩), hnew⟩
  have hget : s.jobs.get? job.id = some job := Table.get?_key hjob
  show (s.jobs.get? job.id).isSome = true
  rw [hget]
  rfl

theorem TaskHeld.move {stage : JobStage} (hjob : job ∈ s.jobs)
    (hkeep : job.Carries generation → AgentJob.Carries { job with stage } generation) (h : TaskHeld s generation) :
    TaskHeld (s.move job stage) generation := by
  rcases h with hqueue | ⟨j, hj, hcarries⟩
  · exact .inl hqueue
  · by_cases hid : j.id = job.id
    · obtain rfl : j = job := Table.eq_of_key_eq hj hjob hid
      exact .inr (inHand_move hjob (hkeep hcarries))
    · exact .inr ⟨j, Table.mem_put.mpr (.inl ⟨hj, hid⟩), hcarries⟩

theorem TaskHeld.fail (hjob : job ∈ s.jobs)
    (htask : job.Carries generation → ∃ payload, job.work = .task payload ∧ payload.generation = generation)
    (h : TaskHeld s generation) : TaskHeld (s.fail job) generation := by
  unfold WakeSystem.fail
  split
  · exact h.move hjob htask
  · rename_i hwork
    refine h.close hjob fun hcarries => ?_
    obtain ⟨payload, hpayload, -⟩ := htask hcarries
    exact hwork payload hpayload

theorem TaskHeld.push (h : TaskHeld s generation) (stored : Bool) (payload : QueuedAgentLifecycleReconcile) :
    TaskHeld (s.push stored payload) generation := by
  unfold WakeSystem.push
  split
  · refine h.imp_left fun ⟨p, hp, hg⟩ => ⟨p, List.mem_append_left _ hp, hg⟩
  · exact h

theorem kept_push (s : WakeSystem) (payload : QueuedAgentLifecycleReconcile) :
    TaskHeld (s.push true payload) payload.generation :=
  .inl ⟨payload, List.mem_append_right _ (List.mem_singleton_self _), rfl⟩

variable {payload : QueuedAgentLifecycleReconcile} {agent : AgentRow}

theorem TaskHeld.closePush {stored : Bool} (hjob : job ∈ s.jobs)
    (hcarries : job.Carries generation → payload.generation = generation)
    (hstored : payload.generation = generation → stored = true) (h : TaskHeld s generation) :
    TaskHeld ((s.close job).push stored payload) generation := by
  by_cases hg : payload.generation = generation
  · rw [hstored hg, ← hg]
    exact kept_push _ payload
  · exact (h.close hjob fun hc => hg (hcarries hc)).push _ _

/-! ## The rows that need a task -/

section Rows
variable {agent current row : AgentRow} {now : Time}

theorem awaitsCheckin_congr (hwoken : row.lastWakeSentAt = current.lastWakeSentAt)
    (hseen : row.lastSeenAt = current.lastSeenAt) : row.awaitsCheckin = current.awaitsCheckin := by
  unfold AgentRow.awaitsCheckin AgentRow.hasCheckedInSinceWake
  rw [hwoken, hseen]

theorem awaitsCheckin_of_seen (hseen : row.lastSeenAt = some now)
    (hwoken : ∀ woken, row.lastWakeSentAt = some woken → woken ≤ now) : row.awaitsCheckin = false := by
  unfold AgentRow.awaitsCheckin AgentRow.hasCheckedInSinceWake
  rw [hseen]
  cases hwake : row.lastWakeSentAt with
  | none => rfl
  | some woken => simp [hwoken woken hwake]

theorem writtenOver_self (agent current : AgentRow) : agent.writtenOver agent current = current := by
  unfold AgentRow.writtenOver
  simp only [writtenColumn_unchanged]

theorem awaitsTask_of_giveUp (h : ((agent.giveUpWaking now).writtenOver agent current).AwaitsTask) :
    agent.status = "offline" ∧ current.AwaitsTask := by
  obtain ⟨hawaits, hoffline, hdeleting⟩ := h
  obtain ⟨-, hseen, hwoken⟩ := @giveUpWaking_columns agent current now
  rw [awaitsCheckin_congr hwoken hseen] at hawaits
  by_cases hstatus : agent.status = "offline"
  · have hsame : ((agent.giveUpWaking now).writtenOver agent current).status = current.status := by
      show writtenColumn agent.status "offline" current.status = current.status
      rw [hstatus, writtenColumn_unchanged]
    rw [hsame] at hoffline hdeleting
    exact ⟨hstatus, hawaits, hoffline, hdeleting⟩
  · refine absurd ?_ hoffline
    show writtenColumn agent.status "offline" current.status = "offline"
    exact writtenColumn_of_ne (Ne.symm hstatus) _

theorem checkedIn_lastSeenAt {work : AgentWork} {new : AgentRow} (h : work.checkedIn agent now = some new) :
    (work = .presence ∧ agent.seenRecently now = true ∧ new = agent) ∨
      (work = .presence → agent.seenRecently now = false) ∧ new.lastSeenAt = some now := by
  cases work with
  | heartbeat byAgent statusValue =>
    obtain rfl := Option.some.inj h
    exact .inr ⟨fun hwork => (nomatch hwork), rfl⟩
  | presence =>
    obtain rfl := Option.some.inj h
    unfold AgentRow.touchAgentPresence
    cases hrecent : agent.seenRecently now with
    | true => exact .inl ⟨rfl, rfl, rfl⟩
    | false => exact .inr ⟨fun _ => rfl, rfl⟩
  | run | task => cases h

theorem awaitsTask_of_checkedIn {work : AgentWork} {new : AgentRow} (hnew : work.checkedIn agent now = some new)
    (hlate : ¬ current.AwaitsTask → (work = .presence → agent.seenRecently now = false) →
      (∀ woken, current.lastWakeSentAt = some woken → woken ≤ now) ∧
        (agent.lastSeenAt = some now → current.lastSeenAt = some now))
    (h : (new.writtenOver agent current).AwaitsTask) : current.AwaitsTask := by
  rcases checkedIn_lastSeenAt hnew with ⟨-, -, rfl⟩ | ⟨hnoted, hseen⟩
  · rwa [writtenOver_self] at h
  by_contra hnot
  obtain ⟨hwoken, hsame⟩ := hlate hnot hnoted
  have hnow : (new.writtenOver agent current).lastSeenAt = some now := by
    show writtenColumn agent.lastSeenAt new.lastSeenAt current.lastSeenAt = some now
    rw [hseen]
    by_cases hcopy : agent.lastSeenAt = some now
    · rw [hcopy, writtenColumn_unchanged, hsame hcopy]
    · exact writtenColumn_of_ne (Ne.symm hcopy) _
  have hawaits := h.1
  rw [awaitsCheckin_of_seen hnow fun woken hw => hwoken woken ((checkedIn_columns hnew).2 ▸ hw)] at hawaits
  cases hawaits

end Rows

/-! ## One step -/

theorem TaskKept.of_unchanged (hkept : TaskKept s) (hrow : t.row = s.row)
    (hmoved : ∀ generation, Needs s generation → TaskHeld s generation → TaskHeld t generation) : TaskKept t := by
  intro generation hneeds
  unfold Needs at hneeds
  rw [hrow] at hneeds
  exact hmoved generation hneeds (hkept generation hneeds)

theorem AgentJob.Carries.task (h : job.Carries generation) (hstage : job.stage.queues = false) :
    ∃ payload, job.work = .task payload ∧ payload.generation = generation := by
  unfold AgentJob.Carries at h
  split at h
  · rename_i hcommitted
    rw [hcommitted] at hstage
    cases hstage
  · rename_i payload hqueueing
    rw [hqueueing] at hstage
    cases hstage
  · exact h

variable {now : Time}

theorem reconcileDecision_ne_skip (hgeneration : payload.generation = agent.lifecycleGeneration)
    (hawaits : agent.AwaitsTask) : reconcileDecision agent payload now ≠ .skip := by
  obtain ⟨hwoken, -, hdeleting⟩ := hawaits
  have hseen : agent.hasCheckedInSinceWake = false := by
    unfold AgentRow.awaitsCheckin at hwoken
    simpa using (Bool.and_eq_true_iff.mp hwoken).2
  unfold reconcileDecision
  dsimp only
  rw [if_neg (not_not.mpr hgeneration.symm), hseen, if_neg Bool.false_ne_true, if_neg hdeleting]
  split
  · exact ReconcileDecision.noConfusion
  · split <;> exact ReconcileDecision.noConfusion

theorem kept_reconcile {reachable stored : Bool}
    (hkept : TaskKept s) (hjob : job ∈ s.jobs) (hwork : job.work = .task payload) (hstage : job.stage = .popped)
    (hkeeps : ∀ row, s.row = some row → row.AwaitsTask → reconcileDecision row payload now = .repeatRun →
      reachable = true) : TaskKept (s.reconcile job payload now reachable stored) := by
  -- the job has the task of its payload, and no other
  have hcarries : ∀ g, job.Carries g → payload.generation = g := by
    intro g hc
    obtain ⟨p, hp, hg⟩ := hc.task (by rw [hstage]; rfl)
    obtain rfl : payload = p := AgentWork.task.inj (hwork.symm.trans hp)
    exact hg
  have htask : ∀ g, job.Carries g → ∃ p, job.work = .task p ∧ p.generation = g :=
    fun g hc => ⟨payload, hwork, hcarries g hc⟩
  unfold WakeSystem.reconcile
  split
  · rename_i hrow
    exact hkept.of_unchanged rfl fun g ⟨row, hr, _⟩ => by rw [hrow] at hr; cases hr
  rename_i agent hrow
  have hneeded : ∀ g, Needs s g → agent.AwaitsTask ∧ (agent.lifecycleGeneration : Int) = g := by
    rintro g ⟨row, hr, hawaits, hg⟩
    obtain rfl := Option.some.inj (hrow.symm.trans hr)
    exact ⟨hawaits, hg⟩
  split
  · rename_i hdecision
    refine hkept.of_unchanged rfl fun g hneeds hk => hk.close hjob fun hc => ?_
    obtain ⟨hawaits, hg⟩ := hneeded g hneeds
    exact reconcileDecision_ne_skip ((hcarries g hc).trans hg.symm) hawaits hdecision
  · split
    · exact hkept.of_unchanged rfl fun g _ hk => hk.closePush hjob (hcarries g) fun _ => rfl
    · exact hkept.of_unchanged (fail_row s job) fun g _ hk => hk.fail hjob (htask g)
  · exact hkept.of_unchanged rfl fun g _ hk => hk.move hjob (htask g)
  · rename_i hdecision
    split
    · exact hkept.of_unchanged rfl fun g _ hk => hk.move hjob (htask g)
    · rename_i hgone
      refine hkept.of_unchanged rfl fun g hneeds hk => hk.close hjob fun _ => hgone ?_
      exact hkeeps agent hrow (hneeded g hneeds).1 hdecision

/-- **The commit of a run** that woke the agent leaves the job to queue the task; a run without a wake leaves nobody
waiting. -/
theorem kept_conclude {current : AgentRow} {begun : Time} {minted : Option TokenHash} {run : GatewayRun}
    (hkept : TaskKept s) (hjob : job ∈ s.jobs) (hstage : job.stage = .running agent begun minted)
    (hrow : s.row = some current) (hkeeps : run.ending = .cut ∨ (job.work.options.wake = true ∧ run.ending = .done) ∨
      (job.work.options.wake = false ∧ ∀ row, s.row = some row → row.awaitsCheckin = false)) :
    TaskKept (s.conclude job agent begun minted current now run) := by
  have htask : ∀ g, job.Carries g → ∃ p, job.work = .task p ∧ p.generation = g :=
    fun g hc => hc.task (by rw [hstage]; rfl)
  unfold WakeSystem.conclude
  split
  · exact hkept.of_unchanged (fail_row s job) fun g _ hk => hk.fail hjob (htask g)
  rename_i finished hfinished
  have hnobody : job.work.options.wake = false ∧ (∀ row, s.row = some row → row.awaitsCheckin = false) →
      ∀ t : WakeSystem, t.row = some (committedRow agent begun job.work.options minted finished current) →
        TaskKept t := by
    rintro ⟨hwake, hnone⟩ t ht g ⟨row, hr, hawaits, -⟩
    obtain rfl := Option.some.inj (ht.symm.trans hr)
    obtain ⟨-, hseen, hwoken⟩ := committedRow_columns current hfinished
    have hawaits := hawaits.1
    rw [awaitsCheckin_congr (hwoken hwake) hseen, hnone current hrow] at hawaits
    cases hawaits
  have hcommits : run.ending ≠ .cut := (AgentRow.finishLifecycle_eq_some hfinished).2.2.2.2
  rcases hkeeps with hcut | ⟨hwake, hdone⟩ | hnone
  · exact absurd hcut hcommits
  · dsimp only
    rw [hdone, if_pos hwake]
    exact fun g _ => .inr (inHand_move hjob trivial)
  · dsimp only
    split
    · rw [if_neg (by rw [hnone.1]; exact Bool.false_ne_true)]
      exact hnobody hnone _ rfl
    · exact hnobody hnone _ rfl
    · exact hnobody hnone _ (fail_row _ _)

/-! ## Steps -/

theorem kept_popped {id : Nat} {jobs : Table AgentJob} (hkept : TaskKept s)
    (hinsert : s.jobs.insert? { id, work := .task payload, stage := .popped } = some jobs) :
    TaskKept { s with queue := s.queue.erase payload, jobs } := by
  refine hkept.of_unchanged rfl fun g _ hk => ?_
  rcases hk with ⟨p, hp, hg⟩ | ⟨j, hj, hc⟩
  · by_cases hsame : p = payload
    · exact .inr ⟨_, (Table.mem_insert? hinsert).mpr (.inr rfl), payload, rfl, hsame ▸ hg⟩
    · exact .inl ⟨p, (List.mem_erase_of_ne hsame).mpr hp, hg⟩
  · exact .inr ⟨j, (Table.mem_insert? hinsert).mpr (.inl hj), hc⟩

section Job
variable (hkept : TaskKept s) (hjob : job ∈ s.jobs)
include hjob

theorem kept_refresh (hkeeps : ∀ row, s.row = some row → row.AwaitsTask → row.checkinDeadlineAt ≠ none)
    (hstep : s.stepJob maxRetries job (.refresh job.id) = some t) : TaskKept t := by
  obtain ⟨-, ⟨hrow, rfl⟩ | ⟨row, hrow, ⟨deadline, -, rfl⟩ | ⟨hdeadline, rfl⟩⟩⟩ := stepJob_refresh hstep
  · rintro g ⟨row, hr, -⟩
    rw [fail_row, hrow] at hr
    cases hr
  · rintro g ⟨row', hr, -, hg⟩
    obtain rfl : row = row' := Option.some.inj (hrow.symm.trans hr)
    exact .inr (inHand_move hjob hg)
  · rintro g ⟨row', hr, hawaits, -⟩
    obtain rfl : row = row' := Option.some.inj (hrow.symm.trans hr)
    exact absurd hdeadline (hkeeps row hrow hawaits)

include hkept

theorem kept_enqueue {stored : Bool} (hkeeps : KeepsWakeTask maxRetries s (.enqueue job.id stored))
    (hstep : s.stepJob maxRetries job (.enqueue job.id stored) = some t) : TaskKept t := by
  obtain ⟨payload, hstage, rfl⟩ := stepJob_enqueue hstep
  refine hkept.of_unchanged (by unfold WakeSystem.push; split <;> rfl) fun g hneeds hk => hk.closePush hjob ?_ ?_
  · intro hc
    unfold AgentJob.Carries at hc
    rwa [hstage] at hc
  · rintro rfl
    exact hkeeps job (Table.get?_key hjob) payload hstage hneeds

theorem kept_giveUp (hkeeps : KeepsWakeTask maxRetries s (.giveUp job.id now))
    (hstep : s.stepJob maxRetries job (.giveUp job.id now) = some t) : TaskKept t := by
  obtain ⟨-, agent, hstage, ⟨current, hrow, rfl⟩ | ⟨hrow, rfl⟩⟩ := stepJob_giveUp hstep
  · rintro g ⟨row, hr, hawaits, hg⟩
    obtain rfl := Option.some.inj hr
    obtain ⟨hoffline, hcurrent⟩ := awaitsTask_of_giveUp hawaits
    have hneeds : Needs s g := ⟨current, hrow, hcurrent, (@giveUpWaking_columns agent current now).1 ▸ hg⟩
    refine (hkept g hneeds).close hjob fun hc => ?_
    obtain ⟨payload, hwork, rfl⟩ := hc.task (by rw [hstage]; rfl)
    exact hkeeps job (Table.get?_key hjob) agent hstage hoffline payload hwork hneeds
  · rintro g ⟨row, hr, -⟩
    rw [fail_row, hrow] at hr
    cases hr

theorem kept_checkIn (hkeeps : KeepsWakeTask maxRetries s (.checkIn job.id now))
    (hstep : s.stepJob maxRetries job (.checkIn job.id now) = some t) : TaskKept t := by
  obtain ⟨-, agent, new, hstage, hnew, rfl⟩ := stepJob_checkIn hstep
  rintro g ⟨row, hr, hawaits, hg⟩
  obtain ⟨current, hrow, rfl⟩ := Option.map_eq_some_iff.mp hr
  have hcurrent := awaitsTask_of_checkedIn hnew (hkeeps job (Table.get?_key hjob) agent hstage current hrow) hawaits
  have hneeds : Needs s g := ⟨current, hrow, hcurrent, (checkedIn_columns hnew).1 ▸ hg⟩
  refine (hkept g hneeds).close hjob fun hc => ?_
  -- a job that checks in has no task
  obtain ⟨payload, hwork, -⟩ := hc.task (by rw [hstage]; rfl)
  rw [hwork] at hnew
  cases hnew

theorem kept_requeue {stored : Bool} (hkeeps : KeepsWakeTask maxRetries s (.requeue job.id stored))
    (hstep : s.stepJob maxRetries job (.requeue job.id stored) = some t) : TaskKept t := by
  obtain ⟨payload, hwork, hstage, rfl⟩ := stepJob_requeue hstep
  refine hkept.of_unchanged (by unfold WakeSystem.push; split <;> rfl) fun g hneeds hk => hk.closePush hjob ?_ ?_
  · intro hc
    obtain ⟨p, hp, hg⟩ := hc.task (by rw [hstage]; rfl)
    obtain rfl : payload = p := AgentWork.task.inj (hwork.symm.trans hp)
    exact hg
  · rintro rfl
    obtain ⟨hstored, hattempts⟩ := hkeeps job (Table.get?_key hjob) payload hwork hneeds
    rw [hstored, decide_eq_true hattempts]
    rfl

end Job

/-- **One step** that keeps the task. -/
theorem kept_step {action : AgentAction} (hkept : TaskKept s) (hkeeps : KeepsWakeTask maxRetries s action)
    (h : s.step maxRetries action = some t) : TaskKept t := by
  rcases step_eq_some h with ⟨id, work, agent, rfl, -, -, jobs, hinsert, rfl⟩ |
    ⟨id, payload, rfl, hmem, jobs, hinsert, rfl⟩ | ⟨rfl, -, rfl⟩ | ⟨job, hjob, hid, hstep⟩
  · refine hkept.of_unchanged rfl fun g _ hk => hk.imp_right fun ⟨j, hj, hc⟩ => ⟨j, ?_, hc⟩
    exact (Table.mem_insert? hinsert).mpr (.inl hj)
  · exact kept_popped hkept hinsert
  · exact fun g ⟨row, hr, _⟩ => (nomatch hr)
  cases action with
  | start | pop | remove => cases hstep
  | read id now reachable stored =>
    obtain rfl : id = job.id := Option.some.inj hid
    obtain ⟨payload, hwork, hstage, rfl⟩ := stepJob_read hstep
    exact kept_reconcile hkept hjob hwork hstage (hkeeps job (Table.get?_key hjob) payload hwork)
  | begin id now minted =>
    obtain ⟨-, agent, hstage, ⟨row, hrow, rfl⟩ | ⟨hrow, rfl⟩⟩ := stepJob_begin hstep
    · exact hkept.of_unchanged rfl fun g _ hk => hk.move hjob fun hc => hc.task (by rw [hstage]; rfl)
    · exact hkept.of_unchanged (fail_row s job) fun g _ hk => hk.fail hjob fun hc => hc.task (by rw [hstage]; rfl)
  | finish id now run =>
    obtain rfl : id = job.id := Option.some.inj hid
    obtain ⟨agent, begun, minted, current, hstage, hrow, rfl⟩ := stepJob_finish hstep
    exact kept_conclude hkept hjob hstage hrow (hkeeps job (Table.get?_key hjob))
  | refresh id =>
    obtain rfl : id = job.id := Option.some.inj hid
    exact kept_refresh hjob hkeeps hstep
  | interrupt id =>
    obtain ⟨-, rfl⟩ := stepJob_interrupt hstep
    rintro g ⟨row, hr, hawaits, -⟩
    rw [fail_row] at hr
    exact absurd hawaits (hkeeps row hr)
  | enqueue id stored =>
    obtain rfl : id = job.id := Option.some.inj hid
    exact kept_enqueue hkept hjob hkeeps hstep
  | giveUp id now =>
    obtain rfl : id = job.id := Option.some.inj hid
    exact kept_giveUp hkept hjob hkeeps hstep
  | checkIn id now =>
    obtain rfl : id = job.id := Option.some.inj hid
    exact kept_checkIn hkept hjob hkeeps hstep
  | leave id =>
    obtain ⟨hstage, rfl⟩ := stepJob_leave hstep
    refine hkept.of_unchanged (fail_row s job) fun g _ hk => hk.fail hjob fun hc => hc.task ?_
    rcases hstage with hstage | ⟨agent, hstage | hstage⟩ <;> rw [hstage] <;> rfl
  | requeue id stored =>
    obtain rfl : id = job.id := Option.some.inj hid
    exact kept_requeue hkept hjob hkeeps hstep

/-! ## Every run of steps -/

theorem taskQueued_of_never_woken (h : agent.lastWakeSentAt = none) (queue : List QueuedAgentLifecycleReconcile) :
    TaskQueued { row := some agent, queue } := by
  rintro g ⟨row, hr, hawaits, -⟩
  obtain rfl := Option.some.inj hr
  have hnever := hawaits.1
  unfold AgentRow.awaitsCheckin at hnever
  rw [h] at hnever
  cases hnever

/-- **Woken agents have their task** in every run of steps that keep it: it is in the queue, or a job has popped it or
is about to queue it; and where no job is under way, it is in the queue. -/
theorem wakesTasked {maxRetries : Int} {row : Option AgentRow} {queue : List QueuedAgentLifecycleReconcile}
    {actions : List AgentAction} (hstart : TaskQueued { row, queue })
    (h : (wakeSystemMachine maxRetries).Along (KeepsWakeTask maxRetries) { row, queue } actions) :
    ∀ t ∈ (wakeSystemMachine maxRetries).committed { row, queue } actions,
      TaskKept t ∧ (t.jobs = ∅ → TaskQueued t) := by
  have hfirst : TaskKept { row, queue } := fun g hneeds => .inl (hstart g hneeds)
  have hkept : ∀ t ∈ (wakeSystemMachine maxRetries).committed { row, queue } actions, TaskKept t :=
    Machine.committed_inv TaskKept
      (fun s action hs hkeeps t ht => kept_step hs hkeeps (Option.mem_toList.mp ht)) hfirst h
  exact fun t ht => ⟨hkept t ht, (hkept t ht).taskQueued⟩

namespace Sample

def newcomer : AgentRow := { id := 1, boardId := some 1, gatewayId := 1 }

def firstRun (run : GatewayRun) : List AgentAction :=
  [.start 1 (.run (.ofUser "provision" "provisioned" false)), .begin 1 1000 none, .finish 1 2000 run]

def reached : GatewayRun := { sessionKey := some "agent:1", ending := .done }

def unreachable : GatewayRun := { ending := .gatewayError "gateway unreachable" }

def queueTask : List AgentAction := [.refresh 1, .enqueue 1 true]

end Sample

theorem wakesTasked_provisioned :
    ((wakeSystemMachine 3).committed { row := some Sample.newcomer }
      (Sample.firstRun Sample.reached ++ Sample.queueTask)).Forall fun t =>
        TaskKept t ∧ (t.jobs = ∅ → TaskQueued t) := by
  have hkeeps : (wakeSystemMachine 3).Along (KeepsWakeTask 3) { row := some Sample.newcomer }
      (Sample.firstRun Sample.reached ++ Sample.queueTask) := by
    refine ⟨trivial, trivial, ?_, ?_, ?_, trivial⟩
    · intro job hget
      obtain rfl := Option.some.inj hget
      exact .inr (.inl ⟨rfl, rfl⟩)
    · intro row hrow _
      obtain rfl := Option.some.inj hrow
      exact Option.some_ne_none _
    · intro _ _ _ _ _
      rfl
  exact List.forall_iff_forall_mem.mpr (wakesTasked (taskQueued_of_never_woken rfl []) hkeeps)

/-- A run whose calls fail is committed, and no task queued: the agent is woken, and nobody waits for it. -/
theorem not_wakesTasked :
    ¬ ∀ (maxRetries : Int) (row : Option AgentRow) (queue : List QueuedAgentLifecycleReconcile)
      (actions : List AgentAction), TaskQueued { row, queue } →
        ∀ t ∈ (wakeSystemMachine maxRetries).committed { row, queue } actions, t.jobs = ∅ → TaskQueued t := by
  intro h
  have hall := h 3 (some Sample.newcomer) [] (Sample.firstRun Sample.unreachable)
    (taskQueued_of_never_woken rfl [])
  obtain ⟨t, ht, hjobs, hqueue, row, hrow, hawaits⟩ :
      ∃ t ∈ (wakeSystemMachine 3).committed { row := some Sample.newcomer } (Sample.firstRun Sample.unreachable),
        t.jobs.rows.isEmpty = true ∧ t.queue.isEmpty = true ∧ ∃ row ∈ t.row, row.AwaitsTask := by decide
  obtain ⟨payload, hpayload, -⟩ :=
    hall t ht (Table.ext_rows (List.isEmpty_iff.mp hjobs)) _ ⟨row, hrow, hawaits, rfl⟩
  rw [List.isEmpty_iff.mp hqueue] at hpayload
  exact absurd hpayload List.not_mem_nil

end SiloForge
