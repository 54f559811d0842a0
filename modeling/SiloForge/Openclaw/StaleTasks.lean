import SiloForge.Openclaw.WakeSystem

/-!
# Stale tasks

A task of the queue carries the generation of the run that queued it. It compares the generation with a row it reads
without a lock, and acts later, when another run may have been committed or the agent have checked in; a run numbers
itself by the copy of the row it has.

* `ActsOn`, `Inert` : a task acts only on an agent of its generation that has not checked in;
* `FindsWhatItRead` : the steps that find, under the lock, what their job had read;
* `JobFresh`, `GenerationsFit` : what the jobs rely on, and the generations up to now;
* `tasksInert` : in every run of such steps stale tasks are inert, and generations increase.
-/

namespace SiloForge

open Lib

/-! ## Acting on an agent -/

/-- A step of a job acts on the agent: it takes the lock of the row for a run, or changes the row. -/
def ActsOn (s t : WakeSystem) (job : AgentJob) : Prop := t.row ≠ s.row ∨ s.writing = none ∧ t.writing = some job.id

/-- A task acts only on an agent of its generation that has not checked in since it was woken. -/
def Inert (s : WakeSystem) (action : AgentAction) (t : WakeSystem) : Prop :=
  ∀ job ∈ s.jobs, action.job? = some job.id → ∀ payload, job.work = .task payload → ActsOn s t job →
    ∀ row, s.row = some row →
      (row.lifecycleGeneration : Int) = payload.generation ∧ row.hasCheckedInSinceWake = false

/-- A run that begins, and a task that gives the agent up, find the generation they read; a task finds the agent as
little checked in as it read. -/
def FindsWhatItRead (s : WakeSystem) : AgentAction → Prop
  | .begin id .. | .giveUp id _ => ∀ job, s.jobs.get? id = some job → ∀ agent,
    job.stage = .loaded agent ∨ job.stage = .givingUp agent → ∀ row, s.row = some row →
      row.lifecycleGeneration = agent.lifecycleGeneration ∧
        ∀ payload, job.work = .task payload → row.hasCheckedInSinceWake = agent.hasCheckedInSinceWake
  | _ => True

/-! ## The invariant -/

/-- What a task relies on: the agent has its generation and has not checked in. -/
def AwaitedBy (work : AgentWork) (agent : AgentRow) : Prop :=
  ∀ payload, work = .task payload →
    (agent.lifecycleGeneration : Int) = payload.generation ∧ agent.hasCheckedInSinceWake = false

/-- What a job relies on: a task that is to act read what it is for; a run that is under way holds the lock, on a row
with the generation it read, and what the task is for. -/
def JobFresh (s : WakeSystem) (job : AgentJob) : Prop :=
  match job.stage with
  | .loaded agent | .givingUp agent => AwaitedBy job.work agent
  | .running agent _ _ => s.writing = some job.id ∧ ∀ row, s.row = some row →
      row.lifecycleGeneration = agent.lifecycleGeneration ∧ AwaitedBy job.work row
  | _ => True

/-- The generations committed so far increase, up to that of the row. -/
structure GenerationsFit (s : WakeSystem) : Prop where
  past : ∀ row, s.row = some row → ∀ g ∈ s.generations, g ≤ row.lifecycleGeneration
  increasing : s.generations.Pairwise (· > ·)

def TasksFit (s : WakeSystem) : Prop := (∀ j ∈ s.jobs, JobFresh s j) ∧ GenerationsFit s

variable {maxRetries : Int} {s t : WakeSystem} {job : AgentJob}

theorem JobFresh.congr (h : JobFresh s job) (hwriting : t.writing = s.writing) (hrow : t.row = s.row) :
    JobFresh t job := by
  unfold JobFresh
  rw [hwriting, hrow]
  exact h

theorem JobFresh.of_unlocked (h : JobFresh s job) (hwriting : s.writing ≠ some job.id) (t : WakeSystem) :
    JobFresh t job := by
  unfold JobFresh at h ⊢
  split at h
  · exact h
  · exact h
  · exact absurd h.1 hwriting
  · trivial

theorem JobFresh.awaitedBy {agent : AgentRow} (h : JobFresh s job)
    (hstage : job.stage = .loaded agent ∨ job.stage = .givingUp agent) : AwaitedBy job.work agent := by
  unfold JobFresh at h
  rcases hstage with hstage | hstage <;> rw [hstage] at h <;> exact h

theorem JobFresh.running {agent : AgentRow} {begun : Time} {minted : Option TokenHash} (h : JobFresh s job)
    (hstage : job.stage = .running agent begun minted) :
    s.writing = some job.id ∧ ∀ row, s.row = some row →
      row.lifecycleGeneration = agent.lifecycleGeneration ∧ AwaitedBy job.work row := by
  unfold JobFresh at h
  rw [hstage] at h
  exact h

theorem GenerationsFit.congr (h : GenerationsFit s) (hrow : t.row = s.row) (hsame : t.generations = s.generations) :
    GenerationsFit t := by
  refine ⟨fun row hr => ?_, ?_⟩
  · rw [hsame]
    exact h.past row (hrow ▸ hr)
  · rw [hsame]
    exact h.increasing

/-! ## Steps that leave the row alone -/

structure StepFits (s : WakeSystem) (action : AgentAction) (t : WakeSystem) : Prop where
  inert : Inert s action t
  jobs : ∀ j ∈ t.jobs, JobFresh t j
  generations : GenerationsFit t

variable {action : AgentAction} {agent : AgentRow} {payload : QueuedAgentLifecycleReconcile}

theorem inert_of_unchanged (hrow : t.row = s.row) (hwriting : t.writing = s.writing) : Inert s action t := by
  intro job _ _ payload _ hacts
  rcases hacts with hne | ⟨hnone, hsome⟩
  · exact absurd hrow hne
  · rw [hwriting, hnone] at hsome
    cases hsome

theorem StepFits.of_unchanged (hgenerations : GenerationsFit s) (hrow : t.row = s.row)
    (hwriting : t.writing = s.writing) (hsame : t.generations = s.generations) (hjobs : ∀ j ∈ t.jobs, JobFresh s j) :
    StepFits s action t :=
  ⟨inert_of_unchanged hrow hwriting, fun j hj => (hjobs j hj).congr hwriting hrow, hgenerations.congr hrow hsame⟩

section Moves
variable (hjobs : ∀ j ∈ s.jobs, JobFresh s j) (hgenerations : GenerationsFit s) {action : AgentAction}
include hjobs hgenerations

theorem StepFits.close : StepFits s action (s.close job) :=
  .of_unchanged hgenerations rfl rfl rfl (forall_jobs_close fun j hj _ => hjobs j hj)

theorem StepFits.push {stored : Bool} {payload : QueuedAgentLifecycleReconcile} :
    StepFits s action ((s.close job).push stored payload) := by
  unfold WakeSystem.push
  split
  · exact .of_unchanged hgenerations rfl rfl rfl (forall_jobs_close fun j hj _ => hjobs j hj)
  · exact .close hjobs hgenerations

theorem StepFits.move {stage : JobStage} (hnew : JobFresh s { job with stage }) :
    StepFits s action (s.move job stage) :=
  .of_unchanged hgenerations rfl rfl rfl (forall_jobs_move hnew fun j hj _ => hjobs j hj)

theorem StepFits.fail : StepFits s action (s.fail job) :=
  .of_unchanged hgenerations (fail_row s job) (fail_writing s job) (fail_generations s job)
    (forall_jobs_fail trivial fun j hj _ => hjobs j hj)

end Moves

theorem awaitedBy_of_decision {now : Time} (h : reconcileDecision agent payload now ≠ .skip) :
    AwaitedBy (.task payload) agent := by
  intro payload' hwork
  obtain rfl := AgentWork.task.inj hwork
  obtain ⟨hgeneration, hseen, -⟩ := reconcileDecision_eq h
  exact ⟨hgeneration, hseen⟩

theorem StepFits.reconcile (hjobs : ∀ j ∈ s.jobs, JobFresh s j) (hgenerations : GenerationsFit s)
    (hwork : job.work = .task payload) (now : Time) (reachable stored : Bool) :
    StepFits s action (s.reconcile job payload now reachable stored) := by
  unfold WakeSystem.reconcile
  split
  · exact .close hjobs hgenerations
  rename_i agent hrow
  split
  · exact .close hjobs hgenerations
  · split
    · exact .push hjobs hgenerations
    · exact .fail hjobs hgenerations
  · rename_i hdecision
    refine .move hjobs hgenerations ?_
    show AwaitedBy job.work agent
    rw [hwork]
    exact awaitedBy_of_decision (by rw [hdecision]; exact ReconcileDecision.noConfusion)
  · rename_i hdecision
    split
    · refine .move hjobs hgenerations ?_
      show AwaitedBy job.work agent
      rw [hwork]
      exact awaitedBy_of_decision (by rw [hdecision]; exact ReconcileDecision.noConfusion)
    · exact .close hjobs hgenerations

/-! ## Steps that act -/

theorem inert_of_awaitedBy (hjob : job ∈ s.jobs) (hid : action.job? = some job.id)
    (h : ∀ row, s.row = some row → AwaitedBy job.work row) (t : WakeSystem) : Inert s action t := by
  intro job' hjob' hid' payload hwork _ row hrow
  obtain rfl : job' = job := Table.eq_of_key_eq hjob' hjob (Option.some.inj (hid'.symm.trans hid))
  exact h row hrow payload hwork

theorem AwaitedBy.congr {work : AgentWork} {row : AgentRow} (h : AwaitedBy work agent)
    (hgeneration : row.lifecycleGeneration = agent.lifecycleGeneration)
    (hseen : ∀ payload, work = .task payload → row.hasCheckedInSinceWake = agent.hasCheckedInSinceWake) :
    AwaitedBy work row := by
  intro payload hwork
  rw [hgeneration, hseen payload hwork]
  exact h payload hwork

/-- **The commit of a run** gives the agent a new generation. -/
theorem StepFits.conclude (hjobs : ∀ j ∈ s.jobs, JobFresh s j) (hgenerations : GenerationsFit s) (hjob : job ∈ s.jobs)
    (hid : action.job? = some job.id) {current : AgentRow} {begun now : Time} {minted : Option TokenHash}
    (hstage : job.stage = .running agent begun minted) (hrow : s.row = some current) (run : GatewayRun) :
    StepFits s action (s.conclude job agent begun minted current now run) := by
  obtain ⟨hlock, hread⟩ := (hjobs job hjob).running hstage
  have hinert : ∀ t, Inert s action t := inert_of_awaitedBy hjob hid fun row hr => (hread row hr).2
  -- the other jobs do not hold the lock
  have hothers : ∀ t, ∀ j ∈ s.jobs, j.id ≠ job.id → JobFresh t j := by
    intro t j hj hne
    refine (hjobs j hj).of_unlocked (fun hwriting => hne ?_) t
    exact Option.some.inj (hwriting.symm.trans hlock)
  unfold WakeSystem.conclude
  split
  · refine ⟨hinert _, ?_, ⟨?_, ?_⟩⟩
    · exact forall_jobs_fail trivial (hothers _)
    · show ∀ row, (s.fail job).row = some row → ∀ g ∈ (s.fail job).generations, _
      rw [fail_row, fail_generations]
      exact hgenerations.past
    · show (s.fail job).generations.Pairwise _
      rw [fail_generations]
      exact hgenerations.increasing
  · rename_i finished hfinished
    have hnext : (committedRow agent begun job.work.options minted finished current).lifecycleGeneration =
        current.lifecycleGeneration + 1 := by
      rw [(committedRow_columns current hfinished).1, (hread current hrow).1]
    have hfits : ∀ t : WakeSystem, t.row = some (committedRow agent begun job.work.options minted finished current) →
        t.generations = (committedRow agent begun job.work.options minted finished current).lifecycleGeneration ::
          s.generations → GenerationsFit t := by
      intro t ht hsame
      have hbelow : ∀ g ∈ s.generations, g < current.lifecycleGeneration + 1 :=
        fun g hg => Nat.lt_succ_of_le (hgenerations.past current hrow g hg)
      refine ⟨fun row hr g hg => ?_, ?_⟩
      · obtain rfl := Option.some.inj (ht.symm.trans hr)
        rw [hsame] at hg
        rcases List.mem_cons.mp hg with rfl | hg
        · exact Nat.le_refl _
        · rw [hnext]
          exact Nat.le_of_lt (hbelow g hg)
      · rw [hsame, List.pairwise_cons]
        refine ⟨fun g hg => ?_, hgenerations.increasing⟩
        rw [hnext]
        exact hbelow g hg
    dsimp only
    split
    · split
      · exact ⟨hinert _, forall_jobs_move trivial (hothers _), hfits _ rfl rfl⟩
      · exact ⟨hinert _, forall_jobs_close (hothers _), hfits _ rfl rfl⟩
    · exact ⟨hinert _, forall_jobs_close (hothers _), hfits _ rfl rfl⟩
    · exact ⟨hinert _, forall_jobs_fail trivial (hothers _), hfits _ (fail_row _ _) (fail_generations _ _)⟩

section Unlocked
variable (hjobs : ∀ j ∈ s.jobs, JobFresh s j) (hgenerations : GenerationsFit s) (hjob : job ∈ s.jobs)
  (hid : action.job? = some job.id) (hwriting : s.writing = none)
include hjobs hwriting

theorem fresh_of_unlocked (t : WakeSystem) : ∀ j ∈ s.jobs, JobFresh t j :=
  fun j hj => (hjobs j hj).of_unlocked (by simp [hwriting]) t

include hgenerations hjob hid

/-- A run that begins on the row it read keeps the lock on what it relies on. -/
theorem StepFits.begin {row : AgentRow} (hstage : job.stage = .loaded agent) (hrow : s.row = some row)
    (hsame : row.lifecycleGeneration = agent.lifecycleGeneration)
    (hseen : ∀ payload, job.work = .task payload → row.hasCheckedInSinceWake = agent.hasCheckedInSinceWake)
    (now : Time) (minted : Option TokenHash) :
    StepFits s action { s.move job (.running agent now minted) with writing := some job.id } := by
  have hread : AwaitedBy job.work agent := (hjobs job hjob).awaitedBy (.inl hstage)
  have hawaited : ∀ row', s.row = some row' → row'.lifecycleGeneration = agent.lifecycleGeneration ∧
      AwaitedBy job.work row' := by
    intro row' hr
    obtain rfl := Option.some.inj (hrow.symm.trans hr)
    exact ⟨hsame, hread.congr hsame hseen⟩
  refine ⟨inert_of_awaitedBy hjob hid (fun row' hr => (hawaited row' hr).2) _, ?_, hgenerations.congr rfl rfl⟩
  exact forall_jobs_move ⟨rfl, hawaited⟩ fun j hj _ => fresh_of_unlocked hjobs hwriting _ j hj

theorem StepFits.giveUp {current : AgentRow} (hstage : job.stage = .givingUp agent) (hrow : s.row = some current)
    (hfinds : ∀ row, s.row = some row → row.lifecycleGeneration = agent.lifecycleGeneration ∧
      ∀ payload, job.work = .task payload → row.hasCheckedInSinceWake = agent.hasCheckedInSinceWake) (now : Time) :
    StepFits s action { s.close job with row := some ((agent.giveUpWaking now).writtenOver agent current) } := by
  have hread : AwaitedBy job.work agent := (hjobs job hjob).awaitedBy (.inr hstage)
  obtain ⟨hgeneration, -, -⟩ := @giveUpWaking_columns agent current now
  refine ⟨inert_of_awaitedBy hjob hid (fun row hr => ?_) _, ?_, ⟨fun row hr => ?_, hgenerations.increasing⟩⟩
  · obtain ⟨hsame, hseen⟩ := hfinds row hr
    exact hread.congr hsame hseen
  · exact forall_jobs_close fun j hj _ => fresh_of_unlocked hjobs hwriting _ j hj
  · obtain rfl := Option.some.inj hr
    rw [hgeneration]
    exact hgenerations.past current hrow

theorem StepFits.checkIn {new : AgentRow} {now : Time} (hnew : job.work.checkedIn agent now = some new) :
    StepFits s action { s.close job with row := s.row.map fun current => new.writtenOver agent current } := by
  refine ⟨?_, ?_, ⟨fun row hr => ?_, hgenerations.increasing⟩⟩
  · -- a task does not check in
    intro job' hjob' hid' payload hwork
    obtain rfl : job' = job := Table.eq_of_key_eq hjob' hjob (Option.some.inj (hid'.symm.trans hid))
    rw [hwork] at hnew
    cases hnew
  · exact forall_jobs_close fun j hj _ => fresh_of_unlocked hjobs hwriting _ j hj
  · obtain ⟨current, hrow, rfl⟩ := Option.map_eq_some_iff.mp hr
    rw [(checkedIn_columns hnew).1]
    exact hgenerations.past current hrow

end Unlocked

/-- **One step** that finds what its job read. -/
theorem stale_step (hjobs : ∀ j ∈ s.jobs, JobFresh s j) (hgenerations : GenerationsFit s)
    (hfinds : FindsWhatItRead s action) (h : s.step maxRetries action = some t) : StepFits s action t := by
  rcases step_eq_some h with ⟨id, work, agent, rfl, hwork, -, jobs, hinsert, rfl⟩ |
    ⟨id, payload, rfl, -, jobs, hinsert, rfl⟩ | ⟨rfl, hwriting, rfl⟩ | ⟨job, hjob, hid, hstep⟩
  · refine .of_unchanged hgenerations rfl rfl rfl (forall_jobs_insert hinsert ?_ hjobs)
    exact fun payload hpayload => absurd hpayload (hwork payload)
  · exact .of_unchanged hgenerations rfl rfl rfl (forall_jobs_insert hinsert trivial hjobs)
  · -- nobody holds the lock
    refine ⟨fun job _ hid => (nomatch hid), fun j hj => ?_, ⟨fun row hr => (nomatch hr), hgenerations.increasing⟩⟩
    exact fresh_of_unlocked hjobs hwriting _ j hj
  have hget : s.jobs.get? job.id = some job := Table.get?_key hjob
  cases action with
  | start | pop | remove => cases hstep
  | read id now reachable stored =>
    obtain ⟨payload, hwork, -, rfl⟩ := stepJob_read hstep
    exact .reconcile hjobs hgenerations hwork now reachable stored
  | begin id now minted =>
    obtain rfl : id = job.id := Option.some.inj hid
    obtain ⟨hwriting, agent, hstage, ⟨row, hrow, rfl⟩ | ⟨hrow, rfl⟩⟩ := stepJob_begin hstep
    · obtain ⟨hsame, hseen⟩ := hfinds job hget agent (.inl hstage) row hrow
      exact .begin hjobs hgenerations hjob hid hwriting hstage hrow hsame hseen now minted
    · exact .fail hjobs hgenerations
  | finish id now run =>
    obtain ⟨agent, begun, minted, current, hstage, hrow, rfl⟩ := stepJob_finish hstep
    exact .conclude hjobs hgenerations hjob hid hstage hrow run
  | refresh id =>
    obtain ⟨-, ⟨-, rfl⟩ | ⟨row, -, ⟨deadline, -, rfl⟩ | ⟨-, rfl⟩⟩⟩ := stepJob_refresh hstep
    · exact .fail hjobs hgenerations
    · exact .move hjobs hgenerations trivial
    · exact .close hjobs hgenerations
  | interrupt id =>
    obtain ⟨-, rfl⟩ := stepJob_interrupt hstep
    exact .fail hjobs hgenerations
  | enqueue id stored =>
    obtain ⟨payload, -, rfl⟩ := stepJob_enqueue hstep
    exact .push hjobs hgenerations
  | giveUp id now =>
    obtain rfl : id = job.id := Option.some.inj hid
    obtain ⟨hwriting, agent, hstage, ⟨current, hrow, rfl⟩ | ⟨hrow, rfl⟩⟩ := stepJob_giveUp hstep
    · exact .giveUp hjobs hgenerations hjob hid hwriting hstage hrow (hfinds job hget agent (.inr hstage)) now
    · exact .fail hjobs hgenerations
  | checkIn id now =>
    obtain ⟨hwriting, agent, new, hstage, hnew, rfl⟩ := stepJob_checkIn hstep
    exact .checkIn hjobs hgenerations hjob hid hwriting hnew
  | leave id =>
    obtain ⟨-, rfl⟩ := stepJob_leave hstep
    exact .fail hjobs hgenerations
  | requeue id stored =>
    obtain ⟨payload, -, -, rfl⟩ := stepJob_requeue hstep
    exact .push hjobs hgenerations

/-! ## Every run of steps -/

/-- **Stale tasks are inert**, and generations increase, in every run of steps that find what their jobs read. -/
theorem tasksInert {maxRetries : Int} {row : Option AgentRow} {queue : List QueuedAgentLifecycleReconcile}
    {actions : List AgentAction} (h : (wakeSystemMachine maxRetries).Along FindsWhatItRead { row, queue } actions) :
    (wakeSystemMachine maxRetries).Along ((wakeSystemMachine maxRetries).Each Inert) { row, queue } actions ∧
      ∀ t ∈ (wakeSystemMachine maxRetries).committed { row, queue } actions, t.generations.Pairwise (· > ·) := by
  have hstart : TasksFit { row, queue } :=
    ⟨fun j hj => absurd hj (Table.not_mem_empty j), fun row hr g hg => absurd hg List.not_mem_nil, List.Pairwise.nil⟩
  have hone : ∀ s action, TasksFit s → FindsWhatItRead s action →
      ∀ t ∈ (wakeSystemMachine maxRetries).commits s action, StepFits s action t := by
    intro s action hs hfinds t ht
    exact stale_step hs.1 hs.2 hfinds (Option.mem_toList.mp ht)
  have hkeep : ∀ s action, TasksFit s → FindsWhatItRead s action →
      ∀ t ∈ (wakeSystemMachine maxRetries).commits s action, TasksFit t := by
    intro s action hs hfinds t ht
    exact ⟨(hone s action hs hfinds t ht).jobs, (hone s action hs hfinds t ht).generations⟩
  constructor
  · refine Machine.Along.of_inv TasksFit ?_ ?_ hstart h
    · exact fun s action hs hfinds => Machine.next_of_each _ hs (hkeep s action hs hfinds)
    · exact fun s action hs hfinds t ht => (hone s action hs hfinds t ht).inert
  · exact fun t ht => (Machine.committed_inv TasksFit hkeep hstart h t ht).2.increasing

namespace Sample

def woken : AgentRow :=
  { id := 1, boardId := some 1, gatewayId := 1, status := "online", lifecycleGeneration := 1, wakeAttempts := 1
    lastWakeSentAt := some 1, checkinDeadlineAt := some 30000001 }

def repeated : GatewayRun := { sessionKey := some "agent:1", ending := .done }

def readTask : List AgentAction := [.pop 1 (woken.reconcileTask 30000001), .read 1 40000000 true true]

def userRun : List AgentAction :=
  [.start 2 (.run (.ofUser "update" "updated" false)), .begin 2 40000001 none, .finish 2 41000000 repeated]

def runTask : List AgentAction := [.begin 1 42000000 none, .finish 1 43000000 repeated]

end Sample

theorem tasksInert_repeated :
    (wakeSystemMachine 3).Along ((wakeSystemMachine 3).Each Inert)
        { row := some Sample.woken, queue := [Sample.woken.reconcileTask 30000001] } (Sample.readTask ++ Sample.runTask) ∧
      ((wakeSystemMachine 3).committed
        { row := some Sample.woken, queue := [Sample.woken.reconcileTask 30000001] }
        (Sample.readTask ++ Sample.runTask)).Forall fun t => t.generations.Pairwise (· > ·) := by
  have hfinds : (wakeSystemMachine 3).Along FindsWhatItRead
      { row := some Sample.woken, queue := [Sample.woken.reconcileTask 30000001] }
      (Sample.readTask ++ Sample.runTask) := by
    refine ⟨trivial, trivial, ?_, trivial, trivial⟩
    intro job hget agent hstage row hrow
    obtain rfl := Option.some.inj hget
    obtain rfl : Sample.woken = row := Option.some.inj hrow
    obtain hstage | hstage := hstage
    · obtain rfl : Sample.woken = agent := JobStage.loaded.inj hstage
      exact ⟨rfl, fun _ _ => rfl⟩
    · cases hstage
  exact ⟨(tasksInert hfinds).1, List.forall_iff_forall_mem.mpr (tasksInert hfinds).2⟩

/-- A task runs though the agent has a later generation, and the run commits that generation once more. -/
theorem not_tasksInert :
    (¬ ∀ (maxRetries : Int) (row : Option AgentRow) (queue : List QueuedAgentLifecycleReconcile)
        (actions : List AgentAction),
        (wakeSystemMachine maxRetries).Along ((wakeSystemMachine maxRetries).Each Inert) { row, queue } actions) ∧
      ¬ ∀ (maxRetries : Int) (row : Option AgentRow) (queue : List QueuedAgentLifecycleReconcile)
        (actions : List AgentAction), ∀ t ∈ (wakeSystemMachine maxRetries).committed { row, queue } actions,
          t.generations.Pairwise (· > ·) := by
  constructor
  · intro h
    obtain ⟨-, -, -, -, -, hbegin, -⟩ := h 3 (some Sample.woken) [Sample.woken.reconcileTask 30000001]
      (Sample.readTask ++ Sample.userRun ++ Sample.runTask)
    have hstale := hbegin _ (List.mem_singleton.mpr rfl) _ (Table.mem_of_get? (k := 1) rfl) rfl _ rfl (.inr ⟨rfl, rfl⟩) _ rfl
    exact absurd hstale.1 (by decide)
  · intro h
    have htwice : ∃ t ∈ (wakeSystemMachine 3).committed
        { row := some Sample.woken, queue := [Sample.woken.reconcileTask 30000001] }
        (Sample.readTask ++ Sample.userRun ++ Sample.runTask), ¬ t.generations.Pairwise (· > ·) := by decide
    obtain ⟨t, ht, hnot⟩ := htwice
    exact hnot (h _ _ _ _ t ht)

end SiloForge
