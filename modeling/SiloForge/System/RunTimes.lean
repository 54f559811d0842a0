import SiloForge.System.ReadBack

/-!
# When runs started and ended

A dispatch and a report of `running` set `startedAt` where it is not set yet, a report of a status that completes sets
`completedAt`, and nothing clears either.

* `RunChange` : what a request does to the runs, `runChange_of_mem`;
* `TimesTold` : the two times of a run fit its status;
* `mistimesRun` : the request dispatches a blocked run, or reports a status its run's times do not fit;
* `timesTell` : without such requests the times fit in every state, and a run that started keeps its time.
-/

namespace SiloForge

open Lib

/-! ## What a request does to the runs -/

def Operation.reported? : Operation → Option (Uuid × Option ExecutionRunStatus)
  | .callback runId payload => some (runId, some payload.status)
  | .updateRun _ runId payload => some (runId, payload.status)
  | .cancelRun _ runId _ => some (runId, some .cancelled)
  | _ => none

def Operation.dispatched? : Operation → Option Uuid
  | .dispatchRun _ _ _ runId _ => some runId
  | _ => none

inductive RunChange (db : Db) (request : Request) (t : Db) : Prop
  | kept (hruns : t.runs = db.runs)
  | created (run : TaskExecutionRun) (hstatus : run.status = .queued) (hstarted : run.startedAt = none)
      (hcompleted : run.completedAt = none) (hinsert : db.runs.insert? run = some t.runs)
  | reported (run : TaskExecutionRun) (payload : TaskExecutionRunUpdate)
      (hop : request.op.reported? = some (run.id, payload.status)) (hget : db.runs.get? run.id = some run)
      (hruns : t.runs = db.runs.put (run.reported request.now payload))
  | dispatched (run : TaskExecutionRun) (texts : RunTexts) (task : Task) (acceptance : SymphonyDispatchAcceptance)
      (hop : request.op.dispatched? = some run.id) (hget : db.runs.get? run.id = some run)
      (hdispatchable : run.status.isDispatchable = true)
      (hruns : t.runs = db.runs.put (run.dispatched texts task request.now acceptance))

variable {request : Request}

/-- **Every committed state** is the outcome of a `RunChange`. -/
theorem runChange_of_mem {env : Env} {db t : Db} (ht : t ∈ (machine env).commits db request) :
    RunChange db request t := by
  have hcommit := commit_of_mem ht
  obtain ⟨now, op⟩ := request
  cases op with
  | createRun scope runId payload =>
    obtain ⟨board, task, -, hok⟩ := onRun_eq_ok (Response.mem_single.mp ht)
    obtain ⟨run, runs, events, -, -, -, hstatus, ⟨hstarted, hcompleted⟩, hruns, rfl⟩ := createRun_eq_ok hok
    exact .created run hstatus hstarted hcompleted hruns
  | retryRun scope runId newRunId =>
    obtain ⟨board, task, -, hmem⟩ := mem_onRetry ht
    obtain ⟨run, runs, events, -, -, -, hstatus, ⟨hstarted, hcompleted⟩, hruns, rfl⟩ := mem_retryRun hmem
    exact .created run hstatus hstarted hcompleted hruns
  | updateRun scope runId payload =>
    obtain ⟨board, task, -, hok⟩ := onRun_eq_ok (Response.mem_single.mp ht)
    obtain ⟨run, tasks, events, hrun, -, rfl⟩ := updateRun_eq_ok hok
    obtain ⟨hget, rfl, -⟩ := findRun_eq_some hrun
    exact .reported run payload rfl hget rfl
  | cancelRun scope runId note =>
    obtain ⟨board, task, -, hok⟩ := onRun_eq_ok (Response.mem_single.mp ht)
    obtain ⟨run, events, hrun, -, rfl⟩ := cancelRun_eq_ok hok
    obtain ⟨hget, rfl, -⟩ := findRun_eq_some hrun
    exact .reported run (cancelReport note) rfl hget rfl
  | callback runId payload =>
    obtain ⟨run, task, board, tasks, events, hrun, -, -, -, rfl⟩ :=
      updateRunById_eq_ok (mapError_eq_ok.mp (Response.mem_single.mp ht))
    obtain rfl : run.id = runId := Table.key_of_get? hrun
    exact .reported run payload.toCallback.toUpdate rfl hrun rfl
  | dispatchRun organizationId boardId taskId runId answer =>
    obtain ⟨commits, hok, hmem⟩ := Response.mem_ofExcept.mp ht
    obtain ⟨run, task, acceptance, events, hrun, hdispatchable, rfl⟩ := dispatchRun_eq_ok hok t hmem
    obtain ⟨hget, rfl, -⟩ := findRun_eq_some hrun
    exact .dispatched run env.runTexts task acceptance rfl hget hdispatchable rfl
  | acknowledgeRun scope runId =>
    obtain ⟨board, task, -, hok⟩ := onRun_eq_ok (Response.mem_single.mp ht)
    obtain ⟨events, rfl⟩ := acknowledgeRun_eq_ok hok
    exact .kept rfl
  | escalateRun scope runId approvalId note =>
    obtain ⟨board, task, -, hok⟩ := onRun_eq_ok (Response.mem_single.mp ht)
    obtain ⟨run, silo, -, hstore⟩ := escalateRun_eq_ok hok
    obtain ⟨approval, approvals, links, tasks, events, -, -, -, -, -, -, -, -, rfl⟩ := storeEscalation_eq_ok hstore
    exact .kept rfl
  | _ => exact .kept (runs_of_commits rfl ht)

/-! ## Times that fit the status -/

def ExecutionRunStatus.isStarted : ExecutionRunStatus → Bool
  | dispatching | running => true
  | _ => false

/-- The times of a run fit its status and each other. -/
structure TaskExecutionRun.TimesTold (run : TaskExecutionRun) : Prop where
  completed : run.completedAt.isSome = run.status.completes
  started : run.status.isStarted = true → run.startedAt.isSome = true
  ordered : ∀ x ∈ run.startedAt, ∀ y ∈ run.completedAt, x ≤ y

def TimesFit (db : Db) : Prop := ∀ run ∈ db.runs, run.TimesTold

/-- A report of a status that the run's times will not fit: it completes before the run started, opens a completed run,
or has a run dispatched that never was. -/
def TaskExecutionRun.mistimed (run : TaskExecutionRun) (now : Time) (status : ExecutionRunStatus) : Bool :=
  if status.completes then run.startedAt.any (now < ·)
  else run.status.completes || (status = .dispatching && run.startedAt.isNone)

def mistimesRun (db : Db) (request : Request) : Bool :=
  request.op.reported?.any (fun (runId, status) =>
    (db.runs.get? runId).any fun run => status.any (run.mistimed request.now)) ||
    request.op.dispatched?.any fun runId => (db.runs.get? runId).any (·.status = .blocked)

theorem ExecutionRunStatus.completes_eq_false_of_isDispatchable {status : ExecutionRunStatus}
    (h : status.isDispatchable = true) (hne : status ≠ .blocked) : status.completes = false := by
  cases status <;> first | rfl | exact absurd rfl hne | exact absurd h Bool.false_ne_true

theorem ExecutionRunStatus.eq_of_isStarted {status : ExecutionRunStatus} (h : status.isStarted = true) :
    status = .dispatching ∨ status = .running := by
  cases status <;> first | exact .inl rfl | exact .inr rfl | exact absurd h Bool.false_ne_true

/-! ## One request -/

theorem TaskExecutionRun.TimesTold.reported {run : TaskExecutionRun} (h : run.TimesTold) {now : Time}
    {payload : TaskExecutionRunUpdate} (htimed : payload.status.any (run.mistimed now) = false) :
    (run.reported now payload).TimesTold := by
  rcases hp : payload.status with _ | status
  · have hsame : (run.reported now payload).status = run.status := by simp [TaskExecutionRun.reported, hp]
    have hstarted : (run.reported now payload).startedAt = run.startedAt := by simp [TaskExecutionRun.reported, hp]
    have hcompleted : (run.reported now payload).completedAt = run.completedAt := by
      simp [TaskExecutionRun.reported, hp]
    exact ⟨by rw [hcompleted, hsame]; exact h.completed, by rw [hstarted, hsame]; exact h.started,
      by rw [hstarted, hcompleted]; exact h.ordered⟩
  · rw [hp, Option.any_some] at htimed
    have hstatus : (run.reported now payload).status = status := by simp [TaskExecutionRun.reported, hp]
    have hstarted : (run.reported now payload).startedAt
        = if status = .running then run.startedAt.or (some now) else run.startedAt := by
      simp [TaskExecutionRun.reported, hp]
    have hcompleted : (run.reported now payload).completedAt
        = if status.completes then some now else run.completedAt := by
      simp [TaskExecutionRun.reported, hp]
    by_cases hdone : status.completes = true
    · have hrunning : status ≠ .running := by rintro rfl; cases hdone
      rw [TaskExecutionRun.mistimed, if_pos hdone, Option.any_eq_false] at htimed
      refine ⟨by rw [hcompleted, hstatus, if_pos hdone, hdone]; rfl, fun hwork => ?_, fun x hx y hy => ?_⟩
      · rw [hstatus] at hwork
        rcases status.eq_of_isStarted hwork with rfl | rfl <;> cases hdone
      · rw [hstarted, if_neg hrunning] at hx
        rw [hcompleted, if_pos hdone] at hy
        obtain rfl := Option.some.inj hy
        simpa using htimed x hx
    · rw [TaskExecutionRun.mistimed, if_neg hdone, Bool.or_eq_false_iff] at htimed
      have hopen : status.completes = false := Bool.eq_false_iff.mpr hdone
      have hnone : run.completedAt = none := by
        rw [← Option.not_isSome_iff_eq_none, h.completed, htimed.1]
        exact Bool.false_ne_true
      refine ⟨by rw [hcompleted, hstatus, if_neg hdone, hnone, hopen]; rfl, fun hwork => ?_, fun x hx y hy => ?_⟩
      · rw [hstatus] at hwork
        rw [hstarted]
        rcases status.eq_of_isStarted hwork with rfl | rfl
        · simpa using htimed.2
        · simp
      · rw [hcompleted, if_neg hdone, hnone] at hy
        cases hy

theorem TaskExecutionRun.TimesTold.dispatched {run : TaskExecutionRun} (h : run.TimesTold)
    (hdispatchable : run.status.isDispatchable = true) (hne : run.status ≠ .blocked) (texts : RunTexts) (task : Task)
    (now : Time) (acceptance : SymphonyDispatchAcceptance) : (run.dispatched texts task now acceptance).TimesTold := by
  have hnone : run.completedAt = none := by
    rw [← Option.not_isSome_iff_eq_none, h.completed,
      ExecutionRunStatus.completes_eq_false_of_isDispatchable hdispatchable hne]
    exact Bool.false_ne_true
  refine ⟨?_, fun _ => ?_, fun x _ y hy => ?_⟩
  · show run.completedAt.isSome = false
    rw [hnone]
    rfl
  · show (run.startedAt.or (some now)).isSome = true
    simp
  · have hy : run.completedAt = some y := hy
    rw [hnone] at hy
    cases hy

/-- **One request** that mistimesRun nothing keeps the times fitting. -/
theorem RunChange.keepsTimes {db t : Db} (h : RunChange db request t) (htimed : mistimesRun db request = false)
    (hfit : TimesFit db) : TimesFit t := by
  simp only [mistimesRun, Bool.or_eq_false_iff] at htimed
  obtain ⟨hreports, hdispatches⟩ := htimed
  intro b hb
  cases h with
  | kept hruns => exact hfit b (hruns ▸ hb)
  | created run hstatus hstarted hcompleted hinsert =>
    rcases (Table.mem_insert? hinsert).mp hb with hold | rfl
    · exact hfit b hold
    · refine ⟨by rw [hcompleted, hstatus]; rfl, fun hwork => ?_, fun x hx => ?_⟩
      · rw [hstatus] at hwork
        cases hwork
      · rw [hstarted] at hx
        cases hx
  | reported run payload hop hget hruns =>
    rw [hruns] at hb
    rcases Table.mem_put.mp hb with ⟨hold, -⟩ | ⟨rfl, -⟩
    · exact hfit b hold
    · rw [hop] at hreports
      exact (hfit run (Table.mem_of_get? hget)).reported (by simpa [hget] using hreports)
  | dispatched run texts task acceptance hop hget hdispatchable hruns =>
    rw [hruns] at hb
    rcases Table.mem_put.mp hb with ⟨hold, -⟩ | ⟨rfl, -⟩
    · exact hfit b hold
    · rw [hop] at hdispatches
      exact (hfit run (Table.mem_of_get? hget)).dispatched hdispatchable (by simpa [hget] using hdispatches) texts task
        request.now acceptance

def KeepsStarts (s t : Db) : Prop :=
  ∀ run ∈ s.runs, ∀ x, run.startedAt = some x → ∃ run', t.runs.get? run.id = some run' ∧ run'.startedAt = some x

theorem KeepsStarts.put {s t : Db} {run run' : TaskExecutionRun} (hruns : t.runs = s.runs.put run')
    (hget : s.runs.get? run.id = some run) (hid : run'.id = run.id)
    (hstart : ∀ x, run.startedAt = some x → run'.startedAt = some x) : KeepsStarts s t := by
  intro r hr x hx
  rw [hruns]
  by_cases hsame : r.id = run.id
  · obtain rfl := Table.eq_of_key_eq hr (Table.mem_of_get? hget) hsame
    exact ⟨run', by rw [← hid]; exact Table.get?_put_self (hid ▸ hget), hstart x hx⟩
  · exact ⟨r, (Table.get?_put_ne fun hk => hsame (hk.trans hid)).trans (Table.get?_key hr), hx⟩

theorem RunChange.keepsStarts {db t : Db} (h : RunChange db request t) : KeepsStarts db t := by
  cases h with
  | kept hruns => exact fun run hrun x hx => ⟨run, hruns ▸ Table.get?_key hrun, hx⟩
  | created run hstatus hstarted hcompleted hinsert =>
    intro r hr x hx
    exact ⟨r, Table.get?_key ((Table.mem_insert? hinsert).mpr (.inl hr)), hx⟩
  | reported run payload hop hget hruns =>
    refine KeepsStarts.put hruns hget rfl fun x hx => ?_
    simp only [TaskExecutionRun.reported, hx, Option.some_or, ite_self]
  | dispatched run texts task acceptance hop hget hdispatchable hruns =>
    refine KeepsStarts.put hruns hget rfl fun x hx => ?_
    simp only [TaskExecutionRun.dispatched, hx, Option.some_or]

/-! ## Runs of the system -/

structure TimesTell (env : Env) (db : Db) (requests : List Request) : Prop where
  fit : ∀ t ∈ (machine env).committed db requests, TimesFit t
  starts : (machine env).Along ((machine env).Each fun s _ t => KeepsStarts s t) db requests

theorem starts_kept (env : Env) (db : Db) (requests : List Request) :
    (machine env).Along ((machine env).Each fun s _ t => KeepsStarts s t) db requests :=
  Machine.along_of_forall (fun _ _ _ ht => (runChange_of_mem ht).keepsStarts) db requests

/-- **The times tell the truth** in every run of the system in which nothing is mistimed. -/
theorem timesTell {env : Env} {db : Db} {requests : List Request} (hfit : TimesFit db)
    (h : (machine env).Along (fun s request => mistimesRun s request = false) db requests) :
    TimesTell env db requests where
  fit := Machine.committed_inv TimesFit (fun _ _ hs htimed _ ht => (runChange_of_mem ht).keepsTimes htimed hs) hfit h
  starts := starts_kept env db requests

namespace Sample

def createdRun : Db := { db with tasks := ⟨[task], Table.nodup_one task⟩, runs := ⟨[run .queued], nodup_run .queued⟩ }

def dispatchOfRun : Operation :=
  .dispatchRun 1 1 1 1 (.ok { externalRunId := "r-1", workspacePath := "/work", branchName := "main",
                              summary := "Accepted.", dump := .null })

end Sample

theorem timesTell_createdRun :
    TimesTell Sample.env Sample.createdRun
      [⟨1, Sample.dispatchOfRun⟩, ⟨2, .callback 1 { status := .running }⟩, ⟨3, .callback 1 { status := .succeeded }⟩] := by
  refine timesTell (fun run hrun => ?_) (by decide)
  obtain rfl := List.mem_singleton.mp hrun
  exact ⟨rfl, fun h => absurd h Bool.false_ne_true, nofun⟩

/-- A blocked run that is dispatched again is still completed while it is dispatched. -/
theorem not_timesTell :
    ¬ ∀ (env : Env) (db : Db) (requests : List Request), TimesFit db → TimesTell env db requests := by
  intro h
  have hfit : TimesFit Sample.createdRun := by
    intro run hrun
    obtain rfl := List.mem_singleton.mp hrun
    exact ⟨rfl, fun h => absurd h Bool.false_ne_true, nofun⟩
  have htell := h Sample.env Sample.createdRun
    [⟨1, Sample.dispatchOfRun⟩, ⟨2, .callback 1 { status := .blocked }⟩, ⟨3, Sample.dispatchOfRun⟩] hfit
  have hcompleted : ∀ t ∈ (machine Sample.env).committed Sample.createdRun
      [⟨1, Sample.dispatchOfRun⟩, ⟨2, .callback 1 { status := .blocked }⟩, ⟨3, Sample.dispatchOfRun⟩],
      ∀ run ∈ t.runs.rows, run.completedAt.isSome = run.status.completes :=
    fun t ht run hrun => (htell.fit t ht run hrun).completed
  exact absurd hcompleted (by decide)

end SiloForge
