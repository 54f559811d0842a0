import SiloForge.System.TaskChange

/-!
# The dependency gate

A task that waits should not move forward. Creation and the three kinds of PATCH check it; the reports of the
runtime and the escalation of a run move the task without a look at its dependencies.

* `DependencyGated` : no request moves a task forward that waits in the state it commits;
* `movesWaitingTask` : a report or an escalation moves a task that waits;
* `dependencyGated` : the gate holds while no such request is answered.
-/

namespace SiloForge

open Lib

/-- A task that may not exist before gets further along: out of the inbox, or from work to review, or done. -/
def Forward (previous : Option Task) (status : TaskStatus) : Prop :=
  (previous.elim 0 fun old => old.status.rank) < status.rank

instance (previous : Option Task) (status : TaskStatus) : Decidable (Forward previous status) :=
  inferInstanceAs (Decidable (_ < _))

/-- No request moves a task forward that waits. -/
def DependencyGated (env : Env) (db : Db) (requests : List Request) : Prop :=
  (machine env).Along ((machine env).Each fun s _ t => ∀ taskId new, t.tasks.get? taskId = some new →
    Waits t taskId → ¬ Forward (s.tasks.get? taskId) new.status) db requests

/-! ## The requests that skip the gate -/

def Operation.reportedTask? (db : Db) : Operation → Option (Board × Task × ExecutionRunStatus)
  | .callback runId payload => do
    let run ← db.runs.get? runId
    let task ← db.tasks.get? run.taskId
    let board ← db.boards.get? run.boardId
    return (board, task, payload.status)
  | .updateRun scope _ payload => do
    let board ← db.boards.get? scope.boardId
    let task ← db.tasks.get? scope.taskId
    let status ← payload.status
    return (board, task, status)
  | _ => none

def Operation.escalatedTask? (db : Db) : Operation → Option Task
  | .escalateRun scope _ _ _ => db.tasks.get? scope.taskId
  | _ => none

def movedTask? (db : Db) (request : Request) : Option Uuid :=
  match request.op.reportedTask? db with
  | some (board, task, status) =>
    if (callbackTask db request.now board task status).isSome then some task.id else none
  | none =>
    ((request.op.escalatedTask? db).filter fun task => task.status = .inbox ∨ task.status = .inProgress).map (·.id)

def movesWaitingTask (db : Db) (request : Request) : Bool :=
  (movedTask? db request).any fun taskId => Waits db taskId

theorem ReportsTo.reportedTask? {db : Db} {op : Operation} {run : TaskExecutionRun} {status : ExecutionRunStatus}
    {board : Board} {task : Task} (h : ReportsTo db op run (some status) board task) :
    op.reportedTask? db = some (board, task, status) := by
  generalize hs : some status = reported at h
  cases h with
  | callback hrun htask hboard =>
    obtain rfl := Option.some.inj hs
    simp [Operation.reportedTask?, hrun, htask, hboard]
  | patch hscope hrun =>
    obtain ⟨hboard, -, -, htask, -, -⟩ := getBoardAndTask_eq_ok hscope
    simp [Operation.reportedTask?, hboard, htask, ← hs]

variable {request : Request}

theorem Commit.waits_of_written?_eq_none {db t : Db} (h : Commit db request t) (hdb : WellFormed db)
    (hother : request.op.written? = none) {x : Uuid} (hwaits : Waits t x) : Waits db x := by
  rcases h.waits_cases hdb hwaits with hold | hwritten | ⟨dep, dep', board, hreopens, -⟩
  · exact hold
  · rw [hother] at hwritten
    cases hwritten
  · rw [Operation.written?_of_patched? hreopens.op] at hother
    cases hother

theorem ReportsTo.movedTask? {db : Db} {run : TaskExecutionRun} {status : ExecutionRunStatus} {board : Board}
    {task moved : Task} (h : ReportsTo db request.op run (some status) board task)
    (hmoved : callbackTask db request.now board task status = some moved) :
    SiloForge.movedTask? db request = some moved.id := by
  simp [SiloForge.movedTask?, h.reportedTask?, hmoved, (callbackTask_same hmoved).id]

theorem movedTask?_escalateRun {db : Db} {scope : RunScope} {runId approvalId : Uuid} {note : Option String}
    {board : Board} {task : Task} (hop : request.op = .escalateRun scope runId approvalId note)
    (hscope : getBoardAndTask db scope.userId scope.organizationId scope.boardId scope.taskId = .ok (board, task))
    (hstatus : task.status = .inbox ∨ task.status = .inProgress) : movedTask? db request = some task.id := by
  obtain ⟨-, -, -, htask, -, -⟩ := getBoardAndTask_eq_ok hscope
  simp [movedTask?, hop, Operation.reportedTask?, Operation.escalatedTask?, htask, hstatus]

/-! ## The gate -/

theorem not_forward_of_eq {old : Task} {status : TaskStatus} (h : status = old.status) :
    ¬ Forward (some old) status := by
  simp [Forward, h]

theorem not_forward_inbox (previous : Option Task) : ¬ Forward previous .inbox := Nat.not_lt_zero _

/-- **One request**: a task that waits moves forward only by a report or an escalation. -/
theorem Commit.not_forward {db t : Db} (h : Commit db request t) (hdb : WellFormed db)
    (hmoves : movesWaitingTask db request = false) {x : Uuid} {new : Task} (hnew : t.tasks.get? x = some new)
    (hwaits : Waits t x) : ¬ Forward (db.tasks.get? x) new.status := by
  obtain rfl : new.id = x := Table.key_of_get? hnew
  cases h.taskChange hdb hnew with
  | unchanged hfound hother => exact hfound ▸ not_forward_of_eq rfl
  | created board payload deps hop hfresh rules hdeps =>
    have hrest := h.created_blocked hdb hop hfresh rules hdeps hwaits
    rw [hrest.1]
    exact not_forward_inbox _
  | patched actor payload ctx old board hop hactor hfound hon hboard rules =>
    rw [rules.same.id] at hwaits ⊢
    rw [hfound]
    cases h.patch_blocked hdb (by rw [hop]; rfl) rules hfound hon hwaits with
    | rest hrest => rw [hrest.1]; exact not_forward_inbox _
    | done before after => exact not_forward_of_eq (after.trans before.symm)
    | kept hkept hlead => exact not_forward_of_eq hkept.1
  | cascaded => exact not_forward_inbox _
  | stopped => exact not_forward_inbox _
  | @unassigned old agentId hop hfound => exact hfound ▸ not_forward_of_eq rfl
  | reported run status board old hreport hrun hmoved =>
    have hold := h.waits_of_written?_eq_none hdb hreport.written? hwaits
    simp [movesWaitingTask, hreport.movedTask? hmoved, hold] at hmoves
  | @escalated scope runId approvalId note board old hop hscope hconflicts hstatus =>
    have hold : Waits db old.id := h.waits_of_written?_eq_none hdb (by rw [hop]; rfl) hwaits
    simp [movesWaitingTask, movedTask?_escalateRun hop hscope hstatus, hold] at hmoves

/-- **The gate holds** in every run of the system in which no report and no escalation moves a waiting task. -/
theorem dependencyGated {env : Env} {db : Db} {requests : List Request} (hdb : WellFormed db)
    (h : (machine env).Along (fun s request => movesWaitingTask s request = false) db requests) :
    DependencyGated env db requests :=
  along_each (fun _ _ _ hs hmoves ht _ _ hnew hwaits => ht.not_forward hs hmoves hnew hwaits) hdb h

namespace Sample

def waiting : Db :=
  { db with
    boards := ⟨[{ board with requireApprovalForDone := false }], by decide⟩
    tasks := ⟨[task, { task with id := 2, title := "Design" }], nodup_design⟩
    dependencies := ⟨[{ boardId := 1, taskId := 1, dependsOnTaskId := 2 }], List.nodup_singleton _⟩
    runs := ⟨[run .dispatching], nodup_run .dispatching⟩ }

theorem wellFormed_waiting : WellFormed waiting where
  dependencies d hd := by
    obtain rfl := List.mem_singleton.mp hd
    exact ⟨⟨_, rfl, rfl⟩, _, rfl, rfl⟩
  noSelf d hd := by
    obtain rfl := List.mem_singleton.mp hd
    decide
  runs r hr := by
    obtain rfl := List.mem_singleton.mp hr
    exact ⟨_, rfl, rfl⟩

def finishesDependency : Request := ⟨1, .updateTask 1 2 (.user 1) { status := some .done }⟩

def runStarts : Request := ⟨2, .callback 1 { status := .running }⟩

end Sample

theorem dependencyGated_waiting :
    DependencyGated Sample.env Sample.waiting [Sample.finishesDependency, Sample.runStarts] :=
  dependencyGated Sample.wellFormed_waiting (by decide)

/-- A run that starts moves its task although the task waits. -/
theorem not_dependencyGated :
    ¬ ∀ (env : Env) (db : Db) (requests : List Request), WellFormed db → DependencyGated env db requests := by
  intro h
  obtain ⟨hstarts, -⟩ := h Sample.env Sample.waiting [Sample.runStarts] Sample.wellFormed_waiting
  have hmoved : ∃ t ∈ (machine Sample.env).commits Sample.waiting Sample.runStarts,
      Waits t 1 ∧ (t.tasks.get? 1).map (·.status) = some .inProgress := by decide
  obtain ⟨t, ht, hwaits, hnew⟩ := hmoved
  obtain ⟨new, hnew, hstatus⟩ := Option.map_eq_some_iff.mp hnew
  refine hstarts t ht 1 new hnew hwaits ?_
  rw [hstatus]
  decide

end SiloForge
