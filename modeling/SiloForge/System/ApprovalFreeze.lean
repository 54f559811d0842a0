import SiloForge.System.TaskChange

/-!
# Frozen tasks

A board may freeze the status of a task while an approval of it is pending. The gate looks at the status a
request asks for. What a request does to a status nobody asked for is not gated: a user's request that leaves
the task blocked, the cascade of a reopened dependency and the deletion of an agent send it to the inbox.

* `frozen` : the board freezes the task;
* `Thaws` : the three side effects;
* `frozenWhilePending` : no other request but the report of a running run changes the status of a frozen task.
-/

namespace SiloForge

open Lib

/-- The board freezes the task: an approval of it is pending. -/
def frozen (db : Db) (boardId taskId : Uuid) : Bool :=
  (db.boards.get? boardId).any (·.blockStatusChangesWithPendingApproval) &&
    taskHasPendingLinkedApproval db boardId taskId

theorem frozen_iff {db : Db} {boardId taskId : Uuid} :
    frozen db boardId taskId = true ↔
      (∃ board, db.boards.get? boardId = some board ∧ board.blockStatusChangesWithPendingApproval = true) ∧
        ∃ a, PendingFor db boardId taskId a := by
  simp [frozen, Option.any_eq_true, taskHasPendingLinkedApproval_iff]

def Operation.reportsRunning : Operation → Bool
  | .callback _ payload => payload.status = .running
  | .updateRun _ _ payload => payload.status = some .running
  | _ => false

/-- Why a request sends a frozen task to the inbox. -/
inductive Thaws (db : Db) (request : Request) (t : Db) (old : Task) : Prop
  | blocked (boardId userId : Uuid) (payload : TaskUpdate)
      (hop : request.op = .updateTask boardId old.id (.user userId) payload)
      (hstatus : payload.status.all (· = old.status) = true)
      (hwaits : ∃ d ∈ t.dependencies, d.taskId = old.id ∧
        ∃ dep, db.tasks.get? d.dependsOnTaskId = some dep ∧ dep.status ≠ .done)
  | cascade (dep dep' : Task) (board : Board) (hreopens : Reopens db request t dep dep' board)
      (hdep : ∃ d ∈ t.dependencies, d.taskId = old.id ∧ d.dependsOnTaskId = dep.id)
  | agentDeleted (agentId : Uuid) (hop : request.op = .deleteAgent agentId)
      (hassigned : old.assignedAgentId = some agentId) (hstatus : old.status = .inProgress)

def KeepsFrozen (s t : Db) : Prop :=
  ∀ boardId taskId old new, s.tasks.get? taskId = some old → old.boardId = some boardId →
    frozen s boardId taskId = true → t.tasks.get? taskId = some new → new.status = old.status

/-- A frozen task keeps its status or goes to the inbox for one of the reasons. -/
def FrozenWhilePending (env : Env) (db : Db) (requests : List Request) : Prop :=
  (machine env).Along ((machine env).Each fun s request t => request.op.reportsRunning = false →
    ∀ boardId taskId old new, s.tasks.get? taskId = some old → old.boardId = some boardId →
      frozen s boardId taskId = true → t.tasks.get? taskId = some new →
        new.status = old.status ∨ new.status = .inbox ∧ Thaws s request t old) db requests

theorem ReportsTo.reportsRunning {db : Db} {op : Operation} {run : TaskExecutionRun} {board : Board} {task : Task}
    (h : ReportsTo db op run (some .running) board task) : op.reportsRunning = true := by
  generalize hs : some ExecutionRunStatus.running = reported at h
  cases h with
  | callback hrun htask hboard => simp [Operation.reportsRunning, ← Option.some.inj hs]
  | patch hscope hrun => simp [Operation.reportsRunning, ← hs]

/-- **One request**: a frozen task keeps its status, or goes to the inbox for one of the reasons. -/
theorem Commit.keepsFrozen {db t : Db} {request : Request} (h : Commit db request t) (hdb : WellFormed db)
    (hrunning : request.op.reportsRunning = false) {boardId x : Uuid} {old new : Task}
    (hold : db.tasks.get? x = some old) (hon : old.boardId = some boardId) (hfrozen : frozen db boardId x = true)
    (hnew : t.tasks.get? x = some new) :
    new.status = old.status ∨ new.status = .inbox ∧ Thaws db request t old := by
  obtain ⟨⟨board, hboard, hrule⟩, a, ha⟩ := frozen_iff.mp hfrozen
  have hpending : taskHasPendingLinkedApproval db boardId x = true :=
    taskHasPendingLinkedApproval_iff.mpr ⟨a, ha⟩
  obtain rfl : new.id = x := Table.key_of_get? hnew
  -- The row a change starts from is the stored one.
  have hsame : ∀ {old' : Task}, db.tasks.get? new.id = some old' → old' = old := fun h' =>
    Option.some.inj (h'.symm.trans hold)
  cases h.taskChange hdb hnew with
  | unchanged hfound hother => exact .inl (congrArg Task.status (hsame hfound))
  | created board' payload deps hop hfresh rules hdeps =>
    rw [hfresh] at hold
    cases hold
  | patched actor payload ctx old' board' hop hactor hfound hon' hboard' rules =>
    obtain rfl := hsame (rules.same.id ▸ hfound)
    obtain rfl : board'.id = boardId := Option.some.inj (hon'.symm.trans hon)
    obtain ⟨_, deps, heff, hreason, -⟩ := rules.effective
    by_cases hstatus : new.status = old'.status
    · exact .inl hstatus
    · by_cases hasked : TaskUpdateInput.statusRequested
          { task := old', boardId := board'.id, now := request.now, updates := payload } = true
      · -- The gate lets no requested change through.
        obtain ⟨hgate, -⟩ := statusGates_eq_ok rules.gates
        rw [hasked] at hgate
        have hnone := requireNoPendingApproval_eq_ok hgate (Ne.symm hstatus) hboard hrule
        rw [← rules.same.id, hpending] at hnone
        cases hnone
      · obtain ⟨hinbox, hblocked, huser⟩ := (hreason.resolve_left hstatus).resolve_left hasked
        refine .inr ⟨hinbox, ?_⟩
        rw [isUser_of_requireUserOrAgent hactor] at huser
        cases actor with
        | agent agentId => cases huser
        | user userId =>
          obtain ⟨id, hid, dep, hdep, hopen⟩ :=
            (taskBlockedIds_ne_nil_of_tasks (effective_onBoard hdb heff)).mp hblocked
          obtain ⟨d, hd, hdid, rfl⟩ := mem_of_effective heff hid
          refine .blocked board'.id userId payload hop ?_ ⟨d, hd, hdid, dep, hdep, hopen⟩
          simpa [TaskUpdateInput.statusRequested, Option.all_eq_true, Option.any_eq_true] using hasked
  | @cascaded old' dep dep' board' hfound hopen hreopens hdep =>
    obtain rfl := hsame hfound
    exact .inr ⟨rfl, .cascade dep dep' board' hreopens hdep⟩
  | @stopped old' agentId hop hfound hassigned hstatus =>
    obtain rfl := hsame hfound
    exact .inr ⟨rfl, .agentDeleted agentId hop hassigned hstatus⟩
  | @unassigned old' agentId hop hfound =>
    have hid : db.tasks.get? (old'.unassign request.now).id = some old' := hfound
    obtain rfl := hsame hid
    exact .inl rfl
  | reported run status board' old' hreport hrun hmoved =>
    obtain rfl := hsame ((callbackTask_same hmoved).id ▸ hreport.task_get?)
    obtain ⟨hboard', hon'⟩ := hreport.onBoard hdb
    obtain rfl : board'.id = boardId := Option.some.inj (hon'.symm.trans hon)
    obtain rfl := Option.some.inj (hboard'.symm.trans hboard)
    rcases callbackTask_eq_some hmoved with ⟨rfl, -, -⟩ | ⟨-, hauto, -⟩
    · exact absurd hrunning (by simp [hreport.reportsRunning])
    · rw [(callbackTask_same hmoved).id] at hpending
      simp [canAutoTransitionTask, hrule, hpending] at hauto
  | @escalated scope runId approvalId note board' old' hop hscope hconflicts hstatus =>
    obtain ⟨-, -, -, htask, hid, hon'⟩ := getBoardAndTask_eq_ok hscope
    obtain rfl := hsame (show db.tasks.get? old'.id = some old' from hid ▸ htask)
    obtain rfl : board'.id = boardId := Option.some.inj (hon'.symm.trans hon)
    have hnone := pendingApprovalConflicts_eq_nil.mp hconflicts old'.id (List.mem_singleton.mpr rfl) a ha
    cases hnone

/-- **Frozen tasks** in every run of the system: reports of running runs aside, a frozen task keeps its status
or goes to the inbox for one of the reasons. -/
theorem frozenWhilePending {env : Env} {db : Db} {requests : List Request} (hdb : WellFormed db) :
    FrozenWhilePending env db requests :=
  along_each (fun _ _ _ hs _ ht hrunning _ _ _ _ hold hon hfrozen hnew =>
    ht.keepsFrozen hs hrunning hold hon hfrozen hnew) hdb (Machine.along_of_forall (fun _ _ => trivial) _ _)

namespace Sample

def freezing : Db :=
  { db with
    boards := ⟨[{ board with blockStatusChangesWithPendingApproval := true }], by decide⟩
    tasks := ⟨[{ task with status := .inProgress, assignedAgentId := some 2, inProgressAt := some 0 },
      { task with id := 2, title := "Design" }], nodup_design⟩
    approvals := ⟨[{ id := 1, boardId := 1, taskId := some 1, actionType := "task.review" }], by decide⟩
    approvalTaskLinks := ⟨[{ approvalId := 1, taskId := 1 }], by decide⟩ }

def addsDependency : Request := ⟨1, .updateTask 1 1 (.user 1) { dependsOnTaskIds := some [2] }⟩

end Sample

theorem frozenWhilePending_freezing :
    FrozenWhilePending Sample.env Sample.freezing [Sample.addsDependency] :=
  frozenWhilePending (wellFormed_of_empty rfl rfl)

/-- A user who only changes dependencies sends a frozen task to the inbox. -/
theorem not_keepsFrozen :
    ¬ ∀ (env : Env) (db : Db) (requests : List Request), WellFormed db →
      (machine env).Along ((machine env).Each fun s _ t => KeepsFrozen s t) db requests := by
  intro h
  obtain ⟨hadds, -⟩ := h Sample.env Sample.freezing [Sample.addsDependency] (wellFormed_of_empty rfl rfl)
  have hmoved : ∃ t ∈ (machine Sample.env).commits Sample.freezing Sample.addsDependency,
      (t.tasks.get? 1).map (·.status) = some .inbox := by decide
  obtain ⟨t, ht, hnew⟩ := hmoved
  obtain ⟨new, hnew, hstatus⟩ := Option.map_eq_some_iff.mp hnew
  have hkept := hadds t ht 1 1 _ new rfl rfl (by decide) hnew
  rw [hstatus] at hkept
  cases hkept

end SiloForge
