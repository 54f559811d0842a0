import SiloForge.System.Operations
import SiloForge.Tasks.Patched

/-!
# What a request commits

`Commit db request t` lists, once, everything a request can do to the database: one constructor for each
kind of write, with the checks it went through and the state it leaves written out. The invariants of the
system are case analyses over it.

* `ReportsTo` : the run a callback or a PATCH of a run is about, and the status it carries;
* `commit_of_mem` : every committed state is the outcome of a `Commit`.
-/

namespace SiloForge

open Lib

def Operation.creation? : Operation → Option (Uuid × Uuid × TaskCreate)
  | .createTask boardId taskId _ payload => some (boardId, taskId, payload)
  | .createTaskAsLead boardId taskId _ payload => some (boardId, taskId, payload)
  | _ => none

def Operation.patched? : Operation → Option Uuid
  | .updateTask _ taskId _ _ => some taskId
  | _ => none

def Operation.written? : Operation → Option Uuid
  | .createTask _ taskId _ _ | .createTaskAsLead _ taskId _ _ | .updateTask _ taskId _ _ => some taskId
  | _ => none

/-- The request reports on the run, with this status if any: a callback, or the PATCH of an administrator. -/
inductive ReportsTo (db : Db) : Operation → TaskExecutionRun → Option ExecutionRunStatus → Board → Task → Prop
  | callback {runId : Uuid} {payload : ExecutionCallbackContract} {run : TaskExecutionRun} {task : Task}
      {board : Board} (hrun : db.runs.get? runId = some run) (htask : db.tasks.get? run.taskId = some task)
      (hboard : db.boards.get? run.boardId = some board) :
      ReportsTo db (.callback runId payload) run (some payload.status) board task
  | patch {scope : RunScope} {runId : Uuid} {payload : TaskExecutionRunUpdate} {run : TaskExecutionRun}
      {task : Task} {board : Board}
      (hscope : getBoardAndTask db scope.userId scope.organizationId scope.boardId scope.taskId = .ok (board, task))
      (hrun : findRun db scope.organizationId board.id task.id runId = some run) :
      ReportsTo db (.updateRun scope runId payload) run payload.status board task

variable {op : Operation}

theorem Operation.patched?_of_creation? {created : Uuid × Uuid × TaskCreate} (h : op.creation? = some created) :
    op.patched? = none := by
  cases op <;> first | rfl | cases h

theorem Operation.written?_of_creation? {boardId taskId : Uuid} {payload : TaskCreate}
    (h : op.creation? = some (boardId, taskId, payload)) : op.written? = some taskId := by
  cases op <;> cases h <;> rfl

theorem Operation.written?_of_patched? {taskId : Uuid} (h : op.patched? = some taskId) : op.written? = some taskId := by
  cases op <;> cases h
  rfl

theorem ReportsTo.written? {db : Db} {run : TaskExecutionRun} {status : Option ExecutionRunStatus} {board : Board}
    {task : Task} (h : ReportsTo db op run status board task) : op.written? = none := by
  cases h <;> rfl

/-- The writes of the system. -/
inductive Commit (db : Db) (request : Request) : Db → Prop
  | created (board : Board) (task : Task) (payload : TaskCreate) (deps : List Uuid) (tasks : Table Task)
      (dependencies : Table TaskDependency) (customFieldValues : Table TaskCustomFieldValue)
      (tagAssignments : Table TagAssignment) (events : List ActivityEvent)
      (hop : request.op.creation? = some (board.id, task.id, payload))
      (rules : NewTaskRules db board task payload deps)
      (htasks : db.tasks.insert? task = some tasks)
      (hdeps : db.dependencies.insertAll? (dependencyRows board.id task.id deps) = some dependencies) :
      Commit db request { db with tasks, dependencies, customFieldValues, tagAssignments, events }
  | patched (actor : Actor) (payload : TaskUpdate) (ctx : ActorContext) (task task' : Task) (board : Board)
      (dependencies : Table TaskDependency) (customFieldValues : Table TaskCustomFieldValue)
      (tagAssignments : Table TagAssignment) (events : List ActivityEvent)
      (hop : request.op = .updateTask board.id task.id actor payload)
      (hactor : requireUserOrAgent db actor = .ok ctx)
      (htask : db.tasks.get? task.id = some task) (hon : task.boardId = some board.id)
      (hboard : db.boards.get? board.id = some board)
      (rules : PatchRules db { task, boardId := board.id, now := request.now, updates := payload } ctx
        dependencies task') :
      Commit db request
        { storedState db task' dependencies tagAssignments customFieldValues with events }
  | reconciled (actor : Actor) (payload : TaskUpdate) (ctx : ActorContext) (task task' : Task) (board : Board)
      (dependencies : Table TaskDependency) (customFieldValues : Table TaskCustomFieldValue)
      (tagAssignments : Table TagAssignment) (events : List ActivityEvent)
      (hop : request.op = .updateTask board.id task.id actor payload)
      (hactor : requireUserOrAgent db actor = .ok ctx)
      (htask : db.tasks.get? task.id = some task) (hon : task.boardId = some board.id)
      (hboard : db.boards.get? board.id = some board)
      (rules : PatchRules db { task, boardId := board.id, now := request.now, updates := payload } ctx
        dependencies task') :
      Commit db request
        { storedState db task' dependencies tagAssignments customFieldValues with
          tasks := reconcileTasks (storedState db task' dependencies tagAssignments customFieldValues)
            request.now board.id task' task.status
          events }
  | deleted (boardId taskId : Uuid) (actor : Actor) (customFieldValues : Table TaskCustomFieldValue)
      (tagAssignments : Table TagAssignment) (events : List ActivityEvent)
      (hop : request.op = .deleteTask boardId taskId actor) (hruns : ∀ run ∈ db.runs, run.taskId ≠ taskId) :
      Commit db request
        { db with
          tasks := db.tasks.deleteWhere fun t => t.id = taskId
          dependencies := db.dependencies.deleteWhere fun d => d.taskId = taskId ∨ d.dependsOnTaskId = taskId
          approvals := detachApprovals db.approvals
            (db.approvalTaskLinks.deleteWhere fun l => l.taskId = taskId) taskId
          approvalTaskLinks := db.approvalTaskLinks.deleteWhere fun l => l.taskId = taskId
          events, tagAssignments, customFieldValues }
  | released (agentId : Uuid) (events : List ActivityEvent) (hop : request.op = .deleteAgent agentId) :
      Commit db request
        { db with
          tasks := releaseAgentTasks db.tasks request.now agentId
          approvals := releaseAgentApprovals db.approvals agentId
          agents := db.agents.deleteWhere fun a => a.id = agentId
          events }
  | logged (events : List ActivityEvent) (hother : request.op.written? = none) :
      Commit db request { db with events }
  | approvalCreated (boardId approvalId : Uuid) (actor : Actor) (payload : ApprovalCreate) (approval : Approval)
      (taskIds : List Uuid) (approvals : Table Approval) (approvalTaskLinks : Table ApprovalTaskLink)
      (hop : request.op = .createApproval boardId approvalId actor payload)
      (hid : approval.id = approvalId) (hboard : approval.boardId = boardId)
      (hstatus : approval.status = payload.status) (hinsert : db.approvals.insert? approval = some approvals)
      (hlinks : replaceApprovalTaskLinks db approval.id taskIds = .ok approvalTaskLinks) :
      Commit db request { db with approvals, approvalTaskLinks }
  | approvalResolved (boardId approvalId userId : Uuid) (status : Option ApprovalStatus) (approval : Approval)
      (targetStatus : ApprovalStatus) (hop : request.op = .updateApproval boardId approvalId userId status)
      (hget : db.approvals.get? approvalId = some approval) :
      Commit db request { db with approvals := db.approvals.put (approval.resolve request.now targetStatus) }
  | runCreated (board : Board) (task : Task) (run : TaskExecutionRun) (runs : Table TaskExecutionRun)
      (events : List ActivityEvent) (hboard : run.boardId = board.id) (htask : run.taskId = task.id)
      (hfound : db.tasks.get? task.id = some task) (hon : task.boardId = some board.id)
      (hstatus : run.status = .queued) (hruns : db.runs.insert? run = some runs)
      (hother : request.op.written? = none) : Commit db request { db with runs, events }
  | runReported (board : Board) (task : Task) (run : TaskExecutionRun) (payload : TaskExecutionRunUpdate)
      (tasks : Table Task) (events : List ActivityEvent)
      (hreport : ReportsTo db request.op run payload.status board task)
      (hrun : db.runs.get? run.id = some run)
      (htasks : TasksAfterReport db request.now board task payload.status tasks) :
      Commit db request { db with runs := db.runs.put (run.reported request.now payload), tasks, events }
  | runCancelled (run : TaskExecutionRun) (note : Option String) (events : List ActivityEvent)
      (hrun : db.runs.get? run.id = some run) (hactive : run.status.isTerminal = false)
      (hother : request.op.written? = none) :
      Commit db request { db with runs := db.runs.put (run.reported request.now (cancelReport note)), events }
  | runEscalated (scope : RunScope) (runId : Uuid) (note : Option String) (board : Board) (task : Task)
      (approval : Approval) (approvals : Table Approval) (approvalTaskLinks : Table ApprovalTaskLink)
      (tasks : Table Task) (events : List ActivityEvent)
      (hop : request.op = .escalateRun scope runId approval.id note)
      (hscope : getBoardAndTask db scope.userId scope.organizationId scope.boardId scope.taskId = .ok (board, task))
      (hconflicts : pendingApprovalConflicts db board.id [task.id] none = [])
      (hpending : approval.status = .pending)
      (hinsert : db.approvals.insert? approval = some approvals)
      (hlinks : replaceApprovalTaskLinks db approval.id [task.id] = .ok approvalTaskLinks)
      (htasks : tasks = db.tasks ∨ (task.status = .inbox ∨ task.status = .inProgress) ∧
        tasks = db.tasks.put (escalatedTask task request.now (boardLead db board.id))) :
      Commit db request { db with approvals, approvalTaskLinks, tasks, events }
  | runDispatched (run : TaskExecutionRun) (texts : RunTexts) (task : Task)
      (acceptance : SymphonyDispatchAcceptance) (events : List ActivityEvent)
      (hrun : db.runs.get? run.id = some run) (hdispatchable : run.status.isDispatchable = true)
      (hother : request.op.written? = none) :
      Commit db request { db with runs := db.runs.put (run.dispatched texts task request.now acceptance), events }

theorem Commit.boards {db t : Db} {request : Request} (h : Commit db request t) : t.boards = db.boards := by
  cases h <;> rfl

/-! ## The endpoints -/

section Endpoints
variable {db : Db} {request : Request} {t : Db}

theorem commit_of_creates {boardId taskId : Uuid} {payload : TaskCreate} {commits : List Db}
    (hop : request.op.creation? = some (boardId, taskId, payload))
    (h : Creates db payload boardId taskId commits) (ht : t ∈ commits) : Commit db request t := by
  obtain ⟨board, task, deps, tasks, dependencies, values, tags, rfl, rfl, hrules, htasks, hdeps, hall⟩ := h.stores
  obtain ⟨events, rfl⟩ := hall t ht
  exact .created board task payload deps tasks dependencies values tags events hop hrules htasks hdeps

theorem commit_of_updateTask (env : Env) {boardId taskId : Uuid} {actor : Actor} {payload : TaskUpdate} {commits : List Db}
    (hop : request.op = .updateTask boardId taskId actor payload)
    (h : updateTask env.texts db request.now boardId taskId actor payload = .ok commits) (ht : t ∈ commits) :
    Commit db request t := by
  obtain ⟨ctx, task, board, task', dependencies, tags, values, hctx, htask, rfl, hon, hboard, hrules, pre, events,
    agentId, rfl, hpre⟩ := updateTask_eq_ok h
  obtain rfl : board.id = boardId := Table.key_of_get? hboard
  rcases List.mem_append.mp ht with ht | ht
  · obtain ⟨events', rfl⟩ := hpre t ht
    exact .patched actor payload ctx task task' board dependencies values tags events' hop hctx htask hon hboard
      hrules
  · obtain rfl := List.mem_singleton.mp ht
    exact .reconciled actor payload ctx task task' board dependencies values tags _ hop hctx htask hon hboard
      hrules

theorem commit_of_report (env : Env) {scope : RunScope} {runId : Uuid} {payload : TaskExecutionRunUpdate} {board : Board}
    {task : Task} (hop : request.op = .updateRun scope runId payload)
    (hscope : getBoardAndTask db scope.userId scope.organizationId scope.boardId scope.taskId = .ok (board, task))
    (h : updateRun env.runTexts db request.now scope.organizationId board task runId payload = .ok t) :
    Commit db request t := by
  obtain ⟨run, tasks, events, hrun, htasks, rfl⟩ := updateRun_eq_ok h
  obtain ⟨hget, rfl, -⟩ := findRun_eq_some hrun
  exact .runReported board task run payload tasks events (hop ▸ .patch hscope hrun) hget htasks

theorem commit_of_callback (env : Env) {runId : Uuid} {payload : ExecutionCallbackContract}
    (hop : request.op = .callback runId payload)
    (h : updateRunById env.runTexts db request.now runId payload.toCallback = .ok t) : Commit db request t := by
  obtain ⟨run, task, board, tasks, events, hrun, htask, hboard, htasks, rfl⟩ := updateRunById_eq_ok h
  obtain rfl : run.id = runId := Table.key_of_get? hrun
  exact .runReported board task run payload.toCallback.toUpdate tasks events (hop ▸ .callback hrun htask hboard) hrun htasks

end Endpoints

/-- **Every committed state is the outcome of a `Commit`.** -/
theorem commit_of_mem {env : Env} {db : Db} {request : Request} {t : Db}
    (h : t ∈ (machine env).commits db request) : Commit db request t := by
  obtain ⟨now, op⟩ := request
  cases op with
  | createTask boardId taskId userId payload =>
    obtain ⟨commits, hok, ht⟩ := Response.mem_ofExcept.mp h
    exact commit_of_creates rfl (createTask_eq_ok hok) ht
  | createTaskAsLead boardId taskId agentId payload =>
    obtain ⟨commits, hok, ht⟩ := Response.mem_ofExcept.mp h
    exact commit_of_creates rfl (createTaskAsLead_eq_ok hok) ht
  | updateTask boardId taskId actor payload =>
    obtain ⟨commits, hok, ht⟩ := Response.mem_ofExcept.mp h
    exact commit_of_updateTask env rfl hok ht
  | deleteTask boardId taskId actor =>
    obtain ⟨_, rfl, hruns, events, tags, values, rfl⟩ := deleteTask_eq_ok (Response.mem_single.mp h)
    exact .deleted boardId taskId actor values tags events rfl hruns
  | createTaskComment boardId taskId actor message =>
    obtain ⟨events, rfl⟩ := createTaskComment_eq_ok (Response.mem_single.mp h)
    exact .logged events rfl
  | deleteAgent agentId =>
    obtain ⟨events, rfl⟩ := deleteAgentRecord_eq_ok (Response.mem_single.mp h)
    exact .released agentId events rfl
  | createApproval boardId approvalId actor payload =>
    obtain ⟨checked, hstatus, hstore⟩ := createApproval_eq_ok (Response.mem_single.mp h)
    obtain ⟨approvals, links, hinsert, hlinks, rfl⟩ := storeApproval_eq_ok hstore
    exact .approvalCreated boardId approvalId actor payload _ _ approvals links rfl rfl rfl hstatus hinsert hlinks
  | updateApproval boardId approvalId userId status =>
    rcases updateApproval_eq_ok (Response.mem_single.mp h) with rfl | ⟨approval, target, -, hget, rfl⟩
    · exact .logged t.events rfl
    · exact .approvalResolved boardId approvalId userId status approval target rfl hget
  | createRun scope runId payload =>
    obtain ⟨board, task, hscope, hok⟩ := onRun_eq_ok (Response.mem_single.mp h)
    obtain ⟨-, -, -, htask, hid, hon⟩ := getBoardAndTask_eq_ok hscope
    obtain ⟨run, runs, events, -, hboard, hrtask, hstatus, -, hruns, rfl⟩ := createRun_eq_ok hok
    exact .runCreated board task run runs events hboard hrtask (hid ▸ htask) hon hstatus hruns rfl
  | retryRun scope runId newRunId =>
    obtain ⟨board, task, hscope, hmem⟩ := mem_onRetry h
    obtain ⟨-, -, -, htask, hid, hon⟩ := getBoardAndTask_eq_ok hscope
    obtain ⟨run, runs, events, -, hboard, hrtask, hstatus, -, hruns, rfl⟩ := mem_retryRun hmem
    exact .runCreated board task run runs events hboard hrtask (hid ▸ htask) hon hstatus hruns rfl
  | updateRun scope runId payload =>
    obtain ⟨board, task, hscope, hok⟩ := onRun_eq_ok (Response.mem_single.mp h)
    exact commit_of_report env rfl hscope hok
  | cancelRun scope runId note =>
    obtain ⟨board, task, -, hok⟩ := onRun_eq_ok (Response.mem_single.mp h)
    obtain ⟨run, events, hrun, hactive, rfl⟩ := cancelRun_eq_ok hok
    obtain ⟨hget, rfl, -⟩ := findRun_eq_some hrun
    exact .runCancelled run note events hget hactive rfl
  | acknowledgeRun scope runId =>
    obtain ⟨board, task, -, hok⟩ := onRun_eq_ok (Response.mem_single.mp h)
    obtain ⟨events, rfl⟩ := acknowledgeRun_eq_ok hok
    exact .logged events rfl
  | escalateRun scope runId approvalId note =>
    obtain ⟨board, task, hscope, hok⟩ := onRun_eq_ok (Response.mem_single.mp h)
    obtain ⟨run, silo, hconflicts, hstore⟩ := escalateRun_eq_ok hok
    obtain ⟨approval, approvals, links, tasks, events, rfl, -, -, hpending, -, hinsert, hlinks, htasks, rfl⟩ :=
      storeEscalation_eq_ok hstore
    exact .runEscalated scope runId note board task approval approvals links tasks events rfl hscope hconflicts
      hpending hinsert hlinks htasks
  | callback runId payload =>
    exact commit_of_callback env rfl (mapError_eq_ok.mp (Response.mem_single.mp h))
  | dispatchRun organizationId boardId taskId runId answer =>
    obtain ⟨commits, hok, ht⟩ := Response.mem_ofExcept.mp h
    obtain ⟨run, task, acceptance, events, hrun, hdispatchable, rfl⟩ := dispatchRun_eq_ok hok t ht
    obtain ⟨hget, rfl, -⟩ := findRun_eq_some hrun
    exact .runDispatched run env.runTexts task acceptance events hget hdispatchable rfl

end SiloForge
