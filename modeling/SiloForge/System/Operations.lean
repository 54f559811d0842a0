import SiloForge.Lib.Machine
import SiloForge.Runs.Service
import SiloForge.Tasks.Lifecycle

/-!
# The system of requests

Every request that writes boards' tasks, approvals or runs, one after the other on the committed database:
those of users, of agents, and the reports and dispatches of the runtime.

* `Operation`, `Request` : what is asked, and when;
* `respond` : the endpoint behind each operation; `machine` : the states it commits;
* `Request.byUser` : the request is authenticated as a user.
-/

namespace SiloForge

open Lib

structure RunScope where
  userId : Uuid
  organizationId : Uuid
  boardId : Uuid
  taskId : Uuid
  deriving DecidableEq

inductive Operation where
  | createTask (boardId taskId userId : Uuid) (payload : TaskCreate)
  | createTaskAsLead (boardId taskId agentId : Uuid) (payload : TaskCreate)
  | updateTask (boardId taskId : Uuid) (actor : Actor) (payload : TaskUpdate)
  | deleteTask (boardId taskId : Uuid) (actor : Actor)
  | createTaskComment (boardId taskId : Uuid) (actor : Actor) (message : String)
  | deleteAgent (agentId : Uuid)
  | createApproval (boardId approvalId : Uuid) (actor : Actor) (payload : ApprovalCreate)
  | updateApproval (boardId approvalId userId : Uuid) (status : Option ApprovalStatus)
  | createRun (scope : RunScope) (runId : Uuid) (payload : TaskExecutionRunCreate)
  | retryRun (scope : RunScope) (runId newRunId : Uuid)
  | updateRun (scope : RunScope) (runId : Uuid) (payload : TaskExecutionRunUpdate)
  | cancelRun (scope : RunScope) (runId : Uuid) (note : Option String)
  | acknowledgeRun (scope : RunScope) (runId : Uuid)
  | escalateRun (scope : RunScope) (runId approvalId : Uuid) (note : Option String)
  | callback (runId : Uuid) (payload : ExecutionCallbackContract)
  | dispatchRun (organizationId boardId taskId runId : Uuid)
      (answer : Except Failure SymphonyDispatchAcceptance)

structure Request where
  now : Time
  op : Operation

/-- The parts of the program the model leaves open. -/
structure Env where
  texts : Texts
  runTexts : RunTexts

/-- The run endpoints: look the board and task up, call the service, translate its errors. -/
def onRun (db : Db) (scope : RunScope) (service : Board → Task → Except Failure Db) : Except Failure Db := do
  let (board, task) ← getBoardAndTask db scope.userId scope.organizationId scope.boardId scope.taskId
  (service board task).mapError Failure.ofValueError

/-- The retry endpoint, whose service commits twice. -/
def onRetry (db : Db) (scope : RunScope) (service : Board → Task → Response Db) : Response Db :=
  match getBoardAndTask db scope.userId scope.organizationId scope.boardId scope.taskId with
  | .error e => { commits := [], failure := some e }
  | .ok (board, task) =>
    let response := service board task
    { response with failure := response.failure.map Failure.ofValueError }

/-- The endpoint behind an operation. -/
def respond (env : Env) (db : Db) (request : Request) : Response Db :=
  let now := request.now
  match request.op with
  | .createTask boardId taskId userId payload =>
    .ofExcept (createTask env.texts db now boardId taskId userId payload)
  | .createTaskAsLead boardId taskId agentId payload =>
    .ofExcept (createTaskAsLead env.texts db now boardId taskId agentId payload)
  | .updateTask boardId taskId actor payload =>
    .ofExcept (updateTask env.texts db now boardId taskId actor payload)
  | .deleteTask boardId taskId actor => .single (deleteTask db boardId taskId actor)
  | .createTaskComment boardId taskId actor message =>
    .single (createTaskComment env.texts db now boardId taskId actor message)
  | .deleteAgent agentId => .single (deleteAgentRecord db now agentId)
  | .createApproval boardId approvalId actor payload =>
    .single (createApproval db now boardId approvalId actor payload)
  | .updateApproval boardId approvalId userId status =>
    .single (updateApproval db now boardId approvalId userId status)
  | .createRun scope runId payload =>
    .single (onRun db scope fun board task =>
      createRun env.runTexts db now board task runId payload (some scope.userId))
  | .retryRun scope runId newRunId =>
    onRetry db scope fun board task =>
      retryRun env.runTexts db now scope.organizationId board task runId newRunId (some scope.userId)
  | .updateRun scope runId payload =>
    .single (onRun db scope fun board task =>
      updateRun env.runTexts db now scope.organizationId board task runId payload)
  | .cancelRun scope runId note =>
    .single (onRun db scope fun board task =>
      cancelRun env.runTexts db now scope.organizationId board task runId note)
  | .acknowledgeRun scope runId =>
    .single (onRun db scope fun board task =>
      acknowledgeRun env.runTexts db now scope.organizationId board task runId)
  | .escalateRun scope runId approvalId note =>
    .single (onRun db scope fun board task =>
      escalateRun env.runTexts db now scope.organizationId board task runId approvalId note)
  | .callback runId payload =>
    .single ((updateRunById env.runTexts db now runId payload.toCallback).mapError Failure.ofValueError)
  | .dispatchRun organizationId boardId taskId runId answer =>
    .ofExcept (dispatchRun env.runTexts db now organizationId boardId taskId runId answer)

/-- The system: the states each request commits. -/
def machine (env : Env) : Machine Db Request where
  commits db request := (respond env db request).commits

def Request.byUser (request : Request) : Bool :=
  match request.op with
  | .createTask .. | .updateApproval .. | .createRun .. | .retryRun .. | .updateRun .. | .cancelRun ..
  | .acknowledgeRun .. | .escalateRun .. => true
  | .updateTask _ _ actor _ | .deleteTask _ _ actor | .createTaskComment _ _ actor _
  | .createApproval _ _ actor _ => actor.isUser
  | .createTaskAsLead .. | .deleteAgent .. | .callback .. | .dispatchRun .. => false

/-! ## A small system -/

namespace Sample

def env : Env where
  texts := ⟨fun _ _ => .ok true, fun _ => true, fun _ => true, fun _ => true, fun _ _ => false, { frames := 900 }⟩
  runTexts := ⟨fun _ _ => .ok "Run.", fun _ _ => .ok "Report.", fun _ => .ok "Run failed.", fun _ _ => .null⟩

def board : Board := { id := 1, organizationId := 1 }

def task : Task := { id := 1, boardId := some 1, title := "Build" }

def scope : RunScope := { userId := 1, organizationId := 1, boardId := 1, taskId := 1 }

def db : Db where
  users := ⟨[{ id := 1 }], by decide⟩
  members := ⟨[{ id := 1, organizationId := 1, userId := 1, role := .owner, allBoardsWrite := true }], by decide⟩
  boards := ⟨[board], by decide⟩
  agents := ⟨[{ id := 1, boardId := some 1, isBoardLead := true, name := "Lead" },
    { id := 2, boardId := some 1, name := "Worker" }], by decide⟩
  silos := ⟨[{ id := 1, organizationId := 1, slug := "forge", enableSymphony := true }], by decide⟩
  siloRoles := ⟨[{ siloId := 1, slug := "builder", runtimeKind := symphonyRuntime }], by decide⟩

def run (status : ExecutionRunStatus) : TaskExecutionRun :=
  { id := 1, organizationId := 1, boardId := 1, taskId := 1, siloId := 1, roleSlug := "builder", status }

theorem nodup_run (status : ExecutionRunStatus) : ([run status].map key).Nodup := List.nodup_singleton _

theorem nodup_design : ([task, { task with id := 2, title := "Design" }].map key).Nodup := by decide

end Sample

theorem getBoardAndTask_eq_ok {db : Db} {userId organizationId boardId taskId : Uuid} {board : Board} {task : Task}
    (h : getBoardAndTask db userId organizationId boardId taskId = .ok (board, task)) :
    db.boards.get? boardId = some board ∧ board.id = boardId ∧ board.organizationId = organizationId ∧
      db.tasks.get? taskId = some task ∧ task.id = taskId ∧ task.boardId = some board.id := by
  simp only [getBoardAndTask, bind_eq_ok, require_eq_ok, orFail_eq_ok, pure_eq_ok] at h
  obtain ⟨_, -, _, hboard, _, horg, _, htask, _, hon, heq⟩ := h
  obtain ⟨rfl, rfl⟩ := Prod.mk.inj heq
  exact ⟨hboard, Table.key_of_get? hboard, horg, htask, Table.key_of_get? htask, hon⟩

theorem onRun_eq_ok {db t : Db} {scope : RunScope} {service : Board → Task → Except Failure Db}
    (h : onRun db scope service = .ok t) :
    ∃ board task, getBoardAndTask db scope.userId scope.organizationId scope.boardId scope.taskId
        = .ok (board, task) ∧ service board task = .ok t := by
  simp only [onRun, bind_eq_ok, mapError_eq_ok] at h
  obtain ⟨⟨board, task⟩, hscope, h⟩ := h
  exact ⟨board, task, hscope, h⟩

theorem mem_onRetry {db t : Db} {scope : RunScope} {service : Board → Task → Response Db}
    (h : t ∈ (onRetry db scope service).commits) :
    ∃ board task, getBoardAndTask db scope.userId scope.organizationId scope.boardId scope.taskId
        = .ok (board, task) ∧ t ∈ (service board task).commits := by
  unfold onRetry at h
  split at h
  · cases h
  · rename_i board task hscope
    exact ⟨board, task, hscope, h⟩

end SiloForge
