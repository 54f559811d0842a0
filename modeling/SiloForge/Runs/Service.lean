import SiloForge.Tasks.Gates
import SiloForge.Approvals.Endpoints

/-!
# Task execution runs

The service behind the run endpoints and the runtime callbacks. A run belongs to a task of a board; what the
runtime reports may move the task, an operator may cancel, acknowledge, escalate or retry the run.

* `updateRun`, `updateRunById` : a report, through PATCH or as a callback;
* `ExecutionCallbackContract.toCallback` : the callback of a body that its contract accepts;
* `applyCallbackTaskEffects` : what a report does to the task;
* `createRun`, `retryRun`, `cancelRun`, `acknowledgeRun`, `escalateRun`, `dispatchRun` : the other operations.
-/

namespace SiloForge

open Lib

/-! ## Payloads -/

structure RunReport where
  externalRunId : Option String := none
  workspacePath : Option String := none
  branchName : Option String := none
  prUrl : Option String := none
  summary : Option String := none
  errorMessage : Option String := none
  issueIdentifier : Option String := none
  runnerKind : Option String := none
  completionKind : Option String := none
  failureReason : Option String := none
  blockReason : Option String := none
  cancelReason : Option String := none
  stallReason : Option String := none
  lastEvent : Option String := none
  lastMessage : Option String := none
  sessionId : Option String := none
  turnCount : Option Int := none
  durationMs : Option Int := none
  resultPayload : Option Json := none

structure TaskExecutionRunUpdate extends RunReport where
  status : Option ExecutionRunStatus := none

structure TaskExecutionRunCallback extends RunReport where
  status : ExecutionRunStatus

/-- The body of a callback that its contract accepts: only these fields, and no negative duration. -/
structure ExecutionCallbackContract where
  status : ExecutionRunStatus
  externalRunId : Option String := none
  workspacePath : Option String := none
  branchName : Option String := none
  prUrl : Option String := none
  summary : Option String := none
  errorMessage : Option String := none
  issueIdentifier : Option String := none
  completionKind : Option String := none
  durationMs : Option Nat := none
  resultPayload : Option (List (String × Json)) := none

structure TaskExecutionRunCreate where
  siloSlug : String
  roleSlug : Option String := none
  promptOverride : Option String := none
  branchNameHint : Option String := none
  inputMetadata : Json := .obj []

structure SymphonyDispatchAcceptance where
  externalRunId : String
  workspacePath : String
  branchName : String
  summary : String
  dump : Json

/-- What the service renders from a run: activity texts, whose payloads a contract checks, and the request
sent to the runtime. -/
structure RunTexts where
  activity : EventType → TaskExecutionRun → Except Failure String
  report : TaskExecutionRun → TaskExecutionRunUpdate → Except Failure String
  escalationReason : TaskExecutionRun → Except Failure String
  dispatchRequest : TaskExecutionRun → Task → Json

/-! ## Statuses -/

namespace ExecutionRunStatus

/-- The statuses a report completes a run with. -/
def completes : ExecutionRunStatus → Bool
  | succeeded | failed | cancelled | blocked => true
  | _ => false

/-- The statuses an operator may retry, acknowledge or escalate. -/
def isStopped : ExecutionRunStatus → Bool
  | failed | cancelled | blocked => true
  | _ => false

/-- The statuses no operator can cancel any more. -/
def isTerminal : ExecutionRunStatus → Bool
  | succeeded | failed | cancelled => true
  | _ => false

/-- The statuses a dispatch starts from. -/
def isDispatchable : ExecutionRunStatus → Bool
  | queued | blocked => true
  | _ => false

theorem isDispatchable_of_isTerminal {status : ExecutionRunStatus} (h : status.isTerminal = true) :
    status.isDispatchable = false := by
  cases status <;> first | rfl | exact absurd h Bool.false_ne_true

end ExecutionRunStatus

/-! ## Reading and recording -/

def runNotFound : Failure := .valueError "Execution run not found"

def findRun (db : Db) (organizationId boardId taskId runId : Uuid) : Option TaskExecutionRun :=
  (db.runs.get? runId).filter fun run =>
    run.organizationId = organizationId ∧ run.boardId = boardId ∧ run.taskId = taskId

def recordRun (texts : RunTexts) (events : List ActivityEvent) (now : Time) (eventType : EventType)
    (run : TaskExecutionRun) (agentId : Option Uuid) : Except Failure (List ActivityEvent) := do
  let message ← texts.activity eventType run
  return events ++
    [{ eventType, message, taskId := some run.taskId, boardId := some run.boardId, agentId, createdAt := now }]

def taskMovedEvent (task : Task) (boardId : Uuid) (now : Time) (message : String) : ActivityEvent :=
  { eventType := .taskStatusChanged, message, taskId := some task.id, boardId := some boardId, agentId := none,
    createdAt := now }

/-! ## Reports -/

def TaskExecutionRun.reported (run : TaskExecutionRun) (now : Time) (payload : TaskExecutionRunUpdate) :
    TaskExecutionRun :=
  { run with
    status := payload.status.getD run.status
    startedAt := if payload.status = some .running then run.startedAt.or (some now) else run.startedAt
    completedAt := if payload.status.any (·.completes) then some now else run.completedAt
    externalRunId := payload.externalRunId.or run.externalRunId
    workspacePath := payload.workspacePath.or run.workspacePath
    branchName := payload.branchName.or run.branchName
    prUrl := payload.prUrl.or run.prUrl
    summary := payload.summary.or run.summary
    errorMessage := payload.errorMessage.or run.errorMessage
    resultPayload := payload.resultPayload.or run.resultPayload
    updatedAt := now }

def canAutoTransitionTask (db : Db) (board : Board) (task : Task) (targetStatus : TaskStatus) : Bool :=
  if board.onlyLeadCanChangeStatus then false
  else if task.status = targetStatus then false
  else if task.status = .done then false
  else if targetStatus = .inProgress then task.status = .inbox
  else if targetStatus ≠ .review then false
  else if task.status ≠ .inbox ∧ task.status ≠ .inProgress then false
  else if board.commentRequiredForReview then false
  else if board.blockStatusChangesWithPendingApproval && taskHasPendingLinkedApproval db board.id task.id then
    false
  else true

def startTask (task : Task) (now : Time) : Task :=
  { task with status := .inProgress, inProgressAt := task.inProgressAt.or (some now), updatedAt := now }

/-- The row of a task whose run succeeded: in review, with the board's lead. -/
def reviewTask (task : Task) (now : Time) (lead : Option Agent) : Task :=
  { task with
    previousInProgressAt := task.inProgressAt
    inProgressAt := none
    status := .review
    assignedAgentId := (lead.map (·.id)).or task.assignedAgentId
    updatedAt := now }

/-- The row a report's status leaves the task with, when it moves it. -/
def callbackTask (db : Db) (now : Time) (board : Board) (task : Task) : ExecutionRunStatus → Option Task
  | .running => if canAutoTransitionTask db board task .inProgress then some (startTask task now) else none
  | .succeeded =>
    if canAutoTransitionTask db board task .review then some (reviewTask task now (boardLead db board.id))
    else none
  | _ => none

def reportEvents (texts : RunTexts) (now : Time) (board : Board) (task : Task) (run : TaskExecutionRun)
    (payload : TaskExecutionRunUpdate) : Except Failure (List ActivityEvent) :=
  if payload.status.any (·.completes) then do
    let message ← texts.report run payload
    return [{ eventType := .runReport, message, taskId := some task.id, boardId := some board.id,
              agentId := none, createdAt := now }]
  else return []

/-- What a report does beside the run's row: its activity rows, and the move of the task. -/
def applyCallbackTaskEffects (texts : RunTexts) (db : Db) (now : Time) (board : Board) (task : Task)
    (run : TaskExecutionRun) (payload : TaskExecutionRunUpdate) : Except Failure Db := do
  let reports ← reportEvents texts now board task run payload
  let db := { db with events := db.events ++ reports }
  match payload.status.bind (callbackTask db now board task) with
  | none => return db
  | some moved =>
    return { db with
      tasks := db.tasks.put moved
      events := db.events ++
        [taskMovedEvent task board.id now
          ("Task moved to " ++ moved.status.text ++ ": " ++ task.title ++ ".")] }

/-- The activity log with a row about a report that gives a status. -/
def recordUpdated (texts : RunTexts) (events : List ActivityEvent) (now : Time) (run : TaskExecutionRun)
    (payload : TaskExecutionRunUpdate) : Except Failure (List ActivityEvent) :=
  if payload.status.isSome then recordRun texts events now .runUpdated run none else .ok events

/-- Update execution run status and result metadata, and what follows for the task. -/
def updateRun (texts : RunTexts) (db : Db) (now : Time) (organizationId : Uuid) (board : Board) (task : Task)
    (runId : Uuid) (payload : TaskExecutionRunUpdate) : Except Failure Db := do
  let run ← orFail (findRun db organizationId board.id task.id runId) runNotFound
  let run := run.reported now payload
  let _silo ← orFail (db.silos.get? run.siloId) (.valueError "Silo not found")
  let events ← recordUpdated texts db.events now run payload
  applyCallbackTaskEffects texts { db with runs := db.runs.put run, events } now board task run payload

/-- The result payload of a callback: its own, with the metadata fields the callback gives. -/
def mergeCallbackResultPayload (payload : RunReport) : Option Json :=
  let own := match payload.resultPayload with
    | some (.obj fields) => fields
    | _ => []
  let texts := [("issue_identifier", payload.issueIdentifier), ("runner_kind", payload.runnerKind),
    ("completion_kind", payload.completionKind), ("failure_reason", payload.failureReason),
    ("block_reason", payload.blockReason), ("cancel_reason", payload.cancelReason),
    ("stall_reason", payload.stallReason), ("last_event", payload.lastEvent),
    ("last_message", payload.lastMessage), ("session_id", payload.sessionId)]
  let counts := [("turn_count", payload.turnCount), ("duration_ms", payload.durationMs)]
  let given := texts.filterMap (fun (k, v) => v.map fun s => (k, Json.str s)) ++
    counts.filterMap fun (k, v) => v.map fun n => (k, Json.int n)
  match given.foldl (fun fields (k, v) => Json.setField fields k v) own with
  | [] => none
  | fields => some (.obj fields)

def TaskExecutionRunCallback.toUpdate (payload : TaskExecutionRunCallback) : TaskExecutionRunUpdate :=
  { toRunReport := { payload.toRunReport with
      resultPayload := mergeCallbackResultPayload payload.toRunReport }
    status := some payload.status }

/-- `model_dump(exclude_none=True)`, of the fields of a model. -/
def excludeNone (fields : List (String × Json)) : List (String × Json) := fields.filter (·.2 ≠ .null)

/-- `TaskExecutionRunCallback.model_validate(contract.model_dump(exclude_none=True))`. -/
def ExecutionCallbackContract.toCallback (contract : ExecutionCallbackContract) : TaskExecutionRunCallback where
  status := contract.status
  externalRunId := normalizeText contract.externalRunId
  workspacePath := normalizeText contract.workspacePath
  branchName := normalizeText contract.branchName
  prUrl := normalizeText contract.prUrl
  summary := normalizeText contract.summary
  errorMessage := normalizeText contract.errorMessage
  issueIdentifier := normalizeText contract.issueIdentifier
  completionKind := normalizeText contract.completionKind
  durationMs := contract.durationMs.map Int.ofNat
  resultPayload := contract.resultPayload.map fun fields => .obj (excludeNone fields)

def updateRunById (texts : RunTexts) (db : Db) (now : Time) (runId : Uuid)
    (payload : TaskExecutionRunCallback) : Except Failure Db := do
  let run ← orFail (db.runs.get? runId) runNotFound
  let task ← orFail (db.tasks.get? run.taskId) runNotFound
  let board ← orFail (db.boards.get? run.boardId) runNotFound
  let _silo ← orFail (db.silos.get? run.siloId) runNotFound
  updateRun texts db now run.organizationId board task run.id payload.toUpdate

/-! ## Creation, retry and cancellation -/

def symphonyRuntime : String := "symphony"

/-- The role a run is for: the one asked for, or the silo's first symphony role. -/
def resolveRole (db : Db) (siloId : Uuid) (requestedRoleSlug : Option String) : Except Failure SiloRole := do
  let role ← match requestedRoleSlug with
    | some slug => orFail (db.siloRoles.get? (siloId, slug)) (.valueError "Silo role not found")
    | none =>
      orFail (firstBy (fun a b => a.createdAt < b.createdAt)
          (db.siloRoles.rows.filter fun r => r.siloId = siloId ∧ r.runtimeKind = symphonyRuntime))
        (.valueError "Silo has no Symphony role")
  require (role.runtimeKind = symphonyRuntime) (.valueError "Silo role is not a Symphony runtime")
  return role

def createRun (texts : RunTexts) (db : Db) (now : Time) (board : Board) (task : Task) (runId : Uuid)
    (payload : TaskExecutionRunCreate) (requestedByUserId : Option Uuid) : Except Failure Db := do
  let silo ← orFail (db.silos.rows.find? fun s =>
    s.organizationId = board.organizationId ∧ s.slug = payload.siloSlug) (.valueError "Silo not found")
  require silo.enableSymphony (.valueError "Silo does not have Symphony enabled")
  require (task.status ≠ .done) (.valueError "Done tasks cannot be dispatched to Symphony")
  let role ← resolveRole db silo.id payload.roleSlug
  let run : TaskExecutionRun :=
    { id := runId
      organizationId := board.organizationId
      boardId := board.id
      taskId := task.id
      siloId := silo.id
      requestedByUserId
      roleSlug := role.slug
      dispatchPayload := some
        { siloSlug := silo.slug
          roleSlug := role.slug
          promptOverride := payload.promptOverride
          branchNameHint := payload.branchNameHint
          inputMetadata := payload.inputMetadata }
      createdAt := now
      updatedAt := now }
  let runs ← orFail (db.runs.insert? run) .integrityError
  let events ← recordRun texts db.events now .runCreated run none
  return { db with runs, events }

def retryPayload (run : TaskExecutionRun) (silo : Silo) : TaskExecutionRunCreate :=
  { siloSlug := silo.slug
    roleSlug := normalizeText (some run.roleSlug)
    promptOverride := normalizeText (run.dispatchPayload.bind (·.promptOverride))
    branchNameHint := normalizeText ((run.dispatchPayload.bind (·.branchNameHint)).or run.branchName)
    inputMetadata := ((run.dispatchPayload.map (·.inputMetadata)).getD (.obj [])) }

/-- Clone a prior execution run into a new queued run; the activity row is a second commit. -/
def retryRun (texts : RunTexts) (db : Db) (now : Time) (organizationId : Uuid) (board : Board) (task : Task)
    (runId newRunId : Uuid) (requestedByUserId : Option Uuid) : Response Db :=
  Response.both (do
      let run ← orFail (findRun db organizationId board.id task.id runId) runNotFound
      require run.status.isStopped (.valueError "Only failed, cancelled, or blocked runs can be retried")
      let silo ← orFail (db.silos.get? run.siloId) (.valueError "Silo not found")
      createRun texts db now board task newRunId (retryPayload run silo) requestedByUserId)
    fun created => do
      let retried ← orFail (created.runs.get? newRunId) runNotFound
      let events ← recordRun texts created.events now .runRetried retried none
      return { created with events }

def cancelReport (note : Option String) : TaskExecutionRunUpdate :=
  let summary := note.getD "Operator cancelled the run."
  let cancelReason := note.getD "Operator cancelled the run from the control plane."
  { status := some .cancelled
    summary := some summary
    completionKind := some "operator_cancelled"
    cancelReason := some cancelReason
    lastEvent := some "operator_cancelled"
    lastMessage := some summary
    resultPayload := some (.obj [("completion_kind", .str "operator_cancelled"),
      ("cancel_reason", .str cancelReason), ("last_event", .str "operator_cancelled"),
      ("last_message", .str summary)]) }

def cancelRun (texts : RunTexts) (db : Db) (now : Time) (organizationId : Uuid) (board : Board) (task : Task)
    (runId : Uuid) (note : Option String) : Except Failure Db := do
  let run ← orFail (findRun db organizationId board.id task.id runId) runNotFound
  require (run.status.isTerminal = false) (.valueError "Only active or blocked runs can be cancelled")
  updateRun texts db now organizationId board task run.id (cancelReport note)

/-! ## Acknowledgement and escalation -/

def acknowledgeRun (texts : RunTexts) (db : Db) (now : Time) (organizationId : Uuid) (board : Board)
    (task : Task) (runId : Uuid) : Except Failure Db := do
  let run ← orFail (findRun db organizationId board.id task.id runId) runNotFound
  require run.status.isStopped (.valueError "Only failed, cancelled, or blocked runs can be acknowledged")
  let _silo ← orFail (db.silos.get? run.siloId) (.valueError "Silo not found")
  let events ← recordRun texts db.events now .runAcknowledged run none
  return { db with events }

/-- The row of a task that is escalated: in review, with the board's lead. -/
def escalatedTask (task : Task) (now : Time) (lead : Option Agent) : Task :=
  { task with
    previousInProgressAt := if task.status = .inProgress then task.inProgressAt else task.previousInProgressAt
    inProgressAt := if task.status = .inProgress then none else task.inProgressAt
    status := .review
    assignedAgentId := (lead.map (·.id)).or task.assignedAgentId
    updatedAt := now }

def escalationApproval (now : Time) (boardId taskId approvalId : Uuid) (lead : Option Agent)
    (run : TaskExecutionRun) (silo : Silo) (reason : String) : Approval :=
  { id := approvalId
    boardId
    taskId := some taskId
    agentId := lead.map (·.id)
    actionType := "runtime.escalation"
    payload := .obj [("reason", .str reason), ("source", .str "runtime_operator_escalation"),
      ("silo_slug", .str silo.slug), ("role_slug", .str run.roleSlug)]
    status := .pending
    createdAt := now }

/-- The task and the activity log once an escalation moved the task, if it moves it. -/
def moveEscalatedTask (db : Db) (now : Time) (board : Board) (task : Task) (lead : Option Agent) : Db :=
  if task.status = .inbox ∨ task.status = .inProgress then
    { db with
      tasks := db.tasks.put (escalatedTask task now lead)
      events := db.events ++
        [taskMovedEvent task board.id now
          ("Task moved to review: runtime escalation for " ++ task.title ++ ".")] }
  else db

/-- Why a run is escalated: the operator's note, or a text made from the run. -/
def escalationReason (texts : RunTexts) (run : TaskExecutionRun) : Option String → Except Failure String
  | some note => .ok note
  | none => texts.escalationReason run

def storeEscalation (texts : RunTexts) (db : Db) (now : Time) (board : Board) (task : Task)
    (run : TaskExecutionRun) (silo : Silo) (approvalId : Uuid) (note : Option String) : Except Failure Db := do
  let lead := boardLead db board.id
  let reason ← escalationReason texts run note
  let stored ← storeApproval db (escalationApproval now board.id task.id approvalId lead run silo reason)
    [task.id]
  let moved := moveEscalatedTask stored now board task lead
  let events ← recordRun texts moved.events now .runEscalated run none
  return { moved with events }

/-- Escalate a stopped run into a board approval workflow. -/
def escalateRun (texts : RunTexts) (db : Db) (now : Time) (organizationId : Uuid) (board : Board) (task : Task)
    (runId approvalId : Uuid) (note : Option String) : Except Failure Db := do
  let run ← orFail (findRun db organizationId board.id task.id runId) runNotFound
  require run.status.isStopped (.valueError "Only failed, cancelled, or blocked runs can be escalated")
  require (pendingApprovalConflicts db board.id [task.id] none = [])
    (.valueError "Task already has a pending approval")
  let silo ← orFail (db.silos.get? run.siloId) (.valueError "Silo not found")
  storeEscalation texts db now board task run silo approvalId note

/-! ## Dispatch -/

/-- The rows a dispatch joins: the run, its task, board, silo and role. -/
def dispatchTarget (db : Db) (organizationId boardId taskId runId : Uuid) :
    Option (TaskExecutionRun × Task) := do
  let run ← findRun db organizationId boardId taskId runId
  let task ← db.tasks.get? run.taskId
  let _board ← db.boards.get? run.boardId
  let silo ← db.silos.get? run.siloId
  let _role ← db.siloRoles.get? (silo.id, run.roleSlug)
  return (run, task)

def TaskExecutionRun.dispatched (run : TaskExecutionRun) (texts : RunTexts) (task : Task) (now : Time)
    (acceptance : SymphonyDispatchAcceptance) : TaskExecutionRun :=
  { run with
    status := .dispatching
    externalRunId := some acceptance.externalRunId
    workspacePath := some acceptance.workspacePath
    branchName := some acceptance.branchName
    summary := some acceptance.summary
    startedAt := run.startedAt.or (some now)
    resultPayload := some (.obj [("dispatch_request", texts.dispatchRequest run task),
      ("dispatch_acceptance", acceptance.dump)])
    updatedAt := now }

/-- Store the runtime's answer to a dispatch of the run as it was read. -/
def recordAcceptance (texts : RunTexts) (db : Db) (now : Time) (run : TaskExecutionRun) (task : Task)
    (acceptance : SymphonyDispatchAcceptance) : Except Failure Db := do
  let run := run.dispatched texts task now acceptance
  let events ← recordRun texts db.events now .runDispatched run none
  return { db with runs := db.runs.put run, events }

/-- Dispatch one run: nothing happens to a run that is neither queued nor blocked, nor when the runtime
gives no acceptance. -/
def dispatchRun (texts : RunTexts) (db : Db) (now : Time) (organizationId boardId taskId runId : Uuid)
    (answer : Except Failure SymphonyDispatchAcceptance) : Except Failure (List Db) := do
  let (run, task) ← orFail (dispatchTarget db organizationId boardId taskId runId) runNotFound
  if run.status.isDispatchable then
    let acceptance ← answer
    let db' ← recordAcceptance texts db now run task acceptance
    return [db']
  else return []

/-- The board and task of a run endpoint, for an administrator of the board's organization. -/
def getBoardAndTask (db : Db) (userId organizationId boardId taskId : Uuid) : Except Failure (Board × Task) := do
  requireOrgAdmin db userId organizationId
  let board ← orFail (db.boards.get? boardId) (.text 404 "Board not found")
  require (board.organizationId = organizationId) (.text 404 "Board not found")
  let task ← orFail (db.tasks.get? taskId) (.text 404 "Task not found")
  require (task.boardId = some board.id) (.text 404 "Task not found")
  return (board, task)

/-! ## What the operations store -/

variable {db t : Db} {organizationId runId : Uuid} {run : TaskExecutionRun} {now : Time} {board : Board} {task : Task}
  {texts : RunTexts} {payload : TaskExecutionRunUpdate} {note : Option String}

theorem findRun_eq_some {boardId taskId : Uuid} (h : findRun db organizationId boardId taskId runId = some run) :
    db.runs.get? runId = some run ∧ run.id = runId ∧ run.boardId = boardId ∧ run.taskId = taskId := by
  obtain ⟨hget, hscope⟩ := Option.filter_eq_some_iff.mp h
  simp only [decide_eq_true_eq] at hscope
  exact ⟨hget, Table.key_of_get? hget, hscope.2⟩

theorem callbackTask_eq_some {moved : Task} {status : ExecutionRunStatus}
    (h : callbackTask db now board task status = some moved) :
    status = .running ∧ canAutoTransitionTask db board task .inProgress = true ∧ moved = startTask task now ∨
      status = .succeeded ∧ canAutoTransitionTask db board task .review = true ∧
        moved = reviewTask task now (boardLead db board.id) := by
  unfold callbackTask at h
  split at h
  · split at h
    · rename_i hauto
      exact .inl ⟨rfl, hauto, (Option.some.inj h).symm⟩
    · cases h
  · split at h
    · rename_i hauto
      exact .inr ⟨rfl, hauto, (Option.some.inj h).symm⟩
    · cases h
  · cases h

/-- The tasks a report leaves: as they were, or with one moved. -/
def TasksAfterReport (db : Db) (now : Time) (board : Board) (task : Task) (status : Option ExecutionRunStatus)
    (tasks : Table Task) : Prop :=
  status.bind (callbackTask db now board task) = none ∧ tasks = db.tasks ∨
    ∃ moved, status.bind (callbackTask db now board task) = some moved ∧ tasks = db.tasks.put moved

theorem applyCallbackTaskEffects_eq_ok (h : applyCallbackTaskEffects texts db now board task run payload = .ok t) :
    ∃ tasks events, TasksAfterReport db now board task payload.status tasks ∧ t = { db with tasks, events } := by
  simp only [applyCallbackTaskEffects, bind_eq_ok] at h
  obtain ⟨reports, -, h⟩ := h
  split at h
  · rename_i hnone
    obtain rfl := pure_eq_ok.mp h
    exact ⟨db.tasks, _, .inl ⟨hnone, rfl⟩, rfl⟩
  · rename_i moved hmoved
    obtain rfl := pure_eq_ok.mp h
    exact ⟨_, _, .inr ⟨moved, hmoved, rfl⟩, rfl⟩

theorem updateRun_eq_ok (h : updateRun texts db now organizationId board task runId payload = .ok t) :
    ∃ run tasks events, findRun db organizationId board.id task.id runId = some run ∧
      TasksAfterReport db now board task payload.status tasks ∧
      t = { db with runs := db.runs.put (run.reported now payload), tasks, events } := by
  simp only [updateRun, bind_eq_ok, orFail_eq_ok] at h
  obtain ⟨run, hrun, _, -, events, -, h⟩ := h
  obtain ⟨tasks, events', htasks, rfl⟩ := applyCallbackTaskEffects_eq_ok h
  exact ⟨run, tasks, events', hrun, htasks, rfl⟩

theorem updateRunById_eq_ok {payload : TaskExecutionRunCallback} (h : updateRunById texts db now runId payload = .ok t) :
    ∃ run task board tasks events, db.runs.get? runId = some run ∧ db.tasks.get? run.taskId = some task ∧
      db.boards.get? run.boardId = some board ∧
      TasksAfterReport db now board task (some payload.status) tasks ∧
      t = { db with runs := db.runs.put (run.reported now payload.toUpdate), tasks, events } := by
  simp only [updateRunById, bind_eq_ok, orFail_eq_ok] at h
  obtain ⟨run, hrun, task, htask, board, hboard, _, -, h⟩ := h
  obtain ⟨run', tasks, events, hfind, htasks, rfl⟩ := updateRun_eq_ok h
  obtain ⟨hrun', -⟩ := findRun_eq_some hfind
  rw [show run.id = runId from Table.key_of_get? hrun, hrun] at hrun'
  obtain rfl := Option.some.inj hrun'
  exact ⟨run, task, board, tasks, events, hrun, htask, hboard, htasks, rfl⟩

theorem createRun_eq_ok {payload : TaskExecutionRunCreate} {userId : Option Uuid}
    (h : createRun texts db now board task runId payload userId = .ok t) :
    ∃ run runs events, run.id = runId ∧ run.boardId = board.id ∧ run.taskId = task.id ∧ run.status = .queued ∧
      (run.startedAt = none ∧ run.completedAt = none) ∧ db.runs.insert? run = some runs ∧ t = { db with runs, events } := by
  simp only [createRun, bind_eq_ok, orFail_eq_ok, require_eq_ok, pure_eq_ok] at h
  obtain ⟨_, -, _, -, _, -, _, -, runs, hruns, events, -, rfl⟩ := h
  exact ⟨_, runs, events, rfl, rfl, rfl, rfl, ⟨rfl, rfl⟩, hruns, rfl⟩

theorem mem_retryRun {newRunId : Uuid} {userId : Option Uuid}
    (h : t ∈ (retryRun texts db now organizationId board task runId newRunId userId).commits) :
    ∃ run runs events, run.id = newRunId ∧ run.boardId = board.id ∧ run.taskId = task.id ∧ run.status = .queued ∧
      (run.startedAt = none ∧ run.completedAt = none) ∧ db.runs.insert? run = some runs ∧ t = { db with runs, events } := by
  obtain ⟨created, hcreate, ht⟩ := Response.mem_both.mp h
  simp only [bind_eq_ok, orFail_eq_ok, require_eq_ok] at hcreate
  obtain ⟨_, -, _, -, _, -, hcreate⟩ := hcreate
  obtain ⟨run, runs, events, hid, hboard, htask, hstatus, htimes, hruns, rfl⟩ := createRun_eq_ok hcreate
  rcases ht with rfl | ht
  · exact ⟨run, runs, events, hid, hboard, htask, hstatus, htimes, hruns, rfl⟩
  · simp only [bind_eq_ok, orFail_eq_ok, pure_eq_ok] at ht
    obtain ⟨_, -, events', -, rfl⟩ := ht
    exact ⟨run, runs, events', hid, hboard, htask, hstatus, htimes, hruns, rfl⟩

theorem cancelRun_eq_ok (h : cancelRun texts db now organizationId board task runId note = .ok t) :
    ∃ run events, findRun db organizationId board.id task.id runId = some run ∧ run.status.isTerminal = false ∧
      t = { db with runs := db.runs.put (run.reported now (cancelReport note)), events } := by
  simp only [cancelRun, bind_eq_ok, orFail_eq_ok, require_eq_ok] at h
  obtain ⟨run, hrun, _, hactive, h⟩ := h
  obtain ⟨run', tasks, events, hrun', htasks, rfl⟩ := updateRun_eq_ok h
  obtain ⟨hget, hid, -⟩ := findRun_eq_some hrun
  rw [hid, hrun] at hrun'
  obtain rfl := Option.some.inj hrun'
  rcases htasks with ⟨-, rfl⟩ | ⟨moved, hmoved, -⟩
  · exact ⟨run, events, hrun, hactive, rfl⟩
  · cases hmoved

theorem acknowledgeRun_eq_ok (h : acknowledgeRun texts db now organizationId board task runId = .ok t) :
    ∃ events, t = { db with events } := by
  simp only [acknowledgeRun, bind_eq_ok, pure_eq_ok] at h
  obtain ⟨_, -, _, -, _, -, events, -, rfl⟩ := h
  exact ⟨events, rfl⟩

/-- The writes of an escalation: a pending approval of its task, and the move of the task when it is not yet in
review. -/
theorem storeEscalation_eq_ok {silo : Silo} {approvalId : Uuid}
    (h : storeEscalation texts db now board task run silo approvalId note = .ok t) :
    ∃ approval approvals approvalTaskLinks tasks events,
      approval.id = approvalId ∧ approval.boardId = board.id ∧ approval.taskId = some task.id ∧
      approval.status = .pending ∧ approval.resolvedAt = none ∧ db.approvals.insert? approval = some approvals ∧
      replaceApprovalTaskLinks db approval.id [task.id] = .ok approvalTaskLinks ∧
      (tasks = db.tasks ∨ (task.status = .inbox ∨ task.status = .inProgress) ∧
        tasks = db.tasks.put (escalatedTask task now (boardLead db board.id))) ∧
      t = { db with approvals, approvalTaskLinks, tasks, events } := by
  simp only [storeEscalation, bind_eq_ok, pure_eq_ok] at h
  obtain ⟨reason, -, stored, hstore, events, -, rfl⟩ := h
  obtain ⟨approvals, links, hinsert, hlinks, rfl⟩ := storeApproval_eq_ok hstore
  by_cases hmove : task.status = .inbox ∨ task.status = .inProgress
  · rw [moveEscalatedTask, if_pos hmove]
    exact ⟨_, approvals, links, _, events, rfl, rfl, rfl, rfl, rfl, hinsert, hlinks, .inr ⟨hmove, rfl⟩, rfl⟩
  · rw [moveEscalatedTask, if_neg hmove]
    exact ⟨_, approvals, links, _, events, rfl, rfl, rfl, rfl, rfl, hinsert, hlinks, .inl rfl, rfl⟩

theorem escalateRun_eq_ok {approvalId : Uuid}
    (h : escalateRun texts db now organizationId board task runId approvalId note = .ok t) :
    ∃ run silo, pendingApprovalConflicts db board.id [task.id] none = [] ∧
      storeEscalation texts db now board task run silo approvalId note = .ok t := by
  simp only [escalateRun, bind_eq_ok, orFail_eq_ok, require_eq_ok] at h
  obtain ⟨run, -, _, -, _, hconflicts, silo, -, hstore⟩ := h
  exact ⟨run, silo, hconflicts, hstore⟩

theorem dispatchTarget_eq_some {boardId taskId : Uuid}
    (h : dispatchTarget db organizationId boardId taskId runId = some (run, task)) :
    findRun db organizationId boardId taskId runId = some run := by
  simp only [dispatchTarget, Option.bind_eq_bind, Option.bind_eq_some_iff, Option.pure_def, Option.some.injEq] at h
  obtain ⟨run', hrun, _, -, _, -, _, -, _, -, heq⟩ := h
  obtain ⟨rfl, -⟩ := Prod.mk.inj heq
  exact hrun

theorem dispatchRun_eq_ok {boardId taskId : Uuid} {answer : Except Failure SymphonyDispatchAcceptance}
    {commits : List Db} (h : dispatchRun texts db now organizationId boardId taskId runId answer = .ok commits) :
    ∀ t ∈ commits, ∃ run task acceptance events,
      findRun db organizationId boardId taskId runId = some run ∧ run.status.isDispatchable = true ∧
      t = { db with runs := db.runs.put (run.dispatched texts task now acceptance), events } := by
  simp only [dispatchRun, bind_eq_ok, orFail_eq_ok] at h
  obtain ⟨⟨run, task⟩, htarget, h⟩ := h
  dsimp only at h
  split at h
  · rename_i hdispatchable
    simp only [bind_eq_ok, recordAcceptance, pure_eq_ok] at h
    obtain ⟨acceptance, -, _, ⟨events, -, rfl⟩, rfl⟩ := h
    intro t ht
    obtain rfl := List.mem_singleton.mp ht
    exact ⟨run, task, acceptance, events, dispatchTarget_eq_some htarget, hdispatchable, rfl⟩
  · obtain rfl := pure_eq_ok.mp h
    intro t ht
    cases ht

end SiloForge
