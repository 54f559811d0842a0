import SiloForge.Tasks.Gates

/-!
# Updating a task

`updateTask` is the PATCH of a task by a user, a board lead or another agent. The lead's update commits once;
the others commit the task, then the comment, then the activity row together with the effects on the tasks
that depend on it.

* `reconcileTasks`, `reconcileEvents` : what toggling a task done or undone does to its dependents;
* `applyLeadTaskUpdate`, `applyNonLeadAgentTaskRules`, `applyAdminTaskRules` : the three rule sets;
* `finalizeUpdatedTask` : the gates and commits of an update that is not a lead's.
-/

namespace SiloForge

open Lib

/-- The fields of a PATCH; one that was left out is `none`. -/
structure TaskUpdate where
  title : Option (Option String) := none
  description : Option (Option String) := none
  status : Option TaskStatus := none
  priority : Option (Option String) := none
  dueAt : Option (Option Time) := none
  assignedAgentId : Option (Option Uuid) := none
  dependsOnTaskIds : Option (List Uuid) := none
  tagIds : Option (List Uuid) := none
  customFieldValues : Option TaskCustomFieldValues := none
  comment : Option String := none

structure TaskUpdateInput where
  task : Task
  boardId : Uuid
  now : Time
  updates : TaskUpdate

namespace TaskUpdateInput

def statusRequested (update : TaskUpdateInput) : Bool :=
  update.updates.status.any (· ≠ update.task.status)

end TaskUpdateInput

/-! ## Dependents -/

def doneToggled (previousStatus status : TaskStatus) : Bool :=
  decide (previousStatus = .done) != decide (status = .done)

def openDependents (db : Db) (boardId : Uuid) (dependencyTask : Task) : List Task :=
  db.tasks.rows.filter fun t =>
    t.boardId = some boardId ∧ t.id ∈ dependentTaskIds db boardId dependencyTask.id ∧ t.status ≠ .done

/-- Whether a dependent of a reopened task has to go back to the inbox. -/
def shouldReset (dependent : Task) : Bool :=
  dependent.status ≠ .inbox || dependent.assignedAgentId.isSome || dependent.inProgressAt.isSome

def Task.reset (task : Task) (now : Time) : Task :=
  { task with status := .inbox, assignedAgentId := none, inProgressAt := none, updatedAt := now }

theorem Task.key_reset (task : Task) (now : Time) : key (task.reset now) = key task := rfl

/-- The tasks once the dependents of a reopened task are reset. -/
def reconcileTasks (db : Db) (now : Time) (boardId : Uuid) (dependencyTask : Task)
    (previousStatus : TaskStatus) : Table Task :=
  if previousStatus = .done ∧ dependencyTask.status ≠ .done then
    db.tasks.updateWhere
      (fun t => t.boardId = some boardId ∧ t.id ∈ dependentTaskIds db boardId dependencyTask.id ∧
        t.status ≠ .done ∧ shouldReset t)
      (fun t => t.reset now) (fun t _ => t.key_reset now)
  else db.tasks

/-- The activity rows of the dependents of a task that was toggled. -/
def reconcileEvents (db : Db) (now : Time) (boardId : Uuid) (dependencyTask : Task)
    (previousStatus : TaskStatus) (actorAgentId : Option Uuid) : List ActivityEvent :=
  if doneToggled previousStatus dependencyTask.status then
    (openDependents db boardId dependencyTask).map fun dependent =>
      let (eventType, message) :=
        if previousStatus = .done ∧ shouldReset dependent then
          (EventType.taskStatusChanged,
            "Task returned to inbox: dependency reopened (" ++ dependencyTask.title ++ ").")
        else (EventType.taskUpdated, "Dependency completion changed: " ++ dependencyTask.title ++ ".")
      { eventType, message, taskId := some dependent.id, boardId := dependent.boardId,
        agentId := actorAgentId, createdAt := now }
  else []

/-- Log an update and reconcile the dependents: the last write of every task update. -/
def recordTaskUpdate (db : Db) (update : TaskUpdateInput) (task : Task) (actorAgentId : Option Uuid) : Db :=
  let (eventType, message) := taskEventDetails task update.task.status
  { db with
    tasks := reconcileTasks db update.now update.boardId task update.task.status
    events := db.events ++
      { eventType, message, taskId := some task.id, boardId := some update.boardId, agentId := actorAgentId,
        createdAt := update.now } ::
      reconcileEvents db update.now update.boardId task update.task.status actorAgentId }

/-! ## Parts of a request -/

def dependenciesOfDoneError : Failure := .text 409 "Cannot change task dependencies after a task is done."

/-- Replace the dependencies when the request gives a list; return the table and the dependencies in force. -/
def effectiveDependencies (search : CycleSearch) (db : Db) (update : TaskUpdateInput) :
    Except Failure (Table TaskDependency × List Uuid) :=
  match update.updates.dependsOnTaskIds with
  | none => .ok (db.dependencies, taskDepIds db update.boardId update.task.id)
  | some dependsOnTaskIds => do
    require (update.task.status ≠ .done) dependenciesOfDoneError
    replaceTaskDependencies search db update.boardId update.task.id dependsOnTaskIds

def normalizedUpdateTagIds (db : Db) (update : TaskUpdateInput) : Except Failure (Option (List Uuid)) :=
  match update.updates.tagIds with
  | none => .ok none
  | some tagIds => do
    let board ← orFail (db.boards.get? update.boardId) (.status 404)
    let normalized ← validateTagIds db board.organizationId tagIds
    return some normalized

def storeTags (db : Db) (update : TaskUpdateInput) (tagIds : Option (List Uuid)) :
    Except Failure (Table TagAssignment) :=
  match tagIds with
  | none => .ok db.tagAssignments
  | some tagIds => replaceTags db.tagAssignments update.task.id tagIds

def storeCustomFieldValues (texts : Texts) (db : Db) (update : TaskUpdateInput) :
    Except Failure (Table TaskCustomFieldValue) :=
  match update.updates.customFieldValues with
  | none => .ok db.customFieldValues
  | some values => setTaskCustomFieldValuesForUpdate texts db update.now update.boardId update.task.id values

/-- The three gates in front of a status change. -/
def statusGates (db : Db) (update : TaskUpdateInput) (targetStatus : TaskStatus) : Except Failure Unit := do
  requireNoPendingApprovalForStatusChangeWhenEnabled db update.boardId update.task.id update.task.status
    targetStatus update.statusRequested
  requireReviewBeforeDoneWhenEnabled db update.boardId update.task.status targetStatus
  requireApprovedLinkedApprovalForDone db update.boardId update.task.id update.task.status targetStatus

/-! ## Board leads -/

def leadCommentError : Failure :=
  .text 403 ("Lead comment gate failed: board leads cannot include `comment` in task PATCH. " ++
    "Use the task comments endpoint instead.")

def leadDisallowedFields (updates : TaskUpdate) : List String :=
  (if updates.description.isSome then ["description"] else []) ++
    (if updates.dueAt.isSome then ["due_at"] else []) ++
    (if updates.priority.isSome then ["priority"] else []) ++
    (if updates.title.isSome then ["title"] else [])

def validateLeadUpdateRequest (updates : TaskUpdate) : Except Failure Unit := do
  require updates.comment.isNone leadCommentError
  require (leadDisallowedFields updates = []) (.text 403
    ("Lead field gate failed: unsupported fields for board leads: " ++
      ", ".intercalate (leadDisallowedFields updates) ++
      ". Allowed fields: assigned_agent_id, custom_field_values, depends_on_task_ids, status, tag_ids."))

def leadApplyAssignment (db : Db) (update : TaskUpdateInput) : Except Failure (Option Uuid) :=
  match update.updates.assignedAgentId with
  | none => .ok update.task.assignedAgentId
  | some none => .ok none
  | some (some assignedId) => do
    let agent ← orFail (db.agents.get? assignedId) (.status 404)
    require (agent.isBoardLead = false) (.text 403 "Board leads cannot assign tasks to themselves.")
    require (boardMismatch agent update.boardId = false) (.status 409)
    return some agent.id

/-- The last worker of the board who moved the task to review, by the activity log. -/
def lastWorkerWhoMovedTaskToReview (db : Db) (taskId boardId leadAgentId : Uuid) : Option Uuid :=
  let moves := db.events.filter fun e =>
    e.taskId = some taskId ∧ e.eventType = .taskStatusChanged ∧
      "Task moved to review:".toList.isPrefixOf e.message.toList ∧
      e.agentId.any fun candidateId => candidateId ≠ leadAgentId &&
        (db.agents.get? candidateId).any fun candidate =>
          candidate.boardId = some boardId && !candidate.isBoardLead
  (firstBy (fun a b => b.createdAt < a.createdAt) moves).bind (·.agentId)

/-- The row a lead's request stores, its assignee given. -/
def leadApplyStatus (db : Db) (update : TaskUpdateInput) (lead : Agent) (assignedAgentId : Option Uuid) :
    Except Failure Task :=
  let task := { update.task with assignedAgentId }
  match update.updates.status with
  | none => .ok task
  | some targetStatus =>
    if task.status ≠ .review then
      -- assign and start: the only move a lead makes outside review
      if task.status = .inbox ∧ targetStatus = .inProgress ∧ (update.updates.assignedAgentId.join).isSome then
        .ok { task with status := targetStatus }
      else
        .error (.text 403 ("Lead status gate failed: board leads can only change status when the current " ++
          "task status is `review` (current: `" ++ task.status.text ++ "`)."))
    else if targetStatus ≠ .done ∧ targetStatus ≠ .inbox then
      .error (.text 403 ("Lead status target gate failed: review tasks can only move to `done` or " ++
        "`inbox` (requested: `" ++ targetStatus.text ++ "`)."))
    else if targetStatus = .inbox then
      .ok { task with
        status := targetStatus
        assignedAgentId := lastWorkerWhoMovedTaskToReview db task.id update.boardId lead.id
        inProgressAt := none }
    else .ok { task with status := targetStatus }

/-- A lead's update: rejected, not rewritten, when it would move or assign a blocked task. -/
def applyLeadTaskUpdate (texts : Texts) (db : Db) (update : TaskUpdateInput) (lead : Agent) :
    Except Failure Db := do
  validateLeadUpdateRequest update.updates
  let (dependencies, effectiveDeps) ← effectiveDependencies texts.search db update
  let blockedBy := taskBlockedIds db update.boardId effectiveDeps
  let normalizedTagIds ← normalizedUpdateTagIds db update
  require (blockedBy = [] ∨ update.updates.assignedAgentId = none ∧ update.updates.status = none)
    (blockedTaskError blockedBy)
  let assignedAgentId ← leadApplyAssignment db update
  let task ← leadApplyStatus db update lead assignedAgentId
  statusGates db update task.status
  let tagAssignments ← storeTags db update normalizedTagIds
  let customFieldValues ← storeCustomFieldValues texts db update
  let task := { task with updatedAt := update.now }
  return recordTaskUpdate
    { db with tasks := db.tasks.put task, dependencies, tagAssignments, customFieldValues }
    update task (some lead.id)

/-! ## Other agents -/

def taskUpdateForbiddenError (code message : String) : Failure := .http 403 { message, code := some code }

def claimTask (task : Task) (agent : Agent) (now : Time) : TaskStatus → Task
  | .inbox | .review =>
    { task with previousInProgressAt := task.inProgressAt, assignedAgentId := none, inProgressAt := none }
  | .inProgress => { task with assignedAgentId := some agent.id, inProgressAt := some now }
  | .done => { task with assignedAgentId := some agent.id }

/-- The fields an agent may set: status, comment and custom field values. -/
def agentMaySet (updates : TaskUpdate) : Prop :=
  updates.dependsOnTaskIds = none ∧ updates.tagIds = none ∧ updates.title = none ∧
    updates.description = none ∧ updates.priority = none ∧ updates.dueAt = none ∧
    updates.assignedAgentId = none

instance (updates : TaskUpdate) : Decidable (agentMaySet updates) :=
  inferInstanceAs (Decidable (_ ∧ _))

/-- An agent's update: what its row looks like before the requested fields are set. -/
def applyNonLeadAgentTaskRules (db : Db) (update : TaskUpdateInput) (agent : Agent) : Except Failure Task := do
  require (boardMismatch agent update.boardId = false) (taskUpdateForbiddenError "task_board_mismatch"
    "Agent can only update tasks for their assigned board.")
  require (update.updates.status.isSome → update.task.assignedAgentId.all (· = agent.id))
    (taskUpdateForbiddenError "task_assignee_mismatch"
      "Agents can only change status on tasks assigned to them.")
  require (agentMaySet update.updates) (taskUpdateForbiddenError "task_update_field_forbidden"
    "Agents may only update status, comment, and custom field values.")
  match update.updates.status with
  | none => return update.task
  | some statusValue =>
    require (boardRule db update.boardId (·.onlyLeadCanChangeStatus) ≠ some true)
      (.text 403 "Only board leads can change task status.")
    let blockedIds := taskBlockedIds db update.boardId (taskDepIds db update.boardId update.task.id)
    require (statusValue = .inbox ∨ blockedIds = []) (blockedTaskError blockedIds)
    return claimTask update.task agent update.now statusValue

/-! ## Users -/

def moveTask (task : Task) (now : Time) : Option TaskStatus → Task
  | some .inbox | some .review =>
    { task with previousInProgressAt := task.inProgressAt, assignedAgentId := none, inProgressAt := none }
  | some .inProgress => { task with inProgressAt := some now }
  | _ => task

structure AdminUpdate where
  task : Task
  updates : TaskUpdate
  dependencies : Table TaskDependency
  tagIds : Option (List Uuid)

/-- A user's update: a blocked task is sent back to the inbox unless it is done and stays so. -/
def applyAdminTaskRules (search : CycleSearch) (db : Db) (update : TaskUpdateInput) : Except Failure AdminUpdate := do
  let tagIds ← normalizedUpdateTagIds db update
  let (dependencies, effectiveDeps) ← effectiveDependencies search db update
  let blockedIds := taskBlockedIds db update.boardId effectiveDeps
  let targetStatus := update.updates.status.getD update.task.status
  let blocked := blockedIds ≠ [] ∧ ¬ (update.task.status = .done ∧ targetStatus = .done)
  let task :=
    if blocked then { update.task with status := .inbox, assignedAgentId := none, inProgressAt := none }
    else update.task
  let updates :=
    if blocked then { update.updates with status := some .inbox, assignedAgentId := some none }
    else update.updates
  let task := moveTask task update.now updates.status
  match updates.assignedAgentId.join with
  | none => return { task, updates, dependencies, tagIds }
  | some assignedAgentId =>
    let agent ← orFail (db.agents.get? assignedAgentId) (.status 404)
    require (boardMismatch agent update.boardId = false) (.status 409)
    return { task, updates, dependencies, tagIds }

/-! ## Storing an update -/

def setRequired (old : String) : Option (Option String) → Except Failure String
  | none => .ok old
  | some value => orFail value .integrityError

def setFields (task : Task) (updates : TaskUpdate) : Except Failure Task := do
  let title ← setRequired task.title updates.title
  let priority ← setRequired task.priority updates.priority
  return { task with
    title
    priority
    description := updates.description.getD task.description
    status := updates.status.getD task.status
    dueAt := updates.dueAt.getD task.dueAt
    assignedAgentId := updates.assignedAgentId.getD task.assignedAgentId }

def requireReviewComment (db : Db) (update : TaskUpdateInput) (status : Option TaskStatus) (task : Task) :
    Except Failure Unit :=
  if status = some .review ∧ requireCommentForReviewWhenEnabled db update.boardId then
    let author := task.assignedAgentId.or update.task.assignedAgentId
    let since := task.previousInProgressAt.or update.task.inProgressAt
    require (update.updates.comment.any (!isBlank ·) ∨ hasValidRecentComment db task.id author since)
      (.text 422 "Comment is required.")
  else .ok ()

def assignReviewTaskToLead (db : Db) (update : TaskUpdateInput) (task : Task) : Task :=
  if task.status = .review ∧ update.task.status ≠ .review then
    match db.agents.rows.find? fun a => a.boardId = some update.boardId ∧ a.isBoardLead with
    | none => task
    | some lead => { task with assignedAgentId := some lead.id }
  else task

def recordTaskComment (db : Db) (update : TaskUpdateInput) (actorAgentId : Option Uuid) (comment : String) : Db :=
  { db with
    events := db.events ++
      [{ eventType := .taskComment, message := comment, taskId := some update.task.id,
         boardId := update.task.boardId, agentId := actorAgentId, createdAt := update.now }] }

/-- The first commit: the task's row, its dependencies, tags and values. -/
def storeUpdatedTask (texts : Texts) (db : Db) (update : TaskUpdateInput) (row : AdminUpdate) :
    Except Failure (Db × Task) := do
  let task ← setFields row.task row.updates
  statusGates db update task.status
  let task := { task with updatedAt := update.now }
  requireReviewComment db update row.updates.status task
  let task := assignReviewTaskToLead db update task
  let tagAssignments ← storeTags db update row.tagIds
  let customFieldValues ← storeCustomFieldValues texts db update
  return ({ db with
    tasks := db.tasks.put task, dependencies := row.dependencies, tagAssignments, customFieldValues }, task)

/-- The commits of an update: the task, the comment if there is one, the activity and its effects. -/
def finalizeUpdatedTask (texts : Texts) (db : Db) (update : TaskUpdateInput) (row : AdminUpdate)
    (actorAgentId : Option Uuid) : Except Failure (List Db) := do
  let (stored, task) ← storeUpdatedTask texts db update row
  match update.updates.comment.filter (!isBlank ·) with
  | none => return [stored, recordTaskUpdate stored update task actorAgentId]
  | some comment =>
    let commented := recordTaskComment stored update actorAgentId comment
    return [stored, commented, recordTaskUpdate commented update task actorAgentId]

def updateTask (texts : Texts) (db : Db) (now : Time) (boardId taskId : Uuid) (actor : Actor)
    (payload : TaskUpdate) : Except Failure (List Db) := do
  let actor ← requireUserOrAgent db actor
  let board ← getBoardForActorRead db boardId actor
  let task ← getTaskOr404 db board taskId
  let update : TaskUpdateInput := { task, boardId := board.id, now, updates := payload }
  match actor with
  | .user userId =>
    requireBoardAccess db userId board true
    let row ← applyAdminTaskRules texts.search db update
    finalizeUpdatedTask texts db update row none
  | .agent agent =>
    if agent.isBoardLead then
      let db' ← applyLeadTaskUpdate texts db update agent
      return [db']
    else
      let task' ← applyNonLeadAgentTaskRules db update agent
      finalizeUpdatedTask texts db update
        { task := task', updates := payload, dependencies := db.dependencies, tagIds := none } (some agent.id)

end SiloForge
