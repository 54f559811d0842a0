import SiloForge.Tasks.Update

/-!
# Creating and deleting tasks, and deleting agents

`createTask` is the endpoint of users, `createTaskAsLead` the one of board leads; they share `storeNewTask`.
A task is committed with its dependencies, tags and values first, its activity row second.

`deleteTaskAndRelatedRecords` removes a task with its rows in the other tables; runs and spawn requests keep
it from being deleted. `deleteAgentRecord` takes an agent's tasks away from it.
-/

namespace SiloForge

open Lib

structure TaskCreate where
  title : String
  description : Option String := none
  status : TaskStatus := .inbox
  priority : String := "medium"
  dueAt : Option Time := none
  assignedAgentId : Option Uuid := none
  dependsOnTaskIds : List Uuid := []
  tagIds : List Uuid := []
  createdByUserId : Option Uuid := none
  customFieldValues : TaskCustomFieldValues := []

/-! ## Creation -/

def newTask (payload : TaskCreate) (now : Time) (boardId taskId : Uuid) : Task :=
  { id := taskId
    boardId := some boardId
    title := payload.title
    description := payload.description
    status := payload.status
    priority := payload.priority
    dueAt := payload.dueAt
    createdByUserId := payload.createdByUserId
    assignedAgentId := payload.assignedAgentId
    createdAt := now
    updatedAt := now }

/-- `INSERT` of a task: its user and agent must exist. -/
def insertTask (db : Db) (task : Task) : Except Failure (Table Task) := do
  require (task.createdByUserId.all fun id => (db.users.get? id).isSome) .integrityError
  require (task.assignedAgentId.all fun id => (db.agents.get? id).isSome) .integrityError
  orFail (db.tasks.insert? task) .integrityError

/-- Check the dependencies of a new task: with an unfinished one it starts in the inbox, unassigned. -/
def newTaskDependencies (search : CycleSearch) (db : Db) (board : Board) (task : Task) (payload : TaskCreate)
    (blockedError : List Uuid → Failure) : Except Failure (List Uuid × List Uuid) := do
  let normalizedDeps ← validateDependencyUpdate search db board.id task.id payload.dependsOnTaskIds
  let normalizedTagIds ← validateTagIds db board.organizationId payload.tagIds
  let blockedBy := taskBlockedIds db board.id normalizedDeps
  require (blockedBy = [] ∨ task.assignedAgentId = none ∧ task.status = .inbox) (blockedError blockedBy)
  return (normalizedDeps, normalizedTagIds)

/-- The first commit of a creation: the task, its values, dependencies and tags. -/
def storeNewTask (texts : Texts) (db : Db) (now : Time) (board : Board) (task : Task) (payload : TaskCreate)
    (normalizedDeps normalizedTagIds : List Uuid) : Except Failure Db := do
  let tasks ← insertTask db task
  let customFieldValues ←
    setTaskCustomFieldValuesForCreate texts db now board.id task.id payload.customFieldValues
  let dependencies ← orFail (db.dependencies.insertAll? (dependencyRows board.id task.id normalizedDeps))
    .integrityError
  let tagAssignments ← replaceTags db.tagAssignments task.id normalizedTagIds
  return { db with tasks, customFieldValues, dependencies, tagAssignments }

def recordTaskCreated (db : Db) (now : Time) (task : Task) (message : String) (actorAgentId : Option Uuid) : Db :=
  { db with
    events := db.events ++
      [{ eventType := .taskCreated, message := message ++ task.title ++ ".", taskId := some task.id,
         boardId := task.boardId, agentId := actorAgentId, createdAt := now }] }

def createTask (texts : Texts) (db : Db) (now : Time) (boardId taskId userId : Uuid) (payload : TaskCreate) :
    Except Failure (List Db) := do
  let board ← getBoardForUserWrite db boardId userId
  let task := newTask payload now board.id taskId
  let task := { task with createdByUserId := task.createdByUserId.or (some userId) }
  let (normalizedDeps, normalizedTagIds) ← newTaskDependencies texts.search db board task payload blockedTaskError
  let stored ← storeNewTask texts db now board task payload normalizedDeps normalizedTagIds
  return [stored, recordTaskCreated stored now task "Task created: " none]

/-- The agent API's answer for a blocked task, which carries no code. -/
def blockedNewTaskError (blockedByTaskIds : List Uuid) : Failure :=
  .http 409
    { message := "Task is blocked by incomplete dependencies."
      ids := [("blocked_by_task_ids", blockedByTaskIds)] }

/-- The agent a lead assigns a new task to is a worker who may act on the board. -/
def requireAssignable (db : Db) (boardId : Uuid) : Option Uuid → Except Failure Unit
  | none => .ok ()
  | some assignedAgentId => do
    let agent ← orFail (db.agents.get? assignedAgentId) (.status 404)
    require (agent.isBoardLead = false) (.text 403 "Board leads cannot assign tasks to themselves.")
    require (boardMismatch agent boardId = false) (.status 409)

def createTaskAsLead (texts : Texts) (db : Db) (now : Time) (boardId taskId agentId : Uuid)
    (payload : TaskCreate) : Except Failure (List Db) := do
  let lead ← orFail (db.agents.get? agentId) (.status 401)
  let board ← getBoardOr404 db boardId
  require (boardMismatch lead board.id = false) (.status 403)
  requireBoardLeadActor lead
  let task := { newTask payload now board.id taskId with autoCreated := true, autoReason := some lead.id }
  let (normalizedDeps, normalizedTagIds) ← newTaskDependencies texts.search db board task payload blockedNewTaskError
  requireAssignable db board.id task.assignedAgentId
  let stored ← storeNewTask texts db now board task payload normalizedDeps normalizedTagIds
  return [stored, recordTaskCreated stored now task "Task created by lead: " (some lead.id)]

/-! ## Deletion -/

/-- An approval with its next linked task in the place of its own. -/
def Approval.relink (approval : Approval) (links : Table ApprovalTaskLink) : Approval :=
  { approval with taskId := (linkedTaskIds links approval.id).head? }

theorem Approval.key_relink (approval : Approval) (links : Table ApprovalTaskLink) :
    key (approval.relink links) = key approval := rfl

/-- The approvals without a task: their next linked task stands in for it, an unlinked one goes. -/
def detachApprovals (approvals : Table Approval) (links : Table ApprovalTaskLink) (taskId : Uuid) :
    Table Approval :=
  (approvals.deleteWhere fun a => a.taskId = some taskId ∧ linkedTaskIds links a.id = []).updateWhere
    (fun a => a.taskId = some taskId) (fun a => a.relink links) (fun a _ => a.key_relink links)

variable {taskId boardId : Uuid} {texts : Texts} {db : Db} {now : Time} {payload : TaskCreate}

theorem mem_detachApprovals {approvals : Table Approval} {links : Table ApprovalTaskLink} {a : Approval} :
    a ∈ detachApprovals approvals links taskId ↔
      ∃ a' ∈ approvals, (a'.taskId = some taskId → linkedTaskIds links a'.id ≠ []) ∧
        (if a'.taskId = some taskId then a'.relink links else a') = a := by
  rw [detachApprovals, Table.mem_updateWhere]
  simp [and_assoc]

def deleteTaskAndRelatedRecords (db : Db) (task : Task) : Except Failure Db := do
  let approvalTaskLinks := db.approvalTaskLinks.deleteWhere fun l => l.taskId = task.id
  require (db.runs.rows.all (·.taskId ≠ task.id)) .integrityError
  require (db.spawnRequests.rows.all (·.sourceTaskId ≠ some task.id)) .integrityError
  return { db with
    events := db.events.filter fun e => e.taskId ≠ some task.id
    approvalTaskLinks
    approvals := detachApprovals db.approvals approvalTaskLinks task.id
    dependencies := db.dependencies.deleteWhere fun d => d.taskId = task.id ∨ d.dependsOnTaskId = task.id
    tagAssignments := db.tagAssignments.deleteWhere fun a => a.taskId = task.id
    customFieldValues := db.customFieldValues.deleteWhere fun v => v.taskId = task.id
    tasks := db.tasks.deleteWhere fun t => t.id = task.id }

def deleteTask (db : Db) (boardId taskId : Uuid) (actor : Actor) : Except Failure Db := do
  let actor ← requireUserOrAgent db actor
  let board ← getBoardForActorRead db boardId actor
  let task ← getTaskOr404 db board taskId
  match actor with
  | .user userId => requireBoardAccess db userId board true
  | .agent agent => requireBoardLeadActor agent
  deleteTaskAndRelatedRecords db task

def Task.unassign (task : Task) (now : Time) : Task :=
  { task with assignedAgentId := none, updatedAt := now }

theorem Task.key_unassign (task : Task) (now : Time) : key (task.unassign now) = key task := rfl

/-- Tasks without an agent: what it was working on goes back to the inbox, the rest is unassigned. -/
def releaseAgentTasks (tasks : Table Task) (now : Time) (agentId : Uuid) : Table Task :=
  (tasks.updateWhere (fun t => t.assignedAgentId = some agentId ∧ t.status = .inProgress)
      (fun t => t.reset now) (fun t _ => t.key_reset now)).updateWhere
    (fun t => t.assignedAgentId = some agentId ∧ t.status ≠ .inProgress)
    (fun t => t.unassign now) (fun t _ => t.key_unassign now)

/-- What the deletion of an agent makes of a task. -/
def Task.released (task : Task) (now : Time) (agentId : Uuid) : Task :=
  if task.assignedAgentId = some agentId then
    if task.status = .inProgress then task.reset now else task.unassign now
  else task

theorem Task.released_eq (task : Task) (now : Time) (agentId : Uuid) :
    (let stopped := if decide (task.assignedAgentId = some agentId ∧ task.status = .inProgress) then task.reset now else task
     if decide (stopped.assignedAgentId = some agentId ∧ stopped.status ≠ .inProgress) then stopped.unassign now
     else stopped) = task.released now agentId := by
  unfold released
  by_cases hown : task.assignedAgentId = some agentId
  · by_cases hstarted : task.status = .inProgress
    · simp [hown, hstarted, reset]
    · simp [hown, hstarted]
  · simp [hown]

variable {agentId : Uuid}

theorem get?_releaseAgentTasks {tasks : Table Task} {now : Time} {taskId : Uuid} :
    (releaseAgentTasks tasks now agentId).get? taskId = (tasks.get? taskId).map (·.released now agentId) := by
  rw [releaseAgentTasks, Table.get?_updateWhere, Table.get?_updateWhere, Option.map_map]
  exact congrArg (fun f => (tasks.get? taskId).map f) (funext fun t => t.released_eq now agentId)

theorem mem_releaseAgentTasks {tasks : Table Task} {now : Time} {t : Task} :
    t ∈ releaseAgentTasks tasks now agentId ↔ ∃ t' ∈ tasks, t'.released now agentId = t := by
  simp only [releaseAgentTasks, Table.mem_updateWhere, ← Task.released_eq]
  constructor
  · rintro ⟨_, ⟨t', ht', rfl⟩, heq⟩
    exact ⟨t', ht', heq⟩
  · rintro ⟨t', ht', heq⟩
    exact ⟨_, ⟨t', ht', rfl⟩, heq⟩

def Approval.forgetAgent (approval : Approval) : Approval := { approval with agentId := none }

theorem Approval.key_forgetAgent (approval : Approval) : key approval.forgetAgent = key approval := rfl

/-- Approvals without an agent's name on them. -/
def releaseAgentApprovals (approvals : Table Approval) (agentId : Uuid) : Table Approval :=
  approvals.updateWhere (fun a => a.agentId = some agentId) Approval.forgetAgent (fun a _ => a.key_forgetAgent)

theorem mem_releaseAgentApprovals {approvals : Table Approval} {a : Approval} :
    a ∈ releaseAgentApprovals approvals agentId ↔
      ∃ a' ∈ approvals, (if a'.agentId = some agentId then a'.forgetAgent else a') = a := by
  rw [releaseAgentApprovals, Table.mem_updateWhere]
  simp

def clearAgent (events : List ActivityEvent) (agentId : Uuid) : List ActivityEvent :=
  events.map fun e => if e.agentId = some agentId then { e with agentId := none } else e

/-- Delete an agent: release its tasks and clear the references to it. Runs it requested keep it. -/
def deleteAgentRecord (db : Db) (now : Time) (agentId : Uuid) : Except Failure Db := do
  let agent ← orFail (db.agents.get? agentId) (.status 404)
  require (db.runs.rows.all (·.requestedByAgentId ≠ some agent.id)) .integrityError
  return { db with
    tasks := releaseAgentTasks db.tasks now agent.id
    events := clearAgent (db.events ++
      [{ eventType := .agentDeleted, message := "Deleted agent " ++ agent.name ++ ".", taskId := none,
         boardId := agent.boardId, agentId := none, createdAt := now }]) agent.id
    approvals := releaseAgentApprovals db.approvals agent.id
    agents := db.agents.deleteWhere fun a => a.id = agent.id }

/-! ## Comments -/

def leadWasMentioned (texts : Texts) (db : Db) (taskId : Uuid) (lead : Agent) : Bool :=
  db.events.any fun e =>
    e.taskId = some taskId && e.eventType = .taskComment && e.message ≠ "" && texts.mentions e.message lead

def leadCreatedTask (task : Task) (lead : Agent) : Bool := task.autoCreated && task.autoReason = some lead.id

/-- The comment endpoint: a lead comments during review, when mentioned, or on its own tasks. -/
def createTaskComment (texts : Texts) (db : Db) (now : Time) (boardId taskId : Uuid) (actor : Actor)
    (message : String) : Except Failure Db := do
  let actor ← requireUserOrAgent db actor
  let board ← getBoardForActorRead db boardId actor
  let task ← getTaskOr404 db board taskId
  match actor with
  | .user userId => requireBoardAccess db userId board true
  | .agent agent =>
    require (agent.isBoardLead = false ∨ task.status = .review ∨ leadWasMentioned texts db task.id agent ∨
        leadCreatedTask task agent) (.text 403
      "Board leads can only comment during review, when mentioned, or on tasks they created.")
  return { db with
    events := db.events ++
      [{ eventType := .taskComment, message, taskId := some task.id, boardId := task.boardId,
         agentId := actor.agent?.map (·.id), createdAt := now }] }

/-! ## What the endpoints store -/

/-- What holds of a task that is created. -/
structure NewTaskRules (db : Db) (board : Board) (task : Task) (payload : TaskCreate) (deps : List Uuid) : Prop where
  found : db.boards.get? board.id = some board
  onBoard : task.boardId = some board.id
  status : task.status = payload.status
  notStarted : task.inProgressAt = none
  valid : ∃ search, validateDependencyUpdate search db board.id task.id payload.dependsOnTaskIds = .ok deps
  blocked : taskBlockedIds db board.id deps = [] ∨ task.assignedAgentId = none ∧ task.status = .inbox

theorem storeNewTask_eq_ok {stored : Db} {board : Board} {task : Task} {deps tagIds : List Uuid}
    (h : storeNewTask texts db now board task payload deps tagIds = .ok stored) :
    ∃ tasks dependencies customFieldValues tagAssignments, db.tasks.insert? task = some tasks ∧
      db.dependencies.insertAll? (dependencyRows board.id task.id deps) = some dependencies ∧
      stored = { db with tasks, dependencies, customFieldValues, tagAssignments } := by
  simp only [storeNewTask, insertTask, bind_eq_ok, require_eq_ok, orFail_eq_ok, pure_eq_ok] at h
  obtain ⟨tasks, ⟨_, -, _, -, htasks⟩, values, -, dependencies, hdeps, tags, -, rfl⟩ := h
  exact ⟨tasks, dependencies, values, tags, htasks, hdeps, rfl⟩

theorem newTaskDependencies_eq_ok {search : CycleSearch} {board : Board} {task : Task} {blockedError : List Uuid → Failure}
    {deps tagIds : List Uuid} (h : newTaskDependencies search db board task payload blockedError = .ok (deps, tagIds)) :
    validateDependencyUpdate search db board.id task.id payload.dependsOnTaskIds = .ok deps ∧
      (taskBlockedIds db board.id deps = [] ∨ task.assignedAgentId = none ∧ task.status = .inbox) := by
  simp only [newTaskDependencies, bind_eq_ok, require_eq_ok, pure_eq_ok] at h
  obtain ⟨_, hvalid, _, -, _, hblocked, heq⟩ := h
  obtain ⟨rfl, rfl⟩ := Prod.mk.inj heq
  exact ⟨hvalid, hblocked⟩

/-- What both creation endpoints commit: a stored task obeying `NewTaskRules`, then its activity row. -/
structure Creates (db : Db) (payload : TaskCreate) (boardId : Uuid) (taskId : Uuid) (commits : List Db) : Prop where
  stores : ∃ board task deps tasks dependencies customFieldValues tagAssignments,
    board.id = boardId ∧ task.id = taskId ∧ NewTaskRules db board task payload deps ∧
    db.tasks.insert? task = some tasks ∧
    db.dependencies.insertAll? (dependencyRows board.id task.id deps) = some dependencies ∧
    ∀ t ∈ commits, ∃ events, t = { db with tasks, dependencies, customFieldValues, tagAssignments, events }

theorem creates_of_store {search : CycleSearch} {board : Board} {task : Task} {blockedError : List Uuid → Failure}
    {deps tagIds : List Uuid} {stored : Db} (hget : db.boards.get? board.id = some board)
    (hon : task.boardId = some board.id) (hstatus : task.status = payload.status) (htime : task.inProgressAt = none)
    (hdeps : newTaskDependencies search db board task payload blockedError = .ok (deps, tagIds))
    (hstore : storeNewTask texts db now board task payload deps tagIds = .ok stored) (message : String)
    (actorAgentId : Option Uuid) :
    Creates db payload board.id task.id [stored, recordTaskCreated stored now task message actorAgentId] := by
  obtain ⟨hvalid, hblocked⟩ := newTaskDependencies_eq_ok hdeps
  obtain ⟨tasks, dependencies, values, tags, htasks, hrows, rfl⟩ := storeNewTask_eq_ok hstore
  refine ⟨board, task, deps, tasks, dependencies, values, tags, rfl, rfl,
    ⟨hget, hon, hstatus, htime, ⟨_, hvalid⟩, hblocked⟩, htasks, hrows, fun t ht => ?_⟩
  rcases List.mem_cons.mp ht with rfl | ht
  · exact ⟨_, rfl⟩
  · obtain rfl := List.mem_singleton.mp ht
    exact ⟨_, rfl⟩

theorem createTask_eq_ok {userId : Uuid} {commits : List Db}
    (h : createTask texts db now boardId taskId userId payload = .ok commits) :
    Creates db payload boardId taskId commits := by
  simp only [createTask, bind_eq_ok, pure_eq_ok] at h
  obtain ⟨board, hboard, ⟨deps, tagIds⟩, hdeps, stored, hstore, rfl⟩ := h
  obtain ⟨hget, rfl⟩ := getBoardForUserWrite_eq_ok hboard
  exact creates_of_store hget rfl rfl rfl hdeps hstore _ _

theorem createTaskAsLead_eq_ok {commits : List Db}
    (h : createTaskAsLead texts db now boardId taskId agentId payload = .ok commits) :
    Creates db payload boardId taskId commits := by
  simp only [createTaskAsLead, bind_eq_ok, pure_eq_ok] at h
  obtain ⟨lead, -, board, hboard, _, -, _, -, ⟨deps, tagIds⟩, hdeps, _, -, stored, hstore, rfl⟩ := h
  obtain ⟨hget, rfl⟩ := getBoardOr404_eq_ok hboard
  exact creates_of_store hget rfl rfl rfl hdeps hstore _ _

theorem deleteTask_eq_ok {t : Db} {actor : Actor} (h : deleteTask db boardId taskId actor = .ok t) :
    ∃ links, links = db.approvalTaskLinks.deleteWhere (fun l => l.taskId = taskId) ∧
      (∀ run ∈ db.runs, run.taskId ≠ taskId) ∧
      ∃ events tagAssignments customFieldValues, t = { db with
        tasks := db.tasks.deleteWhere fun t => t.id = taskId
        dependencies := db.dependencies.deleteWhere fun d => d.taskId = taskId ∨ d.dependsOnTaskId = taskId
        approvals := detachApprovals db.approvals links taskId
        approvalTaskLinks := links
        events, tagAssignments, customFieldValues } := by
  simp only [deleteTask, bind_eq_ok] at h
  obtain ⟨ctx, -, board, -, task, htask, h⟩ := h
  obtain ⟨-, rfl, -⟩ := getTaskOr404_eq_ok htask
  cases ctx <;>
  · simp only [bind_eq_ok, deleteTaskAndRelatedRecords, require_eq_ok, pure_eq_ok] at h
    obtain ⟨_, -, _, hruns, _, -, rfl⟩ := h
    exact ⟨_, rfl, by simpa [Table.mem_def] using hruns, _, _, _, rfl⟩

theorem deleteAgentRecord_eq_ok {t : Db} (h : deleteAgentRecord db now agentId = .ok t) : ∃ events, t = { db with
      tasks := releaseAgentTasks db.tasks now agentId
      approvals := releaseAgentApprovals db.approvals agentId
      agents := db.agents.deleteWhere fun a => a.id = agentId
      events } := by
  simp only [deleteAgentRecord, bind_eq_ok, orFail_eq_ok, require_eq_ok, pure_eq_ok] at h
  obtain ⟨agent, hagent, _, -, rfl⟩ := h
  obtain rfl : agent.id = agentId := Table.key_of_get? hagent
  exact ⟨_, rfl⟩

theorem createTaskComment_eq_ok {t : Db} {actor : Actor} {message : String}
    (h : createTaskComment texts db now boardId taskId actor message = .ok t) :
    ∃ events, t = { db with events } := by
  simp only [createTaskComment, bind_eq_ok] at h
  obtain ⟨ctx, -, board, -, task, -, h⟩ := h
  cases ctx <;>
  · simp only [bind_eq_ok, pure_eq_ok] at h
    obtain ⟨_, -, rfl⟩ := h
    exact ⟨_, rfl⟩

end SiloForge
