import SiloForge.Activity.Log
import SiloForge.Tasks.Fields

/-!
# Tasks as they are read

The list of a board's tasks and the stream of its task events each put a `TaskRead` together from the task's row, its
dependencies, tags and custom field values.

* `loadTagState`, `dependencyIdsByTaskId`, `taskCustomFieldValuesByTaskId` : the statements, made for a batch of tasks;
* `readTask` : one task with all of them; `taskReadPage_eq`, `taskEventPayload_eq` say that both show it.
-/

namespace SiloForge

open Lib

structure TagRef where
  id : Uuid
  name : String
  slug : String
  color : String
  deriving DecidableEq

structure TagState where
  tagIds : List Uuid := []
  tags : List TagRef := []

structure TaskRead where
  id : Uuid
  boardId : Option Uuid
  title : String
  description : Option String
  status : TaskStatus
  priority : String
  dueAt : Option Time
  assignedAgentId : Option Uuid
  createdByUserId : Option Uuid
  inProgressAt : Option Time
  createdAt : Time
  updatedAt : Time
  dependsOnTaskIds : List Uuid := []
  tagIds : List Uuid := []
  tags : List TagRef := []
  blockedByTaskIds : List Uuid := []
  isBlocked : Bool := false
  customFieldValues : Option TaskCustomFieldValues := none

/-- `TaskRead.model_validate(task, from_attributes=True)`. -/
def Task.toRead (task : Task) : TaskRead where
  id := task.id
  boardId := task.boardId
  title := task.title
  description := task.description
  status := task.status
  priority := task.priority
  dueAt := task.dueAt
  assignedAgentId := task.assignedAgentId
  createdByUserId := task.createdByUserId
  inProgressAt := task.inProgressAt
  createdAt := task.createdAt
  updatedAt := task.updatedAt

/-! ## Statements for a batch of tasks -/

def taskTagRows (db : Db) (taskId : Uuid) : List Tag :=
  (db.tagAssignments.rows.filter fun a => a.taskId = taskId).filterMap fun a => db.tags.get? a.tagId

def Tag.ref (tag : Tag) : TagRef := ⟨tag.id, tag.name, tag.slug, tag.color⟩

/-- `load_tag_state`, with the empty state for a task it has none for. -/
def loadTagState (db : Db) (taskIds : List Uuid) (taskId : Uuid) : TagState :=
  if taskId ∈ taskIds then
    { tagIds := (taskTagRows db taskId).map (·.id), tags := (taskTagRows db taskId).map (·.ref) }
  else {}

/-- `dependency_ids_by_task_id`, with no dependencies for a task it has none for. -/
def dependencyIdsByTaskId (db : Db) (boardId : Uuid) (taskIds : List Uuid) (taskId : Uuid) : List Uuid :=
  if taskId ∈ taskIds then taskDepIds db boardId taskId else []

def dependencyStatuses (db : Db) (boardId : Uuid) (dependencyIds : List Uuid) (dependencyId : Uuid) :
    Option TaskStatus :=
  if dependencyId ∈ dependencyIds then dependencyStatusById db boardId dependencyId else none

/-- The value of a field of a task: the one stored, or the field's default. -/
def customFieldValue (db : Db) (taskId : Uuid) (definition : TaskCustomFieldDefinition) : Json :=
  ((db.customFieldValues.get? (taskId, definition.id)).map (·.value)).getD definition.defaultValue

/-- `_task_custom_field_values_by_task_id`, with no values for a task it has none for. -/
def taskCustomFieldValuesByTaskId (db : Db) (boardId : Uuid) (taskIds : List Uuid) :
    Except Failure (Uuid → TaskCustomFieldValues) := do
  if taskIds = [] then return fun _ => []
  let definitions ← organizationCustomFieldDefinitionsForBoard db boardId
  return fun taskId =>
    if taskId ∈ taskIds then definitions.map fun d => (d.fieldKey, customFieldValue db taskId d) else []

def blockedBy (task : Task) (depIds : List Uuid) (statusById : Uuid → Option TaskStatus) : List Uuid :=
  if task.status = .done then [] else blockedByDependencyIds depIds statusById

/-! ## The list -/

def taskReadPage (db : Db) (boardId : Uuid) (tasks : List Task) : Except Failure (List TaskRead) := do
  if tasks = [] then return []
  let taskIds := tasks.map (·.id)
  let tagState := loadTagState db taskIds
  let depsMap := dependencyIdsByTaskId db boardId taskIds
  let depStatus := dependencyStatuses db boardId (taskIds.flatMap depsMap)
  let customFieldValues ← taskCustomFieldValuesByTaskId db boardId taskIds
  return tasks.map fun task =>
    { task.toRead with
      dependsOnTaskIds := depsMap task.id
      tagIds := (tagState task.id).tagIds
      tags := (tagState task.id).tags
      blockedByTaskIds := blockedBy task (depsMap task.id) depStatus
      isBlocked := !(blockedBy task (depsMap task.id) depStatus).isEmpty
      customFieldValues := some (customFieldValues task.id) }

/-- `ORDER BY created_at DESC`; the database may order rows of one time as it likes. -/
def tasksNewestFirst (rank : Uuid → Nat) (a b : Task) : Bool :=
  b.createdAt < a.createdAt ∨ (a.createdAt = b.createdAt ∧ rank a.id ≤ rank b.id)

structure TaskListQuery where
  statuses : List TaskStatus := []
  assignedAgentId : Option Uuid := none
  unassigned : Bool := false
  rank : Uuid → Nat
  offset : Nat := 0
  limit : Nat

def taskListStatement (db : Db) (boardId : Uuid) (query : TaskListQuery) : List Task :=
  (db.tasks.rows.filter fun t =>
    t.boardId = some boardId ∧ (query.statuses ≠ [] → t.status ∈ query.statuses) ∧
      (query.assignedAgentId.isSome → t.assignedAgentId = query.assignedAgentId) ∧
        (query.unassigned → t.assignedAgentId = none)).mergeSort (tasksNewestFirst query.rank)

/-- `list_tasks`, one page of it. -/
def listTasks (db : Db) (boardId : Uuid) (query : TaskListQuery) : Except Failure (List TaskRead) :=
  taskReadPage db boardId (((taskListStatement db boardId query).drop query.offset).take query.limit)

/-! ## The stream -/

structure TaskCommentRead where
  id : Uuid
  message : Option String
  agentId : Option Uuid
  taskId : Option Uuid
  createdAt : Time

/-- What the payload of an event shows beside the event itself. -/
inductive TaskEventBody where
  | comment (comment : TaskCommentRead)
  | task (task : Option TaskRead)

structure TaskEventPayload where
  type : String
  activity : ActivityEventRow
  body : TaskEventBody

/-- What the payloads of one poll are made of. -/
structure StreamTaskState where
  depsMap : Uuid → List Uuid := fun _ => []
  depStatus : Uuid → Option TaskStatus := fun _ => none
  tagState : Uuid → TagState := fun _ => {}
  customFieldValues : Uuid → TaskCustomFieldValues := fun _ => []

/-- The tasks whose state a poll reads: comments need none. -/
def streamedTaskIds (rows : List (ActivityEventRow × Option Task)) : List Uuid :=
  rows.filterMap fun (event, task) => if event.eventType = "task.comment" then none else task.map (·.id)

def streamTaskState (db : Db) (boardId : Uuid) (rows : List (ActivityEventRow × Option Task)) :
    Except Failure StreamTaskState := do
  let taskIds := streamedTaskIds rows
  if taskIds = [] then return {}
  let tagState := loadTagState db taskIds
  let depsMap := dependencyIdsByTaskId db boardId taskIds
  let customFieldValues ← taskCustomFieldValuesByTaskId db boardId taskIds
  if taskIds.flatMap depsMap = [] then return { depsMap, tagState, customFieldValues }
  return { depsMap, depStatus := dependencyStatuses db boardId (taskIds.flatMap depsMap), tagState, customFieldValues }

def taskEventPayload (state : StreamTaskState) (event : ActivityEventRow) (task : Option Task) : TaskEventPayload where
  type := event.eventType
  activity := { event with boardId := none }
  body :=
    if event.eventType = "task.comment" then
      .comment
        { id := event.id, message := event.message, agentId := event.agentId, taskId := event.taskId
          createdAt := event.createdAt }
    else
      .task <| task.map fun task =>
        { task.toRead with
          dependsOnTaskIds := state.depsMap task.id
          tagIds := (state.tagState task.id).tagIds
          tags := (state.tagState task.id).tags
          blockedByTaskIds := blockedBy task (state.depsMap task.id) state.depStatus
          isBlocked := !(blockedBy task (state.depsMap task.id) state.depStatus).isEmpty
          customFieldValues := some (state.customFieldValues task.id) }

/-! ## One task -/

/-- A task with its dependencies and tags, its custom field values apart. -/
def cardTask (db : Db) (boardId : Uuid) (task : Task) : TaskRead :=
  let depIds := taskDepIds db boardId task.id
  let blocked := blockedBy task depIds (dependencyStatusById db boardId)
  { task.toRead with
    dependsOnTaskIds := depIds
    tagIds := (taskTagRows db task.id).map (·.id)
    tags := (taskTagRows db task.id).map (·.ref)
    blockedByTaskIds := blocked
    isBlocked := !blocked.isEmpty }

def readTask (db : Db) (boardId : Uuid) (definitions : List TaskCustomFieldDefinition) (task : Task) : TaskRead :=
  { cardTask db boardId task with
    customFieldValues := some (definitions.map fun d => (d.fieldKey, customFieldValue db task.id d)) }

section Reads
variable {db : Db} {boardId : Uuid} {definitions : List TaskCustomFieldDefinition}

theorem blockedBy_batch {task : Task} {depIds : List Uuid}
    (h : taskDepIds db boardId task.id ⊆ depIds) :
    blockedBy task (taskDepIds db boardId task.id) (dependencyStatuses db boardId depIds) =
      blockedBy task (taskDepIds db boardId task.id) (dependencyStatusById db boardId) := by
  unfold blockedBy blockedByDependencyIds
  split
  · rfl
  · refine List.filter_congr fun depId hdep => ?_
    unfold dependencyStatuses
    rw [if_pos (h hdep)]

variable {taskIds : List Uuid}

theorem dependencyIdsByTaskId_of_mem {taskId : Uuid} (h : taskId ∈ taskIds) :
    dependencyIdsByTaskId db boardId taskIds taskId = taskDepIds db boardId taskId := if_pos h

theorem loadTagState_of_mem {taskId : Uuid} (h : taskId ∈ taskIds) : loadTagState db taskIds taskId =
      { tagIds := (taskTagRows db taskId).map (·.id), tags := (taskTagRows db taskId).map (·.ref) } := if_pos h

theorem taskDepIds_subset_batch {taskId : Uuid} (h : taskId ∈ taskIds) :
    taskDepIds db boardId taskId ⊆ taskIds.flatMap (dependencyIdsByTaskId db boardId taskIds) := by
  intro depId hdep
  refine List.mem_flatMap.mpr ⟨taskId, h, ?_⟩
  rw [dependencyIdsByTaskId_of_mem h]
  exact hdep

theorem taskCustomFieldValuesByTaskId_eq
    (hdefs : organizationCustomFieldDefinitionsForBoard db boardId = .ok definitions) (hne : taskIds ≠ []) :
    taskCustomFieldValuesByTaskId db boardId taskIds = .ok fun taskId =>
      if taskId ∈ taskIds then definitions.map fun d => (d.fieldKey, customFieldValue db taskId d) else [] := by
  unfold taskCustomFieldValuesByTaskId
  rw [if_neg hne, hdefs]
  rfl

/-- **The list** shows each task with what belongs to it. -/
theorem taskReadPage_eq (hdefs : organizationCustomFieldDefinitionsForBoard db boardId = .ok definitions)
    (tasks : List Task) : taskReadPage db boardId tasks = .ok (tasks.map (readTask db boardId definitions)) := by
  unfold taskReadPage
  by_cases hne : tasks = []
  · rw [if_pos hne, hne]
    rfl
  · have hids : tasks.map (·.id) ≠ [] := fun h => hne (List.map_eq_nil_iff.mp h)
    rw [if_neg hne]
    dsimp only
    rw [taskCustomFieldValuesByTaskId_eq hdefs hids]
    refine congrArg Except.ok (List.map_congr_left fun task htask => ?_)
    have hmem : task.id ∈ tasks.map (·.id) := List.mem_map_of_mem htask
    dsimp only
    rw [dependencyIdsByTaskId_of_mem hmem, blockedBy_batch (taskDepIds_subset_batch hmem), if_pos hmem,
      loadTagState_of_mem hmem]
    rfl

theorem mem_streamedTaskIds {rows : List (ActivityEventRow × Option Task)} {event : ActivityEventRow} {task : Task}
    (h : (event, some task) ∈ rows) (hevent : event.eventType ≠ "task.comment") : task.id ∈ streamedTaskIds rows :=
  List.mem_filterMap.mpr ⟨_, h, if_neg hevent⟩

/-- **The stream** shows the task of an event with what belongs to it. -/
theorem taskEventPayload_eq (hdefs : organizationCustomFieldDefinitionsForBoard db boardId = .ok definitions)
    (rows : List (ActivityEventRow × Option Task)) : ∃ state, streamTaskState db boardId rows = .ok state ∧
      ∀ event task, (event, some task) ∈ rows → event.eventType ≠ "task.comment" →
        (taskEventPayload state event (some task)).body = .task (some (readTask db boardId definitions task)) := by
  unfold streamTaskState
  dsimp only
  by_cases hids : streamedTaskIds rows = []
  · rw [if_pos hids]
    refine ⟨_, rfl, fun event task hrow hevent => ?_⟩
    exact absurd (mem_streamedTaskIds hrow hevent) (hids ▸ List.not_mem_nil)
  · rw [if_neg hids, taskCustomFieldValuesByTaskId_eq hdefs hids]
    by_cases hdeps : (streamedTaskIds rows).flatMap (dependencyIdsByTaskId db boardId (streamedTaskIds rows)) = []
    · refine ⟨_, bind_eq_ok.mpr ⟨_, rfl, if_pos hdeps⟩, fun event task hrow hevent => ?_⟩
      have hmem := mem_streamedTaskIds hrow hevent
      have hnone : taskDepIds db boardId task.id = [] :=
        List.subset_nil.mp (hdeps ▸ taskDepIds_subset_batch hmem)
      have hblocked : blockedBy task [] (dependencyStatusById db boardId) = blockedBy task [] fun _ => none := by
        unfold blockedBy
        split <;> rfl
      unfold taskEventPayload readTask cardTask
      dsimp only
      rw [if_neg hevent, Option.map_some, dependencyIdsByTaskId_of_mem hmem, hnone, if_pos hmem,
        loadTagState_of_mem hmem, hblocked]
    · refine ⟨_, bind_eq_ok.mpr ⟨_, rfl, if_neg hdeps⟩, fun event task hrow hevent => ?_⟩
      have hmem := mem_streamedTaskIds hrow hevent
      unfold taskEventPayload readTask cardTask
      dsimp only
      rw [if_neg hevent, Option.map_some, dependencyIdsByTaskId_of_mem hmem,
        blockedBy_batch (taskDepIds_subset_batch hmem), if_pos hmem, loadTagState_of_mem hmem]

end Reads

end SiloForge
