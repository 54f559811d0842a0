import SiloForge.Tasks.Patched
import SiloForge.Tenancy.Reading

/-!
# Writing on a board of one organization

What a request about a board writes are rows of the board, of its tasks and of its approvals. On `db.without o` it
does what it does on `db`, and the states it commits there are those without the rows of others.

* `updateTask_without`, `createTaskAsLead_without`, `createTaskComment_without` : tasks and comments;
* `deleteTask_without`, `deleteAgentRecord_without` : deletions fail with the same errors;
* `createApproval_without` : approvals, of the tasks a request names.
-/

namespace SiloForge

open Lib

theorem orFail_map {ε α β : Type} (x : Option α) (f : α → β) (e : ε) : orFail (x.map f) e = (orFail x e).map f := by
  cases x <;> rfl

section Board
variable {o : Others} {db : Db} {boardId : Uuid} (hboard : o.board boardId = false)

/-! ## Rows beside a task -/

variable {taskId agentId : Uuid}

theorem replaceTags_without (htask : o.task taskId = false) (tagIds : List Uuid) :
    replaceTags (db.without o).tagAssignments taskId tagIds =
      (replaceTags db.tagAssignments taskId tagIds).map fun t => t.deleteWhere fun a => o.task a.taskId := by
  unfold replaceTags
  show orFail (((db.tagAssignments.deleteWhere _).deleteWhere _).insertAll? _) _ = _
  rw [Table.deleteWhere_part, Table.insertAll?_part, orFail_map]
  · intro a ha
    obtain ⟨tagId, -, rfl⟩ := List.mem_map.mp ha
    exact htask
  · intro a ha a' _ hk
    obtain ⟨tagId, -, rfl⟩ := List.mem_map.mp ha
    rw [show a'.taskId = taskId from (Prod.mk.inj hk).1, htask]

theorem task_of_dependencyRows (htask : o.task taskId = false) {depIds : List Uuid} {d d' : TaskDependency}
    (hd : d ∈ dependencyRows boardId taskId depIds) (hk : key d' = key d) :
    (o.board d'.boardId && o.task d'.taskId) = false := by
  obtain ⟨-, hid, -⟩ := mem_dependencyRows.mp hd
  rw [show d'.taskId = taskId from (Prod.mk.inj hk).1.trans hid, htask, Bool.and_false]

theorem writeTaskDependencies_without (htask : o.task taskId = false) (normalized : List Uuid) :
    writeTaskDependencies (db.without o).dependencies boardId taskId normalized =
      (writeTaskDependencies db.dependencies boardId taskId normalized).map fun t =>
        t.deleteWhere fun d => o.board d.boardId && o.task d.taskId := by
  unfold writeTaskDependencies
  show orFail (((db.dependencies.deleteWhere _).deleteWhere _).insertAll? _) _ = _
  rw [Table.deleteWhere_part, Table.insertAll?_part, orFail_map]
  · exact fun d hd => task_of_dependencyRows htask hd rfl
  · exact fun d hd d' _ hk => task_of_dependencyRows htask hd hk

include hboard in
theorem replaceTaskDependencies_without (search : CycleSearch) (htask : o.task taskId = false)
    (dependsOnTaskIds : List Uuid) :
    replaceTaskDependencies search (db.without o) boardId taskId dependsOnTaskIds =
      (replaceTaskDependencies search db boardId taskId dependsOnTaskIds).map fun r =>
        (r.1.deleteWhere fun d => o.board d.boardId && o.task d.taskId, r.2) := by
  unfold replaceTaskDependencies
  apply bind_congr_map (validateDependencyUpdate_without hboard search taskId dependsOnTaskIds)
  intro normalized _
  exact bind_eq_map _ (writeTaskDependencies_without htask normalized) fun t _ => rfl

theorem setCustomFieldValue_without {table : Table TaskCustomFieldValue} (now : Time) (htask : o.task taskId = false)
    (definitionId : Uuid) (value : Json) :
    setCustomFieldValue (table.deleteWhere fun v => o.task v.taskId) now taskId definitionId value =
      (setCustomFieldValue table now taskId definitionId value).map fun t => t.deleteWhere fun v => o.task v.taskId := by
  have hkey : ∀ v ∈ table, key v = (taskId, definitionId) → o.task v.taskId = false := fun v _ hk => by
    rw [show v.taskId = taskId from (Prod.mk.inj hk).1, htask]
  unfold setCustomFieldValue
  split
  · exact congrArg some Table.deleteWhere_part
  · dsimp only
    rw [Table.get?_part hkey, Table.put_part (by exact htask) hkey, Table.insert?_part (by exact htask) hkey]
    split <;> rfl

theorem foldlM_map {α β : Type} {f : α → α} {step step' : α → β → Option α} (bs : List β) (a : α)
    (hstep : ∀ b ∈ bs, ∀ a, step' (f a) b = (step a b).map f) :
    bs.foldlM step' (f a) = (bs.foldlM step a).map f := by
  induction bs generalizing a with
  | nil => rfl
  | cons b bs ih =>
    rw [List.foldlM_cons, List.foldlM_cons, hstep b List.mem_cons_self]
    cases step a b with
    | none => rfl
    | some a' => exact ih a' fun b' hb' => hstep b' (List.mem_cons_of_mem b hb')

include hboard in
theorem setTaskCustomFieldValuesForUpdate_without (hfits : o.Fits db) (texts : Texts) (now : Time)
    (htask : o.task taskId = false) (values : TaskCustomFieldValues) :
    setTaskCustomFieldValuesForUpdate texts (db.without o) now boardId taskId values =
      (setTaskCustomFieldValuesForUpdate texts db now boardId taskId values).map fun t =>
        t.deleteWhere fun v => o.task v.taskId := by
  unfold setTaskCustomFieldValuesForUpdate
  apply bind_congr_map (organizationCustomFieldDefinitionsForBoard_without hboard hfits)
  intro definitions _
  apply bind_congr_map rfl
  intro _ _
  apply bind_congr_map rfl
  intro _ _
  have hvalue : ∀ d : TaskCustomFieldDefinition,
      (db.without o).customFieldValues.get? (taskId, d.id) = db.customFieldValues.get? (taskId, d.id) := by
    intro d
    apply Table.get?_part
    intro v _ hk
    rw [show v.taskId = taskId from (Prod.mk.inj hk).1, htask]
  dsimp only
  simp only [hvalue]
  apply bind_congr_map rfl
  intro _ _
  rw [← orFail_map]
  congr 1
  apply foldlM_map (f := fun t : Table TaskCustomFieldValue => t.deleteWhere fun v => o.task v.taskId) values
    db.customFieldValues
  rintro ⟨fieldKey, value⟩ _ table
  dsimp only
  split
  · rfl
  · exact setCustomFieldValue_without now htask _ value

theorem taskId_of_created (taskId : Uuid) (definitions : List TaskCustomFieldDefinition) (values : TaskCustomFieldValues)
    (now : Time) :
    ∀ v ∈ definitions.filterMap (fun definition =>
      match (lookupValue values definition.fieldKey).getD definition.defaultValue with
      | .null => none
      | value => some { taskId, definitionId := definition.id, value, updatedAt := now : TaskCustomFieldValue }),
      v.taskId = taskId := by
  intro v hv
  obtain ⟨definition, -, hsome⟩ := List.mem_filterMap.mp hv
  split at hsome
  · cases hsome
  · exact Option.some.inj hsome ▸ rfl

include hboard in
theorem setTaskCustomFieldValuesForCreate_without (hfits : o.Fits db) (texts : Texts) (now : Time)
    (htask : o.task taskId = false) (values : TaskCustomFieldValues) :
    setTaskCustomFieldValuesForCreate texts (db.without o) now boardId taskId values =
      (setTaskCustomFieldValuesForCreate texts db now boardId taskId values).map fun t =>
        t.deleteWhere fun v => o.task v.taskId := by
  unfold setTaskCustomFieldValuesForCreate
  apply bind_congr_map (organizationCustomFieldDefinitionsForBoard_without hboard hfits)
  intro definitions _
  apply bind_congr_map rfl
  intro _ _
  apply bind_congr_map rfl
  intro _ _
  apply bind_congr_map rfl
  intro _ _
  have hrow := taskId_of_created taskId definitions values now
  show orFail ((db.customFieldValues.deleteWhere _).insertAll? _) _ = _
  rw [Table.insertAll?_part, orFail_map]
  · intro v hv
    rw [hrow v hv, htask]
  · intro v hv v' _ hk
    rw [show v'.taskId = v.taskId from (Prod.mk.inj hk).1, hrow v hv, htask]

/-! ## The PATCH of a task -/

theorem Others.Fits.withTasks (hfits : o.Fits db) {t : Db} (hboards : t.boards = db.boards) (hagents : t.agents = db.agents)
    (happrovals : t.approvals = db.approvals) (htasks : ∀ task ∈ t.tasks, o.task task.id = task.boardId.any o.board) :
    o.Fits t where
  boards := hboards ▸ hfits.boards
  agents := hagents ▸ hfits.agents
  tasks := htasks
  approvals := happrovals ▸ hfits.approvals

theorem Others.Fits.put_task (hfits : o.Fits db) {task : Task} (htask : o.task task.id = task.boardId.any o.board) :
    ∀ t ∈ db.tasks.put task, o.task t.id = t.boardId.any o.board := by
  intro t ht
  rcases Table.mem_put.mp ht with ⟨hold, -⟩ | ⟨rfl, -⟩
  · exact hfits.tasks t hold
  · exact htask

section Update
variable {update : TaskUpdateInput} (hon : update.boardId = boardId) (htask : o.task update.task.id = false)
  (hfits : o.Fits db)

include hboard hon htask in
theorem effectiveDependencies_without (search : CycleSearch) :
    effectiveDependencies search (db.without o) update = (effectiveDependencies search db update).map fun r =>
      (r.1.deleteWhere fun d => o.board d.boardId && o.task d.taskId, r.2) := by
  unfold effectiveDependencies
  rw [hon]
  cases update.updates.dependsOnTaskIds with
  | none =>
    show Except.ok _ = Except.ok _
    rw [taskDepIds_without hboard]
    rfl
  | some dependsOnTaskIds =>
    exact bind_congr_map rfl fun _ _ => replaceTaskDependencies_without hboard search htask dependsOnTaskIds

include hboard hon hfits in
theorem normalizedUpdateTagIds_without :
    normalizedUpdateTagIds (db.without o) update = normalizedUpdateTagIds db update := by
  unfold normalizedUpdateTagIds
  rw [hon]
  cases update.updates.tagIds with
  | none => rfl
  | some tagIds =>
    dsimp only
    rw [boards_get?_without hboard hfits]
    apply bind_congr_ok rfl
    intro board hfound
    rw [organizationId_of_boards_get? hboard hfits (orFail_eq_ok.mp hfound), validateTagIds_without]

include htask in
theorem storeTags_without (tagIds : Option (List Uuid)) :
    storeTags (db.without o) update tagIds =
      (storeTags db update tagIds).map fun t => t.deleteWhere fun a => o.task a.taskId := by
  cases tagIds with
  | none => rfl
  | some tagIds => exact replaceTags_without htask tagIds

include hboard hon htask hfits in
theorem storeCustomFieldValues_without (texts : Texts) :
    storeCustomFieldValues texts (db.without o) update =
      (storeCustomFieldValues texts db update).map fun t => t.deleteWhere fun v => o.task v.taskId := by
  unfold storeCustomFieldValues
  rw [hon]
  cases update.updates.customFieldValues with
  | none => rfl
  | some values => exact setTaskCustomFieldValuesForUpdate_without hboard hfits texts update.now htask values

include hfits in
theorem without_stored {task : Task} (hshown : o.task task.id = false) (honBoard : task.boardId.any o.board = false)
    (dependencies : Table TaskDependency) (tagAssignments : Table TagAssignment)
    (customFieldValues : Table TaskCustomFieldValue) :
    { db.without o with
      tasks := (db.without o).tasks.put task
      dependencies := dependencies.deleteWhere fun d => o.board d.boardId && o.task d.taskId
      tagAssignments := tagAssignments.deleteWhere fun a => o.task a.taskId
      customFieldValues := customFieldValues.deleteWhere fun v => o.task v.taskId } =
    ({ db with tasks := db.tasks.put task, dependencies, tagAssignments, customFieldValues } : Db).without o := by
  have htasks : (db.without o).tasks.put task = (db.tasks.put task).deleteWhere fun t => t.boardId.any o.board := by
    refine Table.put_part (by exact honBoard) fun t ht hk => ?_
    rw [← hfits.tasks t ht, show t.id = task.id from hk, hshown]
  rw [htasks]
  rfl

include hboard hon in
theorem reconcileTasks_without (now : Time) (task : Task) (previousStatus : TaskStatus) :
    reconcileTasks (db.without o) now update.boardId task previousStatus =
      (reconcileTasks db now update.boardId task previousStatus).deleteWhere fun t => t.boardId.any o.board := by
  unfold reconcileTasks
  rw [hon]
  split
  · simp only [dependentTaskIds_without hboard]
    apply Table.updateWhere_part
    intro t _ hsel
    have honBoard : t.boardId = some boardId := (of_decide_eq_true hsel).1
    constructor
    · rw [honBoard, Option.any_some, hboard]
    · rw [show (t.reset now).boardId = t.boardId from rfl, honBoard, Option.any_some, hboard]
  · rfl

include hboard hon in
theorem openDependents_without (task : Task) :
    openDependents (db.without o) update.boardId task = openDependents db update.boardId task := by
  unfold openDependents
  rw [hon]
  simp only [dependentTaskIds_without hboard]
  exact tasks_filter_without hboard fun t _ hsel => (of_decide_eq_true hsel).1

include hboard hon hfits in
theorem recordTaskUpdate_without {task : Task} (hshown : o.task task.id = false) (actorAgentId : Option Uuid) :
    recordTaskUpdate (db.without o) update task actorAgentId = (recordTaskUpdate db update task actorAgentId).without o := by
  have hevents : reconcileEvents (db.without o) update.now update.boardId task update.task.status actorAgentId =
      reconcileEvents db update.now update.boardId task update.task.status actorAgentId := by
    unfold reconcileEvents
    rw [openDependents_without hboard hon]
  have hkept : (reconcileEvents db update.now update.boardId task update.task.status actorAgentId).filter
      (fun e => !o.event e) = reconcileEvents db update.now update.boardId task update.task.status actorAgentId := by
    rw [List.filter_eq_self]
    intro e he
    unfold reconcileEvents at he
    split at he
    · obtain ⟨dependent, hdependent, rfl⟩ := List.mem_map.mp he
      obtain ⟨hmem, hsel⟩ := List.mem_filter.mp hdependent
      have hdep := hfits.tasks dependent hmem
      rw [(of_decide_eq_true hsel).1, hon, Option.any_some, hboard] at hdep
      simp [Others.event, hdep]
    · cases he
  unfold recordTaskUpdate
  dsimp only
  rw [reconcileTasks_without hboard hon, hevents]
  unfold Db.without
  dsimp only
  rw [List.filter_append, List.filter_cons, hkept]
  simp [Others.event, hshown]

include hboard hon hfits in
theorem requireReviewComment_without (status : Option TaskStatus) {task : Task} (hshown : o.task task.id = false) :
    requireReviewComment (db.without o) update status task = requireReviewComment db update status task := by
  unfold requireReviewComment requireCommentForReviewWhenEnabled
  simp only [hon, boardRule_without hboard hfits, hasValidRecentComment_without hshown]

/-- What is left to store, its dependencies without those of others. -/
def AdminUpdate.without (row : AdminUpdate) (o : Others) : AdminUpdate :=
  { row with dependencies := row.dependencies.deleteWhere fun d => o.board d.boardId && o.task d.taskId }

variable (honBoard : update.task.boardId = some boardId)

include hboard hon htask hfits honBoard in
theorem storeUpdatedTask_without (texts : Texts) {row : AdminUpdate} (hsame : SameTask update.task row.task) :
    storeUpdatedTask texts (db.without o) update (row.without o) =
      (storeUpdatedTask texts db update row).map fun r => (r.1.without o, r.2) := by
  unfold storeUpdatedTask
  apply bind_congr_map rfl
  intro task hfields
  have hid : task.id = update.task.id := (setFields_eq_ok hfields).1.id.trans hsame.id
  have honTask : task.boardId = some boardId := ((setFields_eq_ok hfields).1.boardId.trans hsame.boardId).trans honBoard
  have hshown : o.task task.id = false := hid ▸ htask
  apply bind_congr_map (statusGates_without hboard hfits hon htask _)
  intro _ _
  apply bind_congr_map (requireReviewComment_without hboard hon hfits _ hshown)
  intro _ _
  dsimp only
  rw [assignReviewTaskToLead_without hboard hfits hon]
  apply bind_eq_map _ (storeTags_without htask row.tagIds)
  intro tagAssignments _
  apply bind_eq_map _ (storeCustomFieldValues_without hboard hon htask hfits texts)
  intro customFieldValues _
  have hassigned := (assignReviewTaskToLead_same db update { task with updatedAt := update.now }).1
  have hid' : o.task (assignReviewTaskToLead db update { task with updatedAt := update.now }).id = false := by
    rw [hassigned.id]
    exact hshown
  have hon' : (assignReviewTaskToLead db update { task with updatedAt := update.now }).boardId.any o.board = false := by
    rw [hassigned.boardId, show ({ task with updatedAt := update.now } : Task).boardId = some boardId from honTask,
      Option.any_some, hboard]
  exact congrArg (fun t => Except.ok (t, _))
    (without_stored hfits hid' hon' row.dependencies tagAssignments customFieldValues)

include htask in
theorem recordTaskComment_without (actorAgentId : Option Uuid) (comment : String) :
    recordTaskComment (db.without o) update actorAgentId comment =
      (recordTaskComment db update actorAgentId comment).without o := by
  unfold recordTaskComment Db.without
  simp [Others.event, htask]

include hboard hon htask hfits honBoard in
theorem finalizeUpdatedTask_without (texts : Texts) {row : AdminUpdate} (hsame : SameTask update.task row.task)
    (actorAgentId : Option Uuid) :
    finalizeUpdatedTask texts (db.without o) update (row.without o) actorAgentId =
      (finalizeUpdatedTask texts db update row actorAgentId).map fun commits => commits.map (·.without o) := by
  unfold finalizeUpdatedTask
  apply bind_eq_map _ (storeUpdatedTask_without hboard hon htask hfits honBoard texts hsame)
  rintro ⟨stored, task⟩ hstored
  obtain ⟨⟨hsame', -⟩, tags, values, heq⟩ := storeUpdatedTask_eq_ok hstored
  have hid : task.id = update.task.id := hsame'.id.trans hsame.id
  have honTask : task.boardId = some boardId := (hsame'.boardId.trans hsame.boardId).trans honBoard
  have hshown : o.task task.id = false := hid ▸ htask
  have hstoredFits : ∀ events, o.Fits { stored with events } := by
    intro events
    subst heq
    refine hfits.withTasks rfl rfl rfl (hfits.put_task ?_)
    rw [hshown, honTask, Option.any_some, hboard]
  dsimp only
  split
  · show Except.ok _ = Except.ok _
    rw [recordTaskUpdate_without hboard hon (hstoredFits stored.events) hshown]
    rfl
  · rename_i comment _
    have hcommented : o.Fits (recordTaskComment stored update actorAgentId comment) := hstoredFits _
    show Except.ok _ = Except.ok _
    rw [recordTaskComment_without htask, recordTaskUpdate_without hboard hon hcommented hshown]
    rfl

include hboard hon htask hfits honBoard in
theorem applyLeadTaskUpdate_without (texts : Texts) (lead : Agent)
    (hassigned : ∀ id ∈ update.updates.assignedAgentId.join, o.agent id = false) :
    applyLeadTaskUpdate texts (db.without o) update lead = (applyLeadTaskUpdate texts db update lead).map (·.without o) := by
  unfold applyLeadTaskUpdate
  apply bind_congr_map rfl
  intro _ _
  apply bind_eq_map _ (effectiveDependencies_without hboard hon htask _)
  rintro ⟨dependencies, effectiveDeps⟩ _
  dsimp only
  rw [hon, taskBlockedIds_without hboard, normalizedUpdateTagIds_without hboard hon hfits,
    leadApplyAssignment_without hassigned]
  apply bind_congr_map rfl
  intro tagIds _
  apply bind_congr_map rfl
  intro _ _
  apply bind_congr_map rfl
  intro assigned _
  apply bind_congr_map (leadApplyStatus_without hboard hfits hon htask lead assigned)
  intro task hstatus
  have hsame := (leadApplyStatus_eq_ok hstatus).1
  have hshown : o.task task.id = false := hsame.id ▸ htask
  have honTask : task.boardId.any o.board = false := by
    rw [hsame.boardId, honBoard, Option.any_some, hboard]
  apply bind_congr_map (statusGates_without hboard hfits hon htask _)
  intro _ _
  apply bind_eq_map _ (storeTags_without htask tagIds)
  intro tagAssignments _
  apply bind_eq_map _ (storeCustomFieldValues_without hboard hon htask hfits texts)
  intro customFieldValues _
  have hput : o.Fits (storedState db { task with updatedAt := update.now } dependencies tagAssignments
      customFieldValues) :=
    hfits.withTasks rfl rfl rfl (hfits.put_task (hshown.trans honTask.symm))
  have hshown' : o.task ({ task with updatedAt := update.now } : Task).id = false := hshown
  have honTask' : ({ task with updatedAt := update.now } : Task).boardId.any o.board = false := honTask
  refine congrArg Except.ok (Eq.trans ?_ (recordTaskUpdate_without hboard hon hput hshown' (some lead.id)))
  exact congrArg (fun t => recordTaskUpdate t update _ _) (without_stored hfits hshown' honTask' _ _ _)

include hboard hon hfits in
theorem applyNonLeadAgentTaskRules_without (agent : Agent) :
    applyNonLeadAgentTaskRules (db.without o) update agent = applyNonLeadAgentTaskRules db update agent := by
  unfold applyNonLeadAgentTaskRules
  simp only [hon, boardRule_without hboard hfits, taskBlockedIds_without hboard, taskDepIds_without hboard]

end Update

include hboard in
theorem updateTask_without (hfits : o.Fits db) (texts : Texts) (now : Time) (taskId : Uuid)
    (hagent : o.agent agentId = false) (payload : TaskUpdate)
    (hassigned : ∀ id ∈ payload.assignedAgentId.join, o.agent id = false) :
    updateTask texts (db.without o) now boardId taskId (.agent agentId) payload =
      (updateTask texts db now boardId taskId (.agent agentId) payload).map fun commits =>
        commits.map (·.without o) := by
  unfold updateTask requireUserOrAgent
  dsimp only
  rw [agents_get?_without hagent]
  simp only [bind_assoc, pure_bind]
  apply bind_congr_map rfl
  intro agent _
  apply bind_congr_map (getBoardForActor_agent_without hboard hfits false agent)
  intro board hfound
  have hid := (getBoardForActor_eq_ok hfound).2
  apply bind_congr_map (getTaskOr404_without hboard hid taskId)
  intro task htaskFound
  obtain ⟨hget, -, hon⟩ := getTaskOr404_eq_ok htaskFound
  rw [hid] at hon
  have hshown := hfits.task_of_boardId hboard (Table.mem_of_get? hget) hon
  split
  · apply bind_eq_map _ (applyLeadTaskUpdate_without hboard hid hshown hfits hon texts agent hassigned)
    intro t _
    rfl
  · apply bind_congr_map (applyNonLeadAgentTaskRules_without hboard hid hfits agent)
    intro row hrow
    let update : TaskUpdateInput := { task, boardId := board.id, now, updates := payload }
    let stored : AdminUpdate := { task := row, updates := payload, dependencies := db.dependencies, tagIds := none }
    have hsame : SameTask update.task stored.task := applyNonLeadAgentTaskRules_same hrow
    exact finalizeUpdatedTask_without hboard hid hshown hfits hon texts hsame _

/-! ## New tasks -/

section Create
variable (hfits : o.Fits db) {board : Board} {task : Task} (hid : board.id = boardId)
  (horg : board.organizationId = o.organizationId) (hshown : o.task task.id = false)

include hboard hid horg in
theorem newTaskDependencies_without (search : CycleSearch) (payload : TaskCreate) (blockedError : List Uuid → Failure) :
    newTaskDependencies search (db.without o) board task payload blockedError =
      newTaskDependencies search db board task payload blockedError := by
  unfold newTaskDependencies
  simp only [hid, horg, validateDependencyUpdate_without hboard, validateTagIds_without, taskBlockedIds_without hboard]

include hboard hfits hshown in
theorem insertTask_without (hon : task.boardId = some boardId)
    (hassigned : ∀ id ∈ task.assignedAgentId, o.agent id = false) :
    insertTask (db.without o) task = (insertTask db task).map fun t => t.deleteWhere fun t => t.boardId.any o.board := by
  unfold insertTask
  apply bind_congr_map rfl
  intro _ _
  have hassignee : (task.assignedAgentId.all fun id => ((db.without o).agents.get? id).isSome) =
      task.assignedAgentId.all fun id => (db.agents.get? id).isSome := by
    cases hnone : task.assignedAgentId with
    | none => rfl
    | some id =>
      rw [Option.all_some, Option.all_some, agents_get?_without (hassigned id hnone)]
  rw [hassignee]
  apply bind_congr_map rfl
  intro _ _
  show orFail ((db.tasks.deleteWhere _).insert? task) _ = _
  rw [Table.insert?_part, orFail_map]
  · rw [hon, Option.any_some, hboard]
  · intro t ht hk
    rw [← hfits.tasks t ht, show t.id = task.id from hk, hshown]

include hboard hfits hid hshown in
theorem storeNewTask_without (hon : task.boardId = some boardId)
    (hassigned : ∀ id ∈ task.assignedAgentId, o.agent id = false) (texts : Texts) (now : Time) (payload : TaskCreate)
    (normalizedDeps normalizedTagIds : List Uuid) :
    storeNewTask texts (db.without o) now board task payload normalizedDeps normalizedTagIds =
      (storeNewTask texts db now board task payload normalizedDeps normalizedTagIds).map (·.without o) := by
  unfold storeNewTask
  rw [hid]
  apply bind_eq_map _ (insertTask_without hboard hfits hshown hon hassigned)
  intro tasks _
  apply bind_eq_map _ (setTaskCustomFieldValuesForCreate_without hboard hfits texts now hshown payload.customFieldValues)
  intro customFieldValues _
  have hdependencies : orFail ((db.without o).dependencies.insertAll? (dependencyRows boardId task.id normalizedDeps))
        Failure.integrityError =
      (orFail (db.dependencies.insertAll? (dependencyRows boardId task.id normalizedDeps)) .integrityError).map
        fun t => t.deleteWhere fun d => o.board d.boardId && o.task d.taskId := by
    show orFail ((db.dependencies.deleteWhere _).insertAll? _) _ = _
    rw [Table.insertAll?_part, orFail_map]
    · exact fun d hd => task_of_dependencyRows hshown hd rfl
    · exact fun d hd d' _ hk => task_of_dependencyRows hshown hd hk
  apply bind_eq_map _ hdependencies
  intro dependencies _
  exact bind_eq_map _ (replaceTags_without hshown normalizedTagIds) fun tagAssignments _ => rfl

include hshown in
theorem recordTaskCreated_without (now : Time) (message : String) (actorAgentId : Option Uuid) :
    recordTaskCreated (db.without o) now task message actorAgentId =
      (recordTaskCreated db now task message actorAgentId).without o := by
  unfold recordTaskCreated Db.without
  simp [Others.event, hshown]

end Create

include hboard in
theorem createTaskAsLead_without (hfits : o.Fits db) (texts : Texts) (now : Time) (htask : o.task taskId = false)
    (hagent : o.agent agentId = false) (payload : TaskCreate)
    (hassigned : ∀ id ∈ payload.assignedAgentId, o.agent id = false) :
    createTaskAsLead texts (db.without o) now boardId taskId agentId payload =
      (createTaskAsLead texts db now boardId taskId agentId payload).map fun commits => commits.map (·.without o) := by
  unfold createTaskAsLead getBoardOr404
  rw [agents_get?_without hagent, boards_get?_without hboard hfits]
  apply bind_congr_map rfl
  intro lead _
  apply bind_congr_map rfl
  intro board hfound
  have hget := orFail_eq_ok.mp hfound
  have hid : board.id = boardId := Table.key_of_get? hget
  have horg := organizationId_of_boards_get? hboard hfits hget
  apply bind_congr_map rfl
  intro _ _
  apply bind_congr_map rfl
  intro _ _
  apply bind_congr_map (newTaskDependencies_without hboard hid horg _ payload blockedNewTaskError)
  rintro ⟨normalizedDeps, normalizedTagIds⟩ _
  apply bind_congr_map (requireAssignable_without _ hassigned)
  intro _ _
  let task : Task := { newTask payload now board.id taskId with autoCreated := true, autoReason := some lead.id }
  have hshown : o.task task.id = false := htask
  apply bind_eq_map _ (storeNewTask_without hboard hfits hid hshown (congrArg some hid) hassigned texts now payload
    normalizedDeps normalizedTagIds)
  intro stored _
  show Except.ok _ = Except.ok _
  rw [recordTaskCreated_without hshown]
  rfl

include hboard in
theorem createTaskComment_without (hfits : o.Fits db) (texts : Texts) (now : Time) (taskId : Uuid)
    (hagent : o.agent agentId = false) (message : String) :
    createTaskComment texts (db.without o) now boardId taskId (.agent agentId) message =
      (createTaskComment texts db now boardId taskId (.agent agentId) message).map (·.without o) := by
  unfold createTaskComment requireUserOrAgent
  dsimp only
  rw [agents_get?_without hagent]
  simp only [bind_assoc, pure_bind]
  apply bind_congr_map rfl
  intro agent _
  apply bind_congr_map (getBoardForActor_agent_without hboard hfits false agent)
  intro board hfound
  have hid := (getBoardForActor_eq_ok hfound).2
  apply bind_congr_map (getTaskOr404_without hboard hid taskId)
  intro task htaskFound
  obtain ⟨hget, -, hon⟩ := getTaskOr404_eq_ok htaskFound
  rw [hid] at hon
  have hshown := hfits.task_of_boardId hboard (Table.mem_of_get? hget) hon
  rw [leadWasMentioned_without texts hshown]
  apply bind_congr_map rfl
  intro _ _
  show Except.ok _ = Except.ok _
  unfold Db.without
  simp [Others.event, hshown]

include hboard in
theorem deleteTask_without (hfits : o.Fits db) (taskId : Uuid) (hagent : o.agent agentId = false) :
    ((deleteTask (db.without o) boardId taskId (.agent agentId)).map fun _ => ()) =
      (deleteTask db boardId taskId (.agent agentId)).map fun _ => () := by
  unfold deleteTask requireUserOrAgent
  dsimp only
  rw [agents_get?_without hagent]
  simp only [bind_assoc, pure_bind]
  apply bind_congr_image rfl
  intro agent _
  apply bind_congr_image (getBoardForActor_agent_without hboard hfits false agent)
  intro board hfound
  have hid := (getBoardForActor_eq_ok hfound).2
  apply bind_congr_image (getTaskOr404_without hboard hid taskId)
  intro task htaskFound
  obtain ⟨hget, -, hon⟩ := getTaskOr404_eq_ok htaskFound
  rw [hid] at hon
  have hshown := hfits.task_of_boardId hboard (Table.mem_of_get? hget) hon
  apply bind_congr_image rfl
  intro _ _
  have hruns : ((db.without o).runs.rows.all fun r => r.taskId ≠ task.id) =
      db.runs.rows.all fun r => r.taskId ≠ task.id := by
    apply Table.all_part
    intro r _ hnot
    simpa [show r.taskId = task.id by simpa using hnot] using hshown
  have hspawn : ((db.without o).spawnRequests.rows.all fun r => r.sourceTaskId ≠ some task.id) =
      db.spawnRequests.rows.all fun r => r.sourceTaskId ≠ some task.id := by
    apply Table.all_part
    intro r _ hnot
    simpa [show r.sourceTaskId = some task.id by simpa using hnot] using hshown
  unfold deleteTaskAndRelatedRecords
  dsimp only
  rw [hruns, hspawn]
  apply bind_congr_image rfl
  intro _ _
  apply bind_congr_image rfl
  intro _ _
  rfl

theorem deleteAgentRecord_without (hapart : o.Apart db) (now : Time) (hagent : o.agent agentId = false) :
    ((deleteAgentRecord (db.without o) now agentId).map fun _ => ()) =
      (deleteAgentRecord db now agentId).map fun _ => () := by
  unfold deleteAgentRecord
  rw [agents_get?_without hagent]
  apply bind_congr_image rfl
  intro agent hfound
  obtain rfl : agent.id = agentId := Table.key_of_get? (orFail_eq_ok.mp hfound)
  have hruns : ((db.without o).runs.rows.all fun r => r.requestedByAgentId ≠ some agent.id) =
      db.runs.rows.all fun r => r.requestedByAgentId ≠ some agent.id := by
    apply Table.all_part
    intro r hr hnot
    rw [hapart.runs r hr agent.id (by simpa using hnot), hagent]
  rw [hruns]
  apply bind_congr_image rfl
  intro _ _
  rfl

/-! ## Approvals -/

def ApprovalCreate.namedTaskIds (payload : ApprovalCreate) : List Uuid :=
  match payload.normalizeTaskLinks.validateLeadReasoning with
  | .error _ => []
  | .ok checked => normalizeTaskIds checked.taskId checked.taskIds checked.payload

section Approval
variable (hfits : o.Fits db)

theorem agentId_of_validateLeadReasoning {payload checked : ApprovalCreate}
    (h : payload.validateLeadReasoning = .ok checked) :
    checked.agentId = payload.agentId := by
  unfold ApprovalCreate.validateLeadReasoning at h
  split at h
  · obtain rfl := Except.ok.inj h
    rfl
  · split at h
    · cases h
    · obtain rfl := Except.ok.inj h
      rfl

include hfits in
theorem replaceApprovalTaskLinks_without {approvalId : Uuid} (happroval : o.approval approvalId = false)
    {taskIds : List Uuid} (htasks : ∀ id ∈ taskIds, o.task id = false) :
    replaceApprovalTaskLinks (db.without o) approvalId taskIds =
      (replaceApprovalTaskLinks db approvalId taskIds).map fun t =>
        t.deleteWhere fun l => o.approval l.approvalId && o.task l.taskId := by
  unfold replaceApprovalTaskLinks
  have hexist : (∀ id ∈ taskIds, ((db.without o).tasks.get? id).isSome = true) ↔
      ∀ id ∈ taskIds, (db.tasks.get? id).isSome = true := by
    apply forall₂_congr
    intro id hid
    rw [tasks_get?_of_shown hfits (htasks id hid)]
  simp only [hexist]
  apply bind_congr_map rfl
  intro _ _
  show orFail (((db.approvalTaskLinks.deleteWhere _).deleteWhere _).insertAll? _) _ = _
  rw [Table.deleteWhere_part, Table.insertAll?_part, orFail_map]
  · intro l hl
    obtain ⟨taskId, -, rfl⟩ := List.mem_map.mp hl
    rw [happroval, Bool.false_and]
  · intro l hl l' _ hk
    obtain ⟨taskId, -, rfl⟩ := List.mem_map.mp hl
    rw [show l'.approvalId = approvalId from (Prod.mk.inj hk).1, happroval, Bool.false_and]

include hboard hfits in
theorem storeApproval_without {approval : Approval} (hon : approval.boardId = boardId)
    (happroval : o.approval approval.id = false) {taskIds : List Uuid} (htasks : ∀ id ∈ taskIds, o.task id = false)
    (hown : ∀ id ∈ approval.taskId, o.task id = false) (hrequester : ∀ id ∈ approval.agentId, o.agent id = false) :
    storeApproval (db.without o) approval taskIds = (storeApproval db approval taskIds).map (·.without o) := by
  have htask : (approval.taskId.all fun id => ((db.without o).tasks.get? id).isSome) =
      approval.taskId.all fun id => (db.tasks.get? id).isSome := by
    cases hnone : approval.taskId with
    | none => rfl
    | some id => rw [Option.all_some, Option.all_some, tasks_get?_of_shown hfits (hown id hnone)]
  have hagent : (approval.agentId.all fun id => ((db.without o).agents.get? id).isSome) =
      approval.agentId.all fun id => (db.agents.get? id).isSome := by
    cases hnone : approval.agentId with
    | none => rfl
    | some id => rw [Option.all_some, Option.all_some, agents_get?_without (hrequester id hnone)]
  have hinsert : insertApproval (db.without o) approval =
      (insertApproval db approval).map fun t => t.deleteWhere fun a => o.board a.boardId := by
    unfold insertApproval
    rw [htask, hagent]
    apply bind_congr_map rfl
    intro _ _
    apply bind_congr_map rfl
    intro _ _
    show orFail ((db.approvals.deleteWhere _).insert? approval) _ = _
    rw [Table.insert?_part, orFail_map]
    · rw [hon, hboard]
    · intro a ha hk
      rw [← hfits.approvals a ha, show a.id = approval.id from hk, happroval]
  unfold storeApproval
  apply bind_eq_map _ hinsert
  intro approvals _
  exact bind_eq_map _ (replaceApprovalTaskLinks_without hfits happroval htasks) fun links _ => rfl

include hboard hfits in
theorem createApproval_without (now : Time) {approvalId agentId : Uuid} (happroval : o.approval approvalId = false)
    (hagent : o.agent agentId = false) (payload : ApprovalCreate) (hrequester : ∀ id ∈ payload.agentId, o.agent id = false)
    (htasks : ∀ id ∈ payload.namedTaskIds, o.task id = false) :
    createApproval (db.without o) now boardId approvalId (.agent agentId) payload =
      (createApproval db now boardId approvalId (.agent agentId) payload).map (·.without o) := by
  unfold createApproval requireUserOrAgent
  dsimp only
  rw [agents_get?_without hagent]
  simp only [bind_assoc, pure_bind]
  apply bind_congr_map rfl
  intro agent _
  apply bind_congr_map (getBoardForActor_agent_without hboard hfits true agent)
  intro board hfound
  have hid := (getBoardForActor_eq_ok hfound).2
  apply bind_congr_map rfl
  intro checked hchecked
  have hnamed : ∀ id ∈ (newApproval checked now board.id approvalId).2, o.task id = false := by
    unfold ApprovalCreate.namedTaskIds at htasks
    rw [hchecked] at htasks
    exact htasks
  have hown : ∀ id ∈ (newApproval checked now board.id approvalId).1.taskId, o.task id = false :=
    fun id hfirst => hnamed id (List.mem_of_head? hfirst)
  have hrequester' : ∀ id ∈ (newApproval checked now board.id approvalId).1.agentId, o.agent id = false := by
    intro id hagentId
    exact hrequester id ((agentId_of_validateLeadReasoning hchecked).symm.trans hagentId)
  have hstore := @storeApproval_without _ _ _ hboard hfits (newApproval checked now board.id approvalId).1 hid
    happroval _ hnamed hown hrequester'
  split
  · have hconflicts : ensureNoPendingApprovalConflicts (db.without o) board.id
        (newApproval checked now board.id approvalId).2 none =
          ensureNoPendingApprovalConflicts db board.id (newApproval checked now board.id approvalId).2 none := by
      unfold ensureNoPendingApprovalConflicts
      rw [hid, pendingApprovalConflicts_without hboard hfits none (hid ▸ hnamed)]
    exact bind_congr_map hconflicts fun _ _ => hstore
  · exact hstore

end Approval

end Board

end SiloForge
