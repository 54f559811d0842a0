import SiloForge.Tenancy.AgentApi

/-!
# A board without the rows of other organizations

Queries about a board find no row of another organization: they select by the board, by its organization, or by a task
of the board. Each of them finds in `db.without o` what it finds in `db`.

* `boards_get?_without`, `getTaskOr404_without` : what the endpoints look up;
* `validateDependencyUpdate_without` : the check of a task's dependencies;
* `statusGates_without` : the gates of a status change;
* `readTask_without`, `taskReadPage_without`, `approvalReads_without` : what is sent back.
-/

namespace SiloForge

open Lib

/-- The task of a board, in one look-up. -/
theorem getTaskOr404_eq (db : Db) (board : Board) (taskId : Uuid) :
    getTaskOr404 db board taskId =
      orFail ((db.tasks.get? taskId).filter fun t => t.boardId = some board.id) (.status 404) := by
  unfold getTaskOr404
  cases db.tasks.get? taskId with
  | none => rfl
  | some t =>
    by_cases hon : t.boardId = some board.id
    · rw [Option.filter_some, if_pos (decide_eq_true hon)]
      exact bind_eq_ok.mpr ⟨t, rfl, bind_eq_ok.mpr ⟨(), require_eq_ok.mpr hon, rfl⟩⟩
    · rw [Option.filter_some, if_neg (by simpa using hon)]
      show (require _ _ >>= _) = _
      rw [require, if_neg hon]
      rfl

section Board
variable {o : Others} {db : Db} {boardId : Uuid} (hboard : o.board boardId = false)
include hboard

/-! ## Boards, agents and tasks -/

section Rows
variable (hfits : o.Fits db)
include hfits

theorem boards_get?_without : (db.without o).boards.get? boardId = db.boards.get? boardId := by
  apply Table.get?_part
  rintro b hb rfl
  exact (hfits.boards b hb).symm.trans hboard

theorem organizationId_of_boards_get? {board : Board} (h : db.boards.get? boardId = some board) :
    board.organizationId = o.organizationId := by
  have hforeign := hfits.boards board (Table.mem_of_get? h)
  rw [show board.id = boardId from Table.key_of_get? h, hboard] at hforeign
  simpa using hforeign.symm

theorem boardRule_without (rule : Board → Bool) : boardRule (db.without o) boardId rule = boardRule db boardId rule := by
  unfold boardRule
  rw [boards_get?_without hboard hfits]

theorem getBoardForActor_agent_without (write : Bool) (agent : Agent) :
    getBoardForActor write (db.without o) boardId (.agent agent) = getBoardForActor write db boardId (.agent agent) := by
  unfold getBoardForActor getBoardOr404
  rw [boards_get?_without hboard hfits]

theorem agents_onBoard_without {selected : Agent → Bool}
    (hselected : ∀ a ∈ db.agents, selected a = true → a.boardId = some boardId) {a : Agent} (ha : a ∈ db.agents)
    (hsel : selected a = true) : o.agent a.id = false :=
  (hfits.agents a ha boardId (hselected a ha hsel)).trans hboard

theorem agents_get?_filter_without {selected : Agent → Bool}
    (hselected : ∀ a ∈ db.agents, selected a = true → a.boardId = some boardId) (agentId : Uuid) :
    ((db.without o).agents.get? agentId).any selected = (db.agents.get? agentId).any selected := by
  show ((db.agents.deleteWhere fun a => o.agent a.id).get? agentId).any selected = _
  rw [Table.get?_deleteWhere]
  cases hget : db.agents.get? agentId with
  | none => rfl
  | some a =>
    have ha := Table.mem_of_get? hget
    cases hsel : selected a with
    | false => cases o.agent a.id <;> simp [hsel]
    | true => simp [hsel, agents_onBoard_without hboard hfits hselected ha hsel]

end Rows

theorem tasks_get?_without (taskId : Uuid) :
    ((db.without o).tasks.get? taskId).filter (fun t => t.boardId = some boardId)
      = (db.tasks.get? taskId).filter fun t => t.boardId = some boardId := by
  show ((db.tasks.deleteWhere fun t => t.boardId.any o.board).get? taskId).filter _ = _
  rw [Table.get?_deleteWhere, Option.filter_filter]
  congr 1
  funext t
  by_cases hon : t.boardId = some boardId
  · simp [hon, hboard]
  · simp [hon]

theorem getTaskOr404_without {board : Board} (hid : board.id = boardId) (taskId : Uuid) :
    getTaskOr404 (db.without o) board taskId = getTaskOr404 db board taskId := by
  rw [getTaskOr404_eq, getTaskOr404_eq, hid, tasks_get?_without hboard]

/-! ## Dependencies -/

theorem dependencies_filter_without {selected : TaskDependency → Bool}
    (hselected : ∀ d ∈ db.dependencies, selected d = true → d.boardId = boardId) :
    (db.without o).dependencies.rows.filter selected = db.dependencies.rows.filter selected := by
  apply Table.filter_part
  intro d hd hsel
  rw [hselected d hd hsel, hboard]
  rfl

theorem taskDepIds_without (taskId : Uuid) : taskDepIds (db.without o) boardId taskId = taskDepIds db boardId taskId := by
  unfold taskDepIds
  rw [dependencies_filter_without hboard fun d _ hsel => (of_decide_eq_true hsel).1]

theorem dependentTaskIds_without (taskId : Uuid) :
    dependentTaskIds (db.without o) boardId taskId = dependentTaskIds db boardId taskId := by
  unfold dependentTaskIds
  rw [dependencies_filter_without hboard fun d _ hsel => (of_decide_eq_true hsel).1]

theorem boardEdges_without (src : Uuid) :
    boardEdges (db.without o).dependencies boardId src = boardEdges db.dependencies boardId src := by
  unfold boardEdges
  rw [dependencies_filter_without hboard fun d _ hsel => (of_decide_eq_true hsel).1]

theorem dependencyStatusById_without :
    dependencyStatusById (db.without o) boardId = dependencyStatusById db boardId := by
  funext taskId
  unfold dependencyStatusById
  rw [tasks_get?_without hboard]

theorem taskBlockedIds_without (depIds : List Uuid) :
    taskBlockedIds (db.without o) boardId depIds = taskBlockedIds db boardId depIds := by
  unfold taskBlockedIds
  rw [dependencyStatusById_without hboard]

theorem tasks_filter_without {selected : Task → Bool}
    (hselected : ∀ t ∈ db.tasks, selected t = true → t.boardId = some boardId) :
    (db.without o).tasks.rows.filter selected = db.tasks.rows.filter selected := by
  apply Table.filter_part
  intro t ht hsel
  rw [hselected t ht hsel, Option.any_some, hboard]

theorem boardTaskIds_without : boardTaskIds (db.without o).tasks boardId = boardTaskIds db.tasks boardId := by
  unfold boardTaskIds
  rw [tasks_filter_without hboard fun t _ hsel => of_decide_eq_true hsel]

theorem overlayEdges_without (taskId : Uuid) (dependsOn : List Uuid) :
    overlayEdges (db.without o).dependencies boardId taskId dependsOn =
      overlayEdges db.dependencies boardId taskId dependsOn := by
  funext src
  unfold overlayEdges
  rw [boardEdges_without hboard]

variable {taskId : Uuid}

theorem validateDependencyUpdate_without (search : CycleSearch) (taskId : Uuid) (dependsOnTaskIds : List Uuid) :
    validateDependencyUpdate search (db.without o) boardId taskId dependsOnTaskIds =
      validateDependencyUpdate search db boardId taskId dependsOnTaskIds := by
  unfold validateDependencyUpdate
  apply bind_congr_ok rfl
  intro _ _
  split
  · rfl
  · dsimp only
    rw [boardTaskIds_without hboard, overlayEdges_without hboard]

section Fields
variable (hfits : o.Fits db)
include hfits

theorem organizationCustomFieldDefinitionsForBoard_without :
    organizationCustomFieldDefinitionsForBoard (db.without o) boardId =
      organizationCustomFieldDefinitionsForBoard db boardId := by
  unfold organizationCustomFieldDefinitionsForBoard
  rw [boards_get?_without hboard hfits]
  apply bind_congr_ok rfl
  intro board hfound
  have horg := organizationId_of_boards_get? hboard hfits (orFail_eq_ok.mp hfound)
  have hfields : ∀ d : TaskCustomFieldDefinition,
      (db.without o).boardCustomFields.get? (boardId, d.id) = db.boardCustomFields.get? (boardId, d.id) := by
    intro d
    apply Table.get?_part
    intro b _ hk
    rw [← (Prod.mk.inj hk).1] at hboard
    exact hboard
  simp only [hfields]
  congr 1
  apply Table.filter_part
  intro d _ hsel
  rw [(of_decide_eq_true hsel).1, horg]
  simp

end Fields

omit hboard in
theorem validateTagIds_without (tagIds : List Uuid) :
    validateTagIds (db.without o) o.organizationId tagIds = validateTagIds db o.organizationId tagIds := by
  unfold validateTagIds
  have htags : ((db.without o).tags.rows.filter fun t => t.organizationId = o.organizationId) =
      db.tags.rows.filter fun t => t.organizationId = o.organizationId := by
    apply Table.filter_part
    intro t _ hsel
    simpa using hsel
  rw [htags]

/-! ## Approvals -/

theorem pendingOnBoard_without (exclude : Option Uuid) :
    pendingOnBoard (db.without o) boardId exclude = pendingOnBoard db boardId exclude := by
  unfold pendingOnBoard
  apply Table.filter_part
  intro a _ hsel
  rw [(of_decide_eq_true hsel).1, hboard]

omit hboard in
theorem isLinked_without (htask : o.task taskId = false) (approvalId : Uuid) :
    isLinked (db.without o).approvalTaskLinks approvalId taskId = isLinked db.approvalTaskLinks approvalId taskId := by
  unfold isLinked
  congr 1
  apply Table.get?_part
  intro l _ hk
  rw [show l.taskId = taskId from (Prod.mk.inj hk).2, htask, Bool.and_false]

omit hboard in
theorem links_filter_without {approvalId : Uuid} (happroval : o.approval approvalId = false) :
    ((db.without o).approvalTaskLinks.rows.filter fun l => l.approvalId = approvalId) =
      db.approvalTaskLinks.rows.filter fun l => l.approvalId = approvalId := by
  apply Table.filter_part
  intro l _ hsel
  rw [of_decide_eq_true hsel, happroval, Bool.false_and]

omit hboard in
theorem hasLinks_without {approvalId : Uuid} (happroval : o.approval approvalId = false) :
    hasLinks (db.without o).approvalTaskLinks approvalId = hasLinks db.approvalTaskLinks approvalId := by
  apply Table.any_part
  intro l _ hsel
  rw [of_decide_eq_true hsel, happroval, Bool.false_and]

section Approvals
variable (hfits : o.Fits db)
include hfits

theorem approval_of_mem_pendingOnBoard {exclude : Option Uuid} {a : Approval}
    (h : a ∈ pendingOnBoard db boardId exclude) : o.approval a.id = false := by
  obtain ⟨ha, hon, -⟩ := mem_pendingOnBoard.mp h
  rw [hfits.approvals a ha, hon, hboard]

theorem pendingConflict_without (exclude : Option Uuid) {taskId : Uuid} (htask : o.task taskId = false) :
    pendingConflict (db.without o) boardId exclude taskId = pendingConflict db boardId exclude taskId := by
  unfold pendingConflict linkedConflict legacyConflict
  rw [pendingOnBoard_without hboard]
  simp only [isLinked_without htask]
  congr 2
  apply List.filter_congr
  intro a ha
  rw [hasLinks_without (approval_of_mem_pendingOnBoard hboard hfits ha)]

theorem pendingApprovalConflicts_without (exclude : Option Uuid) {taskIds : List Uuid}
    (htasks : ∀ id ∈ taskIds, o.task id = false) :
    pendingApprovalConflicts (db.without o) boardId taskIds exclude =
      pendingApprovalConflicts db boardId taskIds exclude := by
  unfold pendingApprovalConflicts
  apply List.filterMap_congr
  intro id hid
  rw [pendingConflict_without hboard hfits exclude (htasks id (mem_dedupeUuidList.mp hid))]

theorem taskHasPendingLinkedApproval_without {taskId : Uuid} (htask : o.task taskId = false) :
    taskHasPendingLinkedApproval (db.without o) boardId taskId = taskHasPendingLinkedApproval db boardId taskId := by
  unfold taskHasPendingLinkedApproval
  rw [pendingApprovalConflicts_without hboard hfits none fun id hid => List.mem_singleton.mp hid ▸ htask]

omit hfits in
theorem taskHasApprovedLinkedApproval_without {taskId : Uuid} (htask : o.task taskId = false) :
    taskHasApprovedLinkedApproval (db.without o) boardId taskId = taskHasApprovedLinkedApproval db boardId taskId := by
  unfold taskHasApprovedLinkedApproval
  simp only [isLinked_without htask]
  apply Table.any_part
  intro a _ hsel
  simp only [Bool.and_eq_true, decide_eq_true_eq] at hsel
  rw [hsel.1.1, hboard]

theorem statusGates_without {update : TaskUpdateInput} (hon : update.boardId = boardId)
    (htask : o.task update.task.id = false) (targetStatus : TaskStatus) :
    statusGates (db.without o) update targetStatus = statusGates db update targetStatus := by
  unfold statusGates requireNoPendingApprovalForStatusChangeWhenEnabled requireReviewBeforeDoneWhenEnabled
    requireApprovedLinkedApprovalForDone
  simp only [hon, boardRule_without hboard hfits, taskHasPendingLinkedApproval_without hboard hfits htask,
    taskHasApprovedLinkedApproval_without hboard htask]

end Approvals

/-! ## The activity log -/

omit hboard in
theorem events_filter_without (htask : o.task taskId = false) {selected : ActivityEvent → Bool}
    (hselected : ∀ e, selected e = true → e.taskId = some taskId) :
    (db.without o).events.filter selected = db.events.filter selected := by
  show (db.events.filter _).filter selected = _
  rw [List.filter_filter]
  apply List.filter_congr
  intro e _
  cases hsel : selected e with
  | false => rfl
  | true => simp [Others.event, hselected e hsel, htask]

omit hboard in
theorem hasValidRecentComment_without (htask : o.task taskId = false) (agentId : Option Uuid) (since : Option Time) :
    hasValidRecentComment (db.without o) taskId agentId since = hasValidRecentComment db taskId agentId since := by
  unfold hasValidRecentComment
  cases agentId with
  | none => rfl
  | some agentId =>
    cases since with
    | none => rfl
    | some since =>
      dsimp only
      rw [events_filter_without htask fun e hsel => (of_decide_eq_true hsel).1]

omit hboard in
theorem leadWasMentioned_without (texts : Texts) (htask : o.task taskId = false) (lead : Agent) :
    leadWasMentioned texts (db.without o) taskId lead = leadWasMentioned texts db taskId lead := by
  have hfilter : ((db.without o).events.filter fun e => e.taskId = some taskId) =
      db.events.filter fun e => e.taskId = some taskId :=
    events_filter_without htask fun e hsel => of_decide_eq_true hsel
  have hany : ∀ events : List ActivityEvent,
      (events.any fun e => e.taskId = some taskId && e.eventType = .taskComment && e.message ≠ "" &&
          texts.mentions e.message lead) =
        (events.filter fun e => e.taskId = some taskId).any fun e => e.eventType = .taskComment && e.message ≠ "" &&
          texts.mentions e.message lead := by
    intro events
    rw [List.any_filter]
    simp only [Bool.and_assoc]
  unfold leadWasMentioned
  rw [hany, hany, hfilter]

omit hboard in
theorem listTaskComments_without (htask : o.task taskId = false) :
    listTaskComments (db.without o) taskId = listTaskComments db taskId := by
  unfold listTaskComments
  rw [events_filter_without htask fun e hsel => (of_decide_eq_true hsel).1]

/-! ## Who is assigned -/

section Assignees
variable (hfits : o.Fits db)
include hfits

theorem lastWorkerWhoMovedTaskToReview_without {taskId : Uuid} (htask : o.task taskId = false) (leadAgentId : Uuid) :
    lastWorkerWhoMovedTaskToReview (db.without o) taskId boardId leadAgentId =
      lastWorkerWhoMovedTaskToReview db taskId boardId leadAgentId := by
  have hcandidate : ∀ candidateId : Uuid,
      (((db.without o).agents.get? candidateId).any fun candidate =>
          candidate.boardId = some boardId && !candidate.isBoardLead) =
        (db.agents.get? candidateId).any fun candidate =>
          candidate.boardId = some boardId && !candidate.isBoardLead :=
    agents_get?_filter_without hboard hfits fun a _ hsel => of_decide_eq_true (Bool.and_eq_true_iff.mp hsel).1
  unfold lastWorkerWhoMovedTaskToReview
  simp only [hcandidate]
  rw [events_filter_without htask fun e hsel => (of_decide_eq_true hsel).1]

variable {update : TaskUpdateInput}

theorem assignReviewTaskToLead_without (hon : update.boardId = boardId) (task : Task) :
    assignReviewTaskToLead (db.without o) update task = assignReviewTaskToLead db update task := by
  unfold assignReviewTaskToLead
  have hlead : ((db.without o).agents.rows.find? fun a => a.boardId = some update.boardId ∧ a.isBoardLead) =
      db.agents.rows.find? fun a => a.boardId = some update.boardId ∧ a.isBoardLead :=
    Table.find?_part fun a ha hsel => by
      have hsel' : a.boardId = some update.boardId ∧ a.isBoardLead = true := by simpa using hsel
      rw [hfits.agents a ha _ hsel'.1, hon, hboard]
  rw [hlead]

omit hboard hfits in
theorem agents_get?_without {agentId : Uuid} (hagent : o.agent agentId = false) :
    (db.without o).agents.get? agentId = db.agents.get? agentId := by
  apply Table.get?_part
  rintro a _ rfl
  exact hagent

omit hboard hfits in
theorem requireAssignable_without (assignedAgentId : Option Uuid) (hagent : ∀ id ∈ assignedAgentId, o.agent id = false) :
    requireAssignable (db.without o) boardId assignedAgentId = requireAssignable db boardId assignedAgentId := by
  cases assignedAgentId with
  | none => rfl
  | some id =>
    unfold requireAssignable
    dsimp only
    rw [agents_get?_without (hagent id rfl)]

omit hboard hfits in
theorem leadApplyAssignment_without (hagent : ∀ id ∈ update.updates.assignedAgentId.join, o.agent id = false) :
    leadApplyAssignment (db.without o) update = leadApplyAssignment db update := by
  unfold leadApplyAssignment
  match hassigned : update.updates.assignedAgentId with
  | none | some none => rfl
  | some (some id) =>
    dsimp only
    rw [agents_get?_without (hagent id (by rw [hassigned]; rfl))]

theorem leadApplyStatus_without (hon : update.boardId = boardId) (htask : o.task update.task.id = false) (lead : Agent)
    (assignedAgentId : Option Uuid) :
    leadApplyStatus (db.without o) update lead assignedAgentId = leadApplyStatus db update lead assignedAgentId := by
  unfold leadApplyStatus
  simp only [hon, lastWorkerWhoMovedTaskToReview_without hboard hfits htask]

end Assignees

/-! ## What is sent back -/

section Answers
variable (hfits : o.Fits db) (htags : o.TagsApart db) (hapart : o.Apart db)

variable {taskId : Uuid}

omit hboard in
include htags in
theorem taskTagRows_without (htask : o.task taskId = false) :
    taskTagRows (db.without o) taskId = taskTagRows db taskId := by
  unfold taskTagRows
  have hassigned : ((db.without o).tagAssignments.rows.filter fun a => a.taskId = taskId) =
      db.tagAssignments.rows.filter fun a => a.taskId = taskId := by
    apply Table.filter_part
    intro a _ hsel
    rw [of_decide_eq_true hsel, htask]
  rw [hassigned]
  apply List.filterMap_congr
  intro a ha
  obtain ⟨hmem, hon⟩ := List.mem_filter.mp ha
  apply Table.get?_part
  intro t ht hk
  rw [← htags a hmem t ht hk.symm, of_decide_eq_true hon, htask]

omit hboard in
theorem customFieldValue_without (htask : o.task taskId = false) (definition : TaskCustomFieldDefinition) :
    customFieldValue (db.without o) taskId definition = customFieldValue db taskId definition := by
  unfold customFieldValue
  congr 2
  apply Table.get?_part
  intro v _ hk
  rw [show v.taskId = taskId from (Prod.mk.inj hk).1, htask]

include htags in
theorem readTask_without (definitions : List TaskCustomFieldDefinition) {task : Task} (htask : o.task task.id = false) :
    readTask (db.without o) boardId definitions task = readTask db boardId definitions task := by
  unfold readTask cardTask
  simp only [taskDepIds_without hboard, dependencyStatusById_without hboard, taskTagRows_without htags htask,
    customFieldValue_without htask]

include hfits htags in
theorem taskReadResponse_without {task : Task} (htask : o.task task.id = false) :
    taskReadResponse (db.without o) boardId task = taskReadResponse db boardId task := by
  unfold taskReadResponse
  rw [organizationCustomFieldDefinitionsForBoard_without hboard hfits]
  simp only [readTask_without hboard htags _ htask]

include hfits htags in
theorem taskReadPage_without (tasks : List Task) (htasks : ∀ t ∈ tasks, o.task t.id = false) :
    taskReadPage (db.without o) boardId tasks = taskReadPage db boardId tasks := by
  have hdefs := organizationCustomFieldDefinitionsForBoard_without hboard hfits
  cases hget : organizationCustomFieldDefinitionsForBoard db boardId with
  | ok definitions =>
    rw [hget] at hdefs
    rw [taskReadPage_eq hget, taskReadPage_eq hdefs]
    congr 1
    exact List.map_congr_left fun t ht => readTask_without hboard htags definitions (htasks t ht)
  | error e =>
    rw [hget] at hdefs
    unfold taskReadPage taskCustomFieldValuesByTaskId
    split
    · rfl
    · dsimp only
      rw [hdefs, hget]
      split <;> simp_all

omit hboard in
theorem taskListPage_eq (db : Db) {query : TaskListQuery} (hoffset : query.offset = 0)
    (hlimit : query.limit = db.tasks.rows.length) :
    ((taskListStatement db boardId query).drop query.offset).take query.limit = taskListStatement db boardId query := by
  rw [hoffset, List.drop_zero]
  apply List.take_of_length_le
  unfold taskListStatement
  rw [List.length_mergeSort, hlimit]
  exact List.length_filter_le _ _

include hfits htags in
theorem agentListTasks_without (filters : AgentTaskListFilters) :
    agentListTasks (db.without o) boardId filters = agentListTasks db boardId filters := by
  unfold agentListTasks listTasks
  apply bind_congr_ok rfl
  intro statuses _
  rw [taskListPage_eq _ rfl rfl, taskListPage_eq _ rfl rfl]
  have hstatement : ∀ query query' : TaskListQuery, query' = { query with limit := query'.limit } →
      taskListStatement (db.without o) boardId query' = taskListStatement db boardId query := by
    intro query query' heq
    unfold taskListStatement
    rw [heq, tasks_filter_without hboard fun t _ hsel => (of_decide_eq_true hsel).1]
  rw [hstatement
    { statuses, assignedAgentId := filters.assignedAgentId, unassigned := filters.unassigned = some true
      rank := fun _ => 0, limit := db.tasks.rows.length } _ rfl]
  apply taskReadPage_without hboard hfits htags
  intro t ht
  have hmem : t ∈ db.tasks ∧ t.boardId = some boardId := by
    unfold taskListStatement at ht
    have ht' := List.mem_filter.mp (List.mem_mergeSort.mp ht)
    exact ⟨ht'.1, (of_decide_eq_true ht'.2).1⟩
  exact hfits.task_of_boardId hboard hmem.1 hmem.2

omit hboard in
include hfits in
theorem tasks_get?_of_shown (htask : o.task taskId = false) :
    (db.without o).tasks.get? taskId = db.tasks.get? taskId := by
  apply Table.get?_part
  rintro t ht rfl
  exact (hfits.tasks t ht).symm.trans htask

omit hboard in
include hapart in
theorem task_of_mem_approvalTaskIds {a : Approval} (ha : a ∈ db.approvals) (happroval : o.approval a.id = false)
    (h : taskId ∈ approvalTaskIds db a) : o.task taskId = false := by
  rcases mem_approvalTaskIds.mp h with hlinked | ⟨hown, -⟩
  · exact (hapart.links _ (isLinked_iff.mp hlinked)).symm.trans happroval
  · exact (hapart.approvals a ha taskId hown).symm.trans happroval

include hfits hapart in
theorem approvalReads_without {approvals : List Approval}
    (hmem : ∀ a ∈ approvals, a ∈ db.approvals ∧ a.boardId = boardId) :
    approvalReads (db.without o) approvals = approvalReads db approvals := by
  apply List.map_congr_left
  intro a ha
  obtain ⟨ha, hon⟩ := hmem a ha
  have happroval : o.approval a.id = false := by rw [hfits.approvals a ha, hon, hboard]
  have hids : approvalTaskIds (db.without o) a = approvalTaskIds db a := by
    unfold approvalTaskIds linkedTaskIds
    rw [links_filter_without happroval]
  dsimp only
  rw [hids]
  congr 1
  apply List.filterMap_congr
  intro taskId htask
  rw [tasks_get?_of_shown hfits (task_of_mem_approvalTaskIds hapart ha happroval htask)]

include hfits hapart in
theorem agentListApprovals_without (status : Option ApprovalStatus) :
    agentListApprovals (db.without o) boardId status = agentListApprovals db boardId status := by
  have hselected : ((db.without o).approvals.rows.filter fun a => a.boardId = boardId ∧ status.all (a.status = ·)) =
      db.approvals.rows.filter fun a => a.boardId = boardId ∧ status.all (a.status = ·) := by
    apply Table.filter_part
    intro a _ hsel
    rw [(of_decide_eq_true hsel).1, hboard]
  have hpage : ∀ db' : Db, agentListApprovals db' boardId status = approvalReads db'
      ((db'.approvals.rows.filter fun a => a.boardId = boardId ∧ status.all (a.status = ·)).mergeSort
        (approvalsNewestFirst fun _ => 0)) := by
    intro db'
    unfold agentListApprovals listApprovals
    dsimp only
    rw [List.drop_zero, List.take_of_length_le]
    rw [List.length_mergeSort]
    exact List.length_filter_le _ _
  rw [hpage, hpage, hselected]
  apply approvalReads_without hboard hfits hapart
  intro a ha
  obtain ⟨hmem, hsel⟩ := List.mem_filter.mp (List.mem_mergeSort.mp ha)
  exact ⟨hmem, (of_decide_eq_true hsel).1⟩

end Answers

end Board

end SiloForge
