import SiloForge.Approvals.Readers
import SiloForge.Boards.TaskReads

/-!
# The snapshot of a board

`build_board_snapshot` shows a board's tasks as cards and its latest approvals with their tasks.

* `SameStory` : the card of a task agrees with the list and the stream; `cards_leave_fields_out` : it does but for the
  custom field values, which no card has;
* `ReadersAgree` : conflicts, counts, list and snapshot go by the same approvals; `readersAgree_iff` : they do unless
  the snapshot shows an approval that has a task of its own and no links.
-/

namespace SiloForge

open Lib

/-! ## Cards -/

/-- Task read model enriched with assignee and approval counters. -/
structure TaskCardRead extends TaskRead where
  assignee : Option String := none
  approvalsCount : Nat := 0
  approvalsPendingCount : Nat := 0

def taskToCard (task : Task) (agentName : Uuid → Option String) (counts : Uuid → Option (Nat × Nat))
    (depsMap : Uuid → List Uuid) (depStatus : Uuid → Option TaskStatus) (tagState : Uuid → TagState) : TaskCardRead :=
  let (approvalsCount, approvalsPendingCount) := (counts task.id).getD (0, 0)
  let blocked := blockedBy task (depsMap task.id) depStatus
  { task.toRead with
    assignee := task.assignedAgentId.bind agentName
    approvalsCount
    approvalsPendingCount
    dependsOnTaskIds := depsMap task.id
    tagIds := (tagState task.id).tagIds
    tags := (tagState task.id).tags
    blockedByTaskIds := blocked
    isBlocked := !blocked.isEmpty }

def snapshotTasks (db : Db) (boardId : Uuid) (rank : Uuid → Nat) : List Task :=
  (db.tasks.rows.filter fun t => t.boardId = some boardId).mergeSort (tasksNewestFirst rank)

def snapshotCards (db : Db) (boardId : Uuid) (tasks : List Task) : List TaskCardRead :=
  let taskIds := tasks.map (·.id)
  let tagState := loadTagState db taskIds
  let depsMap := dependencyIdsByTaskId db boardId taskIds
  let depStatus := dependencyStatuses db boardId (taskIds.flatMap depsMap)
  let agentName := fun agentId => ((db.agents.get? agentId).filter fun a => a.boardId = some boardId).map (·.name)
  tasks.map fun task => taskToCard task agentName (taskCountsForBoard db boardId none) depsMap depStatus tagState

/-! ## Approvals -/

/-- `load_task_ids_by_approval`: every approval asked for has its list, which may be empty. -/
def loadTaskIdsByApproval (links : Table ApprovalTaskLink) (approvalIds : List Uuid) (approvalId : Uuid) :
    Option (List Uuid) :=
  if approvalId ∈ approvalIds then some (linkedTaskIds links approvalId) else none

def snapshotApprovals (db : Db) (boardId : Uuid) (rank : Uuid → Nat) : List Approval :=
  ((db.approvals.rows.filter fun a => a.boardId = boardId).mergeSort (approvalsNewestFirst rank)).take 200

def snapshotApprovalReads (db : Db) (tasks : List Task) (approvals : List Approval) : List ApprovalRead :=
  let taskIdsByApproval := loadTaskIdsByApproval db.approvalTaskLinks (approvals.map (·.id))
  let taskTitle := fun taskId => (tasks.find? fun t => t.id = taskId).map (·.title)
  approvals.map fun approval =>
    -- meant as a fallback for approvals without links, which have an empty list already
    let taskIds := (taskIdsByApproval approval.id).getD approval.taskId.toList
    approvalToRead approval taskIds (taskIds.filterMap taskTitle)

/-! ## The snapshot -/

structure BoardSnapshot where
  tasks : List TaskCardRead
  approvals : List ApprovalRead
  pendingApprovalsCount : Nat

def buildBoardSnapshot (db : Db) (board : Board) (rank : Uuid → Nat) : BoardSnapshot where
  tasks := snapshotCards db board.id (snapshotTasks db board.id rank)
  approvals := snapshotApprovalReads db (snapshotTasks db board.id rank) (snapshotApprovals db board.id rank)
  pendingApprovalsCount := db.approvals.rows.countP fun a => a.boardId = board.id ∧ a.status = .pending

variable {boardId : Uuid}

section Snapshot
variable {db : Db} {board : Board} {rank : Uuid → Nat}

theorem snapshotCards_toTaskRead (tasks : List Task) :
    (snapshotCards db boardId tasks).map (·.toTaskRead) = tasks.map (cardTask db boardId) := by
  unfold snapshotCards
  dsimp only
  rw [List.map_map]
  refine List.map_congr_left fun task htask => ?_
  have hmem : task.id ∈ tasks.map (·.id) := List.mem_map_of_mem htask
  show (taskToCard ..).toTaskRead = _
  unfold taskToCard cardTask
  dsimp only
  rw [dependencyIdsByTaskId_of_mem hmem, blockedBy_batch (taskDepIds_subset_batch hmem), loadTagState_of_mem hmem]

theorem mem_snapshotTasks {task : Task} :
    task ∈ snapshotTasks db boardId rank ↔ task ∈ db.tasks ∧ task.boardId = some boardId := by
  unfold snapshotTasks
  rw [List.mem_mergeSort, List.mem_filter, decide_eq_true_eq, Table.mem_def]

theorem toTaskRead_of_mem_tasks {card : TaskCardRead} (h : card ∈ (buildBoardSnapshot db board rank).tasks) :
    ∃ task ∈ db.tasks, task.boardId = some board.id ∧ card.toTaskRead = cardTask db board.id task := by
  have hcard : card.toTaskRead ∈ (snapshotTasks db board.id rank).map (cardTask db board.id) := by
    rw [← snapshotCards_toTaskRead]
    exact List.mem_map_of_mem h
  obtain ⟨task, htask, heq⟩ := List.mem_map.mp hcard
  obtain ⟨hmem, hboard⟩ := mem_snapshotTasks.mp htask
  exact ⟨task, hmem, hboard, heq.symm⟩

theorem exists_card {task : Task} (htask : task ∈ db.tasks) (hboard : task.boardId = some board.id) :
    ∃ card ∈ (buildBoardSnapshot db board rank).tasks, card.toTaskRead = cardTask db board.id task := by
  have hcard : cardTask db board.id task ∈
      (buildBoardSnapshot db board rank).tasks.map (·.toTaskRead) := by
    show _ ∈ (snapshotCards db board.id (snapshotTasks db board.id rank)).map (·.toTaskRead)
    rw [snapshotCards_toTaskRead]
    exact List.mem_map_of_mem (mem_snapshotTasks.mpr ⟨htask, hboard⟩)
  obtain ⟨card, hmem, heq⟩ := List.mem_map.mp hcard
  exact ⟨card, hmem, heq⟩

end Snapshot

/-! ## One story -/

/-- The card of a task agrees with the task as it is listed, and as the stream shows it, and these two are the same. -/
structure SameStory (agree : TaskRead → TaskRead → Prop) (db : Db) (board : Board) (task : Task) : Prop where
  listed : ∀ rank, ∀ card ∈ (buildBoardSnapshot db board rank).tasks, card.id = task.id →
    ∀ query reads, listTasks db board.id query = .ok reads → ∀ read ∈ reads, read.id = task.id →
      agree card.toTaskRead read
  streamed : ∀ rank, ∀ card ∈ (buildBoardSnapshot db board rank).tasks, card.id = task.id →
    ∀ rows state, streamTaskState db board.id rows = .ok state → ∀ event, (event, some task) ∈ rows →
      ∀ read, (taskEventPayload state event (some task)).body = .task (some read) → agree card.toTaskRead read
  read : ∀ query reads, listTasks db board.id query = .ok reads → ∀ listed ∈ reads, listed.id = task.id →
    ∀ rows state, streamTaskState db board.id rows = .ok state → ∀ event, (event, some task) ∈ rows →
      ∀ streamed, (taskEventPayload state event (some task)).body = .task (some streamed) → listed = streamed

/-- Agreement on every field but the custom field values, which the first has none of. -/
def AgreeButFields (card read : TaskRead) : Prop :=
  card = { read with customFieldValues := none } ∧ read.customFieldValues.isSome

section Story
variable {db : Db} {board : Board}

theorem organizationCustomFieldDefinitionsForBoard_of_mem (hboard : board ∈ db.boards) :
    ∃ definitions, organizationCustomFieldDefinitionsForBoard db board.id = .ok definitions :=
  ⟨_, bind_eq_ok.mpr ⟨board, orFail_eq_ok.mpr (Table.get?_key hboard), rfl⟩⟩

variable {task : Task} {definitions : List TaskCustomFieldDefinition}

theorem mem_of_mem_taskListStatement {query : TaskListQuery}
    (h : task ∈ taskListStatement db boardId query) : task ∈ db.tasks ∧ task.boardId = some boardId := by
  unfold taskListStatement at h
  rw [List.mem_mergeSort, List.mem_filter, decide_eq_true_eq] at h
  exact ⟨h.1, h.2.1⟩

theorem agreeButFields :
    AgreeButFields (cardTask db boardId task) (readTask db boardId definitions task) := ⟨rfl, rfl⟩

theorem eq_readTask_of_listed (hdefs : organizationCustomFieldDefinitionsForBoard db board.id = .ok definitions)
    (htask : task ∈ db.tasks) {query : TaskListQuery} {reads : List TaskRead}
    (hreads : listTasks db board.id query = .ok reads) {read : TaskRead} (hread : read ∈ reads)
    (hid : read.id = task.id) : read = readTask db board.id definitions task := by
  unfold listTasks at hreads
  rw [taskReadPage_eq hdefs] at hreads
  obtain rfl := Except.ok.inj hreads
  obtain ⟨other, hother, rfl⟩ := List.mem_map.mp hread
  have hlisted := (mem_of_mem_taskListStatement (List.mem_of_mem_drop (List.mem_of_mem_take hother))).1
  obtain rfl : other = task := Table.eq_of_key_eq hlisted htask hid
  rfl

theorem eq_readTask_of_streamed (hdefs : organizationCustomFieldDefinitionsForBoard db board.id = .ok definitions)
    {rows : List (ActivityEventRow × Option Task)} {state : StreamTaskState}
    (hstate : streamTaskState db board.id rows = .ok state) {event : ActivityEventRow}
    (hrow : (event, some task) ∈ rows) {read : TaskRead}
    (hread : (taskEventPayload state event (some task)).body = .task (some read)) :
    read = readTask db board.id definitions task := by
  obtain ⟨state', hstate', hshows⟩ := taskEventPayload_eq hdefs rows
  obtain rfl := Except.ok.inj (hstate'.symm.trans hstate)
  have hevent : event.eventType ≠ "task.comment" := by
    intro hcomment
    unfold taskEventPayload at hread
    dsimp only at hread
    rw [if_pos hcomment] at hread
    cases hread
  have hbody := (hshows event task hrow hevent).symm.trans hread
  exact (Option.some.inj (TaskEventBody.task.inj hbody)).symm

theorem sameStory_butFields (hboard : board ∈ db.boards) (htask : task ∈ db.tasks) :
    SameStory AgreeButFields db board task := by
  obtain ⟨definitions, hdefs⟩ := organizationCustomFieldDefinitionsForBoard_of_mem hboard
  have hcards : ∀ rank, ∀ card ∈ (buildBoardSnapshot db board rank).tasks, card.id = task.id →
      card.toTaskRead = cardTask db board.id task := by
    intro rank card hcard hid
    obtain ⟨other, hother, -, heq⟩ := toTaskRead_of_mem_tasks hcard
    have hid' : other.id = task.id := (congrArg TaskRead.id heq).symm.trans hid
    obtain rfl := Table.eq_of_key_eq hother htask hid'
    exact heq
  constructor
  · intro rank card hcard hid query reads hreads read hread hreadId
    rw [hcards rank card hcard hid, eq_readTask_of_listed hdefs htask hreads hread hreadId]
    exact agreeButFields
  · intro rank card hcard hid rows state hstate event hrow read hread
    rw [hcards rank card hcard hid, eq_readTask_of_streamed hdefs hstate hrow hread]
    exact agreeButFields
  · intro query reads hreads listed hlisted hid rows state hstate event hrow streamed hstreamed
    rw [eq_readTask_of_listed hdefs htask hreads hlisted hid, eq_readTask_of_streamed hdefs hstate hrow hstreamed]

def allTasks (db : Db) : TaskListQuery := { rank := fun _ => 0, limit := db.tasks.rows.length }

theorem listTasks_allTasks (hboard : board ∈ db.boards) (htask : task ∈ db.tasks) (hon : task.boardId = some board.id) :
    ∃ reads, listTasks db board.id (allTasks db) = .ok reads ∧ ∃ read ∈ reads, read.id = task.id := by
  obtain ⟨definitions, hdefs⟩ := organizationCustomFieldDefinitionsForBoard_of_mem hboard
  refine ⟨_, taskReadPage_eq hdefs _, readTask db board.id definitions task, ?_, rfl⟩
  refine List.mem_map_of_mem ?_
  have hall : (taskListStatement db board.id (allTasks db)).length ≤ db.tasks.rows.length := by
    unfold taskListStatement
    rw [List.length_mergeSort]
    exact List.length_filter_le _ _
  show task ∈ ((taskListStatement db board.id (allTasks db)).drop 0).take db.tasks.rows.length
  rw [List.drop_zero, List.take_of_length_le hall]
  unfold taskListStatement
  rw [List.mem_mergeSort, List.mem_filter, decide_eq_true_eq]
  exact ⟨htask, hon, fun h => absurd rfl h, fun h => absurd h Bool.false_ne_true,
    fun h => absurd h Bool.false_ne_true⟩

/-- A card has no custom field values, and the task as it is listed has some, if only an empty collection. -/
theorem not_sameStory_of_mem (hboard : board ∈ db.boards) (htask : task ∈ db.tasks)
    (hon : task.boardId = some board.id) : ¬ SameStory Eq db board task := by
  intro hsame
  have hbut := sameStory_butFields hboard htask
  obtain ⟨card, hcard, heq⟩ := @exists_card db board (fun _ => 0) task htask hon
  have hid : card.id = task.id := congrArg TaskRead.id heq
  obtain ⟨reads, hreads, read, hread, hreadId⟩ := listTasks_allTasks hboard htask hon
  have hsome := (hbut.listed _ card hcard hid _ _ hreads read hread hreadId).2
  rw [← hsame.listed _ card hcard hid _ _ hreads read hread hreadId, heq] at hsome
  exact absurd hsome (by simp [cardTask, Task.toRead])

/-- **No card has the custom field values** of its task, which list and stream show; all the rest agrees. -/
theorem cards_leave_fields_out (hboard : board ∈ db.boards) {task : Task} (htask : task ∈ db.tasks)
    (hon : task.boardId = some board.id) : ¬ SameStory Eq db board task ∧ SameStory AgreeButFields db board task :=
  ⟨not_sameStory_of_mem hboard htask hon, sameStory_butFields hboard htask⟩

end Story

def sprintDb : Db :=
  { boards := ⟨[{ id := 7, organizationId := 3 }], by decide⟩
    tasks := ⟨[{ id := 1, boardId := some 7, title := "Ship" }], by decide⟩
    customFields :=
      ⟨[{ id := 5, organizationId := 3, fieldKey := "sprint", fieldType := .text, defaultValue := .str "none" }],
        by decide⟩
    boardCustomFields := ⟨[⟨7, 5⟩], by decide⟩
    customFieldValues := ⟨[⟨1, 5, .str "42", 0⟩], by decide⟩ }

theorem sprintDb_leaves_fields_out :
    ¬ SameStory Eq sprintDb { id := 7, organizationId := 3 } { id := 1, boardId := some 7, title := "Ship" } ∧
      SameStory AgreeButFields sprintDb { id := 7, organizationId := 3 }
        { id := 1, boardId := some 7, title := "Ship" } :=
  cards_leave_fields_out (List.mem_singleton_self _) (List.mem_singleton_self _) rfl

/-- **The story is not the same**, already for this task. -/
theorem not_sameStory : ¬ ∀ (db : Db) (board : Board) (task : Task), board ∈ db.boards → task ∈ db.tasks →
    task.boardId = some board.id → SameStory Eq db board task := by
  intro h
  have hboard : ({ id := 7, organizationId := 3 } : Board) ∈ sprintDb.boards := List.mem_singleton_self _
  have htask : ({ id := 1, boardId := some 7, title := "Ship" } : Task) ∈ sprintDb.tasks := List.mem_singleton_self _
  exact not_sameStory_of_mem hboard htask rfl (h sprintDb _ _ hboard htask rfl)

/-! ## The approvals of a task -/

/-- Conflicts, counts, list and snapshot go by the same approvals of a task. -/
structure ReadersAgree (db : Db) (board : Board) (rank : Uuid → Nat) : Prop where
  conflicts : ∀ taskIds taskId, taskId ∈ taskIds →
    ((∃ approvalId, (taskId, approvalId) ∈ pendingApprovalConflicts db board.id taskIds none) ↔
      1 ≤ ((taskCountsForBoard db board.id none taskId).getD (0, 0)).2)
  counts : ∀ taskIds taskId, (∀ ids ∈ taskIds, taskId ∈ ids) →
    (taskCountsForBoard db board.id taskIds taskId).getD (0, 0) =
      ((referencing db board.id taskId).length, (referencing db board.id taskId).countP isPending)
  listed : ∀ status offset limit, ∀ read ∈ listApprovals db board.id status rank offset limit, ∀ a ∈ db.approvals,
    a.id = read.id → ∀ taskId, taskId ∈ read.taskIds ↔ References db.approvalTaskLinks a taskId
  shown : ∀ read ∈ (buildBoardSnapshot db board rank).approvals, ∀ a ∈ db.approvals,
    a.id = read.id → ∀ taskId, taskId ∈ read.taskIds ↔ References db.approvalTaskLinks a taskId

section Readers
variable {db : Db} {board : Board} {rank : Uuid → Nat}

theorem mem_snapshotApprovals {a : Approval} (h : a ∈ snapshotApprovals db boardId rank) : a ∈ db.approvals := by
  have hsorted := List.mem_mergeSort.mp (List.mem_of_mem_take h)
  exact (List.mem_filter.mp hsorted).1

theorem mem_snapshot_approvals {read : ApprovalRead} : read ∈ (buildBoardSnapshot db board rank).approvals ↔
    ∃ a ∈ snapshotApprovals db board.id rank, ∃ titles,
      approvalToRead a (linkedTaskIds db.approvalTaskLinks a.id) titles = read ∧ titles =
        (linkedTaskIds db.approvalTaskLinks a.id).filterMap fun taskId =>
          ((snapshotTasks db board.id rank).find? fun t => t.id = taskId).map (·.title) := by
  show read ∈ snapshotApprovalReads db _ _ ↔ _
  unfold snapshotApprovalReads
  rw [List.mem_map]
  have hlinked : ∀ a ∈ snapshotApprovals db board.id rank,
      (loadTaskIdsByApproval db.approvalTaskLinks ((snapshotApprovals db board.id rank).map (·.id)) a.id).getD
        a.taskId.toList = linkedTaskIds db.approvalTaskLinks a.id := by
    intro a ha
    unfold loadTaskIdsByApproval
    rw [if_pos (List.mem_map_of_mem ha), Option.getD_some]
  constructor
  · rintro ⟨a, ha, rfl⟩
    refine ⟨a, ha, _, ?_, rfl⟩
    rw [hlinked a ha]
  · rintro ⟨a, ha, _, rfl, rfl⟩
    refine ⟨a, ha, ?_⟩
    rw [hlinked a ha]

theorem conflict_iff_count {taskIds : List Uuid} {taskId : Uuid} (h : taskId ∈ taskIds) :
    (∃ approvalId, (taskId, approvalId) ∈ pendingApprovalConflicts db board.id taskIds none) ↔
      1 ≤ ((taskCountsForBoard db board.id none taskId).getD (0, 0)).2 := by
  rw [pendingConflict_iff h, taskCountsForBoard_eq fun _ hnone => absurd hnone (by simp)]
  exact List.countP_pos_iff.symm

theorem listApprovals_shows {status : Option ApprovalStatus} {offset limit : Nat} {read : ApprovalRead}
    (hread : read ∈ listApprovals db board.id status rank offset limit) {a : Approval} (ha : a ∈ db.approvals)
    (hid : a.id = read.id) (taskId : Uuid) : taskId ∈ read.taskIds ↔ References db.approvalTaskLinks a taskId := by
  unfold listApprovals approvalReads at hread
  obtain ⟨other, hother, rfl⟩ := List.mem_map.mp hread
  have hmem : other ∈ db.approvals :=
    (List.mem_filter.mp (List.mem_mergeSort.mp (List.mem_of_mem_drop (List.mem_of_mem_take hother)))).1
  obtain rfl := Table.eq_of_key_eq ha hmem hid
  exact mem_approvalTaskIds

/-- **The readers agree** exactly when every approval of the snapshot that has a task of its own has links. -/
theorem readersAgree_iff (db : Db) (board : Board) (rank : Uuid → Nat) : ReadersAgree db board rank ↔
    ∀ a ∈ snapshotApprovals db board.id rank, a.taskId.isSome → hasLinks db.approvalTaskLinks a.id = true := by
  constructor
  · intro h a ha hown
    obtain ⟨taskId, htask⟩ := Option.isSome_iff_exists.mp hown
    by_contra hlinks
    have href : References db.approvalTaskLinks a taskId := .inr ⟨htask, Bool.not_eq_true _ ▸ hlinks⟩
    have hshown := (h.shown _ (mem_snapshot_approvals.mpr ⟨a, ha, _, rfl, rfl⟩) a (mem_snapshotApprovals ha) rfl
      taskId).mpr href
    exact hlinks (hasLinks_iff.mpr ⟨taskId, mem_linkedTaskIds.mp hshown⟩)
  · intro h
    refine ⟨fun _ _ => conflict_iff_count, fun _ _ => taskCountsForBoard_eq, ?_, ?_⟩
    · intro status offset limit read hread a ha hid taskId
      exact listApprovals_shows hread ha hid taskId
    · intro read hread a ha hid taskId
      obtain ⟨other, hother, _, rfl, -⟩ := mem_snapshot_approvals.mp hread
      obtain rfl := Table.eq_of_key_eq ha (mem_snapshotApprovals hother) hid
      have hnot : ¬ (a.taskId = some taskId ∧ hasLinks db.approvalTaskLinks a.id = false) := by
        rintro ⟨hown, hnone⟩
        rw [h a hother (Option.isSome_iff_exists.mpr ⟨taskId, hown⟩)] at hnone
        cases hnone
      show taskId ∈ linkedTaskIds db.approvalTaskLinks a.id ↔ _
      rw [mem_linkedTaskIds, References, or_iff_left hnot]

end Readers

def legacyApprovalDb : Db :=
  { boards := ⟨[{ id := 7, organizationId := 3 }], by decide⟩
    tasks := ⟨[{ id := 1, boardId := some 7, title := "Ship" }], by decide⟩
    approvals := ⟨[{ id := 4, boardId := 7, taskId := some 1, actionType := "deploy" }], by decide⟩ }

/-- **The snapshot shows no task** for it. -/
theorem not_readersAgree : ¬ ∀ (db : Db) (board : Board) (rank : Uuid → Nat), ReadersAgree db board rank := by
  intro h
  have hagree := h legacyApprovalDb { id := 7, organizationId := 3 } fun _ => 0
  have happroval : ({ id := 4, boardId := 7, taskId := some 1, actionType := "deploy" } : Approval) ∈
      snapshotApprovals legacyApprovalDb 7 fun _ => 0 := by
    unfold snapshotApprovals
    simp [legacyApprovalDb]
  have hshown := hagree.shown _ (mem_snapshot_approvals.mpr ⟨_, happroval, _, rfl, rfl⟩) _
    (mem_snapshotApprovals happroval) rfl 1
  have href : References legacyApprovalDb.approvalTaskLinks
      { id := 4, boardId := 7, taskId := some 1, actionType := "deploy" } 1 := .inr ⟨rfl, rfl⟩
  exact absurd (hshown.mpr href) List.not_mem_nil

end SiloForge
