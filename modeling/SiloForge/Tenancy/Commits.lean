import SiloForge.System.Commit
import SiloForge.Tenancy.Writing

/-!
# What the calls about tasks write

A call about a task writes rows of tasks of its board, comments on the task itself, and tags of the board's
organization. Whatever is not of the board stays as it was.

* `CommentsOn`, `SameComments` : what was added to, or taken from, the activity log are comments on the task, or none;
* `TagsAdded` : the tags a call adds;
* `updateTask_writes`, `createTaskAsLead_writes`, `deleteTask_writes`, `createTaskComment_writes` : the calls.
-/

namespace SiloForge

open Lib

/-! ## Comments -/

/-- What one log has more than the other are comments on the task, or no comments. -/
def CommentsOn (taskId : Uuid) (before after : List ActivityEvent) : Prop :=
  ∀ hidden : ActivityEvent → Bool, (∀ e, (e.eventType = .taskComment → e.taskId = some taskId) → hidden e = true) →
    (after.filter fun e => !hidden e) = before.filter fun e => !hidden e

variable {added : List ActivityEvent}

theorem commentsOn_append {taskId : Uuid} {events : List ActivityEvent}
    (h : ∀ e ∈ added, e.eventType = .taskComment → e.taskId = some taskId) :
    CommentsOn taskId events (events ++ added) := by
  intro hidden hhidden
  have hnone : (added.filter fun e => !hidden e) = [] := by
    rw [List.filter_eq_nil_iff]
    intro e he
    simp [hhidden e (h e he)]
  rw [List.filter_append, hnone, List.append_nil]

def SameComments (before after : List ActivityEvent) : Prop :=
  (after.filter fun e => e.eventType = .taskComment) = before.filter fun e => e.eventType = .taskComment

theorem sameComments_append {events : List ActivityEvent} (h : ∀ e ∈ added, e.eventType ≠ .taskComment) :
    SameComments events (events ++ added) := by
  have hnone : (added.filter fun e => e.eventType = .taskComment) = [] := by
    rw [List.filter_eq_nil_iff]
    intro e he
    simpa using h e he
  unfold SameComments
  rw [List.filter_append, hnone, List.append_nil]

theorem eventType_recordTaskUpdate (db : Db) (update : TaskUpdateInput) (task : Task) (actorAgentId : Option Uuid) :
    ∃ added, (recordTaskUpdate db update task actorAgentId).events = db.events ++ added ∧
      ∀ e ∈ added, e.eventType ≠ .taskComment := by
  refine ⟨_, rfl, fun e he => ?_⟩
  rcases List.mem_cons.mp he with rfl | he
  · show (taskEventDetails task update.task.status).1 ≠ _
    unfold taskEventDetails
    split <;> nofun
  · unfold reconcileEvents at he
    split at he
    · obtain ⟨dependent, -, rfl⟩ := List.mem_map.mp he
      dsimp only
      split <;> nofun
    · cases he

/-! ## Tags -/

/-- The tags that were added are those of one task, of an organization. -/
def TagsAdded (db : Db) (taskId organizationId : Uuid) (tagAssignments : Table TagAssignment) : Prop :=
  ∀ a ∈ tagAssignments, a ∈ db.tagAssignments ∨
    a.taskId = taskId ∧ ∃ t ∈ db.tags, t.id = a.tagId ∧ t.organizationId = organizationId

theorem tags_of_validateTagIds {db : Db} {organizationId : Uuid} {tagIds normalized : List Uuid}
    (h : validateTagIds db organizationId tagIds = .ok normalized) :
    ∀ tagId ∈ normalized, ∃ t ∈ db.tags, t.id = tagId ∧ t.organizationId = organizationId := by
  simp only [validateTagIds, bind_eq_ok, require_eq_ok, pure_eq_ok] at h
  obtain ⟨_, hmissing, rfl⟩ := h
  intro tagId htag
  have hknown := List.filter_eq_nil_iff.mp hmissing tagId htag
  simp only [decide_not, Bool.not_eq_true', decide_eq_false_iff_not, not_not, List.mem_map, List.mem_filter,
    decide_eq_true_eq] at hknown
  obtain ⟨t, ⟨hmem, horg⟩, hid⟩ := hknown
  exact ⟨t, hmem, hid, horg⟩

variable {tagAssignments : Table TagAssignment}

theorem tagsAdded_replaceTags {db : Db} {taskId organizationId : Uuid} {tagIds : List Uuid}
    (h : replaceTags db.tagAssignments taskId tagIds = .ok tagAssignments)
    (htags : ∀ tagId ∈ tagIds, ∃ t ∈ db.tags, t.id = tagId ∧ t.organizationId = organizationId) :
    TagsAdded db taskId organizationId tagAssignments := by
  intro a ha
  rcases (Table.mem_insertAll? (orFail_eq_ok.mp h) a).mp ha with hold | hnew
  · exact .inl (Table.mem_deleteWhere.mp hold).1
  · obtain ⟨tagId, htag, rfl⟩ := List.mem_map.mp hnew
    exact .inr ⟨rfl, htags tagId (mem_dedupeUuidList.mp htag)⟩

theorem tagsAdded_storeTags {db : Db} {update : TaskUpdateInput} {tagIds : Option (List Uuid)} {board : Board}
    (hboard : db.boards.get? update.boardId = some board) (hnormalized : normalizedUpdateTagIds db update = .ok tagIds)
    (h : storeTags db update tagIds = .ok tagAssignments) :
    TagsAdded db update.task.id board.organizationId tagAssignments := by
  unfold normalizedUpdateTagIds at hnormalized
  split at hnormalized
  · obtain rfl := Except.ok.inj hnormalized
    obtain rfl := Except.ok.inj h
    exact fun a ha => .inl ha
  · simp only [bind_eq_ok, orFail_eq_ok, pure_eq_ok] at hnormalized
    obtain ⟨board', hboard', normalized, hvalid, rfl⟩ := hnormalized
    obtain rfl := Option.some.inj (hboard.symm.trans hboard')
    exact tagsAdded_replaceTags h (tags_of_validateTagIds hvalid)

/-! ## Writes -/

/-- What a call about a task of a board writes: rows of tasks of the board, comments on the task, and tags of an
organization. -/
structure TaskWrites (boardId taskId organizationId : Uuid) (db t : Db) : Prop where
  same : t.boards = db.boards ∧ t.agents = db.agents ∧ t.tags = db.tags ∧ t.approvals = db.approvals
  tasks : ∀ hidden : Task → Bool, (∀ x, x.boardId = some boardId → hidden x = true) →
    t.tasks.deleteWhere hidden = db.tasks.deleteWhere hidden
  rows : ∀ x ∈ t.tasks, x.id = taskId ∧ x.boardId = some boardId ∨ x.id ≠ taskId ∧ ∃ y ∈ db.tasks, SameTask y x
  comments : CommentsOn taskId db.events t.events
  tags : TagsAdded db taskId organizationId t.tagAssignments

section Writes
variable {db t : Db} {boardId taskId organizationId : Uuid}

variable {task : Task}

theorem reconcileTasks_rest {now : Time} {previousStatus : TaskStatus} {hidden : Task → Bool}
    (hhidden : ∀ x, x.boardId = some boardId → hidden x = true) :
    (reconcileTasks db now boardId task previousStatus).deleteWhere hidden = db.tasks.deleteWhere hidden := by
  unfold reconcileTasks
  split
  · apply Table.updateWhere_rest
    intro x _ hsel
    have hon := (of_decide_eq_true hsel).1
    exact ⟨hhidden x hon, hhidden (x.reset now) hon⟩
  · rfl

theorem rows_reconcileTasks {now : Time} {previousStatus : TaskStatus} {x : Task}
    (hx : x ∈ reconcileTasks db now boardId task previousStatus) : ∃ y ∈ db.tasks, SameTask y x := by
  unfold reconcileTasks at hx
  split at hx
  · obtain ⟨y, hy, rfl⟩ := Table.mem_updateWhere.mp hx
    refine ⟨y, hy, ?_⟩
    split
    · exact ⟨rfl, rfl⟩
    · exact .refl y
  · exact ⟨x, hx, .refl x⟩

theorem commentsOn_trans {before middle after : List ActivityEvent} (h : CommentsOn taskId before middle)
    (h' : CommentsOn taskId middle after) : CommentsOn taskId before after :=
  fun hidden hhidden => (h' hidden hhidden).trans (h hidden hhidden)

theorem TaskWrites.recordTaskUpdate (h : TaskWrites boardId taskId organizationId db t) {update : TaskUpdateInput}
    (hon : update.boardId = boardId) (task : Task) (actorAgentId : Option Uuid) :
    TaskWrites boardId taskId organizationId db (recordTaskUpdate t update task actorAgentId) where
  same := h.same
  tasks hidden hhidden := by
    show (reconcileTasks t update.now update.boardId task update.task.status).deleteWhere hidden = _
    rw [hon, reconcileTasks_rest hhidden, h.tasks hidden hhidden]
  rows x hx := by
    obtain ⟨y, hy, hsame⟩ := rows_reconcileTasks hx
    rcases h.rows y hy with ⟨hid, hboard⟩ | ⟨hid, z, hz, hsame'⟩
    · exact .inl ⟨hsame.id.trans hid, hsame.boardId.trans hboard⟩
    · exact .inr ⟨fun hid' => hid (hsame.id.symm.trans hid'), z, hz, hsame'.trans hsame⟩
  comments := by
    obtain ⟨added, hadded, hnone⟩ := eventType_recordTaskUpdate t update task actorAgentId
    rw [hadded]
    exact commentsOn_trans h.comments (commentsOn_append fun e he hcomment => absurd hcomment (hnone e he))
  tags := h.tags

theorem TaskWrites.withEvents (h : TaskWrites boardId taskId organizationId db t)
    (hadded : ∀ e ∈ added, e.eventType = .taskComment → e.taskId = some taskId) :
    TaskWrites boardId taskId organizationId db { t with events := t.events ++ added } :=
  ⟨h.same, h.tasks, h.rows, commentsOn_trans h.comments (commentsOn_append hadded), h.tags⟩

theorem TaskWrites.fits {o : Others} (h : TaskWrites boardId taskId organizationId db t)
    (hboard : o.board boardId = false) (htask : o.task taskId = false) (hfits : o.Fits db) : o.Fits t := by
  obtain ⟨hboards, hagents, -, happrovals⟩ := h.same
  refine hfits.withTasks hboards hagents happrovals fun x hx => ?_
  rcases h.rows x hx with ⟨rfl, hon⟩ | ⟨-, y, hy, hsame⟩
  · rw [htask, hon, Option.any_some, hboard]
  · rw [hsame.id, hsame.boardId]
    exact hfits.tasks y hy

theorem TaskWrites.tagsApart {o : Others} (h : TaskWrites boardId taskId o.organizationId db t)
    (htask : o.task taskId = false) (htags : o.TagsApart db) : o.TagsApart t := by
  intro a ha tag htag hid
  rw [h.same.2.2.1] at htag
  rcases h.tags a ha with hold | ⟨habout, tag', htag', hid', hown⟩
  · exact htags a hold tag htag hid
  · have hget : db.tags.get? tag.id = some tag := Table.get?_eq_some.mpr ⟨htag, rfl⟩
    have hget' : db.tags.get? tag.id = some tag' := Table.get?_eq_some.mpr ⟨htag', hid'.trans hid⟩
    obtain rfl := Option.some.inj (hget.symm.trans hget')
    rw [habout, htask, hown]
    simp

theorem TaskWrites.boardId_of_get? (h : TaskWrites boardId taskId organizationId db t)
    (hget : t.tasks.get? taskId = some task) : task.boardId = some boardId := by
  rcases h.rows task (Table.mem_of_get? hget) with ⟨-, hon⟩ | ⟨hother, -⟩
  · exact hon
  · exact absurd (Table.key_of_get? hget) hother

theorem taskWrites_storedState {task' : Task} (htask : db.tasks.get? taskId = some task)
    (hon : task.boardId = some boardId) (hsame : SameTask task task') {dependencies : Table TaskDependency}
    {tagAssignments : Table TagAssignment} {customFieldValues : Table TaskCustomFieldValue}
    (htags : TagsAdded db taskId organizationId tagAssignments) :
    TaskWrites boardId taskId organizationId db
      (storedState db task' dependencies tagAssignments customFieldValues) where
  same := ⟨rfl, rfl, rfl, rfl⟩
  tasks hidden hhidden := by
    have hid : task'.id = taskId := hsame.id.trans (Table.key_of_get? htask)
    refine Table.put_rest (hhidden task' (hsame.boardId.trans hon)) fun x hx hk => hhidden x ?_
    have hget : db.tasks.get? taskId = some x := Table.get?_eq_some.mpr ⟨hx, (show x.id = task'.id from hk).trans hid⟩
    obtain rfl := Option.some.inj (htask.symm.trans hget)
    exact hon
  rows x hx := by
    have hid : task'.id = taskId := hsame.id.trans (Table.key_of_get? htask)
    rcases Table.mem_put.mp hx with ⟨hold, hother⟩ | ⟨rfl, -⟩
    · exact .inr ⟨fun hx => hother (hx.trans hid.symm), x, hold, .refl x⟩
    · exact .inl ⟨hid, hsame.boardId.trans hon⟩
  comments := fun _ _ => rfl
  tags := htags

end Writes

/-! ## The calls -/

section Calls
variable {texts : Texts} {db t : Db} {now : Time} {boardId taskId agentId : Uuid} {commits : List Db}

structure FoundTask (db : Db) (boardId taskId : Uuid) (board : Board) : Prop where
  board : db.boards.get? boardId = some board
  task : ∃ task, db.tasks.get? taskId = some task ∧ task.boardId = some boardId

theorem updateTask_writes {payload : TaskUpdate}
    (h : updateTask texts db now boardId taskId (.agent agentId) payload = .ok commits) :
    ∃ board, FoundTask db boardId taskId board ∧
      ∀ t ∈ commits, TaskWrites boardId taskId board.organizationId db t := by
  simp only [updateTask, requireUserOrAgent, bind_eq_ok, pure_eq_ok] at h
  obtain ⟨_, ⟨agent, -, rfl⟩, board, hread, task, hfound, h⟩ := h
  obtain ⟨hboard, rfl⟩ := getBoardForActor_eq_ok hread
  obtain ⟨htask, rfl, hon⟩ := getTaskOr404_eq_ok hfound
  refine ⟨board, ⟨hboard, task, htask, hon⟩, ?_⟩
  dsimp only at h
  split at h
  · -- a lead's update is one commit
    simp only [applyLeadTaskUpdate, bind_eq_ok, pure_eq_ok] at h
    obtain ⟨_, ⟨_, -, ⟨dependencies, deps⟩, -, tagIds, htagIds, _, -, assigned, -, task', hstatus, _, -,
      tagAssignments, htags, customFieldValues, -, rfl⟩, rfl⟩ := h
    let update : TaskUpdateInput := { task, boardId := board.id, now, updates := payload }
    have hadded : TagsAdded db update.task.id board.organizationId tagAssignments := tagsAdded_storeTags hboard htagIds htags
    have hsame : SameTask task { task' with updatedAt := now } := by
      have hsame' := (leadApplyStatus_eq_ok hstatus).1
      exact ⟨hsame'.id, hsame'.boardId⟩
    intro t ht
    obtain rfl := List.mem_singleton.mp ht
    exact (taskWrites_storedState htask hon hsame hadded).recordTaskUpdate rfl _ _
  · simp only [bind_eq_ok] at h
    obtain ⟨row, hrow, h⟩ := h
    simp only [finalizeUpdatedTask, bind_eq_ok] at h
    obtain ⟨⟨stored, task'⟩, hstore, h⟩ := h
    obtain ⟨⟨hsame', -⟩, -⟩ := storeUpdatedTask_eq_ok hstore
    obtain ⟨htags, -, hstored⟩ := storeUpdatedTask_parts hstore
    have hunchanged : stored.tagAssignments = db.tagAssignments := (Except.ok.inj htags).symm
    have hadded : TagsAdded db task.id board.organizationId stored.tagAssignments := by
      rw [hunchanged]
      exact fun a ha => .inl ha
    have hfirst : TaskWrites board.id task.id board.organizationId db stored := by
      rw [hstored]
      exact taskWrites_storedState htask hon ((applyNonLeadAgentTaskRules_same hrow).trans hsame') hadded
    intro t ht
    split at h
    · obtain rfl := pure_eq_ok.mp h
      rcases List.mem_cons.mp ht with rfl | ht
      · exact hfirst
      · obtain rfl := List.mem_singleton.mp ht
        exact hfirst.recordTaskUpdate rfl _ _
    · rename_i comment _
      obtain rfl := pure_eq_ok.mp h
      have hcommented : TaskWrites board.id task.id board.organizationId db
          (recordTaskComment stored { task, boardId := board.id, now, updates := payload } (some agent.id) comment) := by
        refine hfirst.withEvents fun e he _ => ?_
        obtain rfl := List.mem_singleton.mp he
        rfl
      simp only [List.mem_cons, List.not_mem_nil, or_false] at ht
      rcases ht with rfl | rfl | rfl
      · exact hfirst
      · exact hcommented
      · exact hcommented.recordTaskUpdate rfl _ _

theorem createTaskAsLead_writes {payload : TaskCreate}
    (h : createTaskAsLead texts db now boardId taskId agentId payload = .ok commits) :
    ∃ board, db.boards.get? boardId = some board ∧ db.tasks.get? taskId = none ∧
      ∀ t ∈ commits, TaskWrites boardId taskId board.organizationId db t ∧ SameComments db.events t.events := by
  simp only [createTaskAsLead, bind_eq_ok, pure_eq_ok] at h
  obtain ⟨lead, -, board, hboard, _, -, _, -, ⟨deps, tagIds⟩, hdeps, _, -, stored, hstore, rfl⟩ := h
  obtain ⟨hget, rfl⟩ := getBoardOr404_eq_ok hboard
  simp only [newTaskDependencies, bind_eq_ok, pure_eq_ok] at hdeps
  obtain ⟨_, -, normalized, hvalid, _, -, heq⟩ := hdeps
  obtain ⟨rfl, rfl⟩ := Prod.mk.inj heq
  simp only [storeNewTask, insertTask, bind_eq_ok, orFail_eq_ok, pure_eq_ok] at hstore
  obtain ⟨tasks, ⟨_, -, _, -, htasks⟩, values, -, dependencies, -, tagAssignments, htags, rfl⟩ := hstore
  have hfirst : TaskWrites board.id taskId board.organizationId db
      { db with tasks, customFieldValues := values, dependencies, tagAssignments } := by
    refine ⟨⟨rfl, rfl, rfl, rfl⟩, fun hidden hhidden => ?_, fun x hx => ?_, fun _ _ => rfl, ?_⟩
    · exact Table.insert?_rest (hhidden _ rfl) htasks
    · rcases (Table.mem_insert? htasks).mp hx with hold | rfl
      · exact .inr ⟨Table.get?_eq_none.mp (Table.insert?_eq_some htasks).2 x hold, x, hold, .refl x⟩
      · exact .inl ⟨rfl, rfl⟩
    · exact tagsAdded_replaceTags htags (tags_of_validateTagIds hvalid)
  refine ⟨board, hget, (Table.insert?_eq_some htasks).2, fun t ht => ?_⟩
  rcases List.mem_cons.mp ht with rfl | ht
  · exact ⟨hfirst, rfl⟩
  · obtain rfl := List.mem_singleton.mp ht
    constructor
    · refine hfirst.withEvents fun e he hcomment => ?_
      obtain rfl := List.mem_singleton.mp he
      cases hcomment
    · refine sameComments_append fun e he => ?_
      obtain rfl := List.mem_singleton.mp he
      simp

theorem deleteTask_writes {actor : Actor} (h : deleteTask db boardId taskId actor = .ok t) :
    ∃ board, FoundTask db boardId taskId board ∧
      (∀ hidden : Task → Bool, (∀ x, x.boardId = some boardId → hidden x = true) →
        t.tasks.deleteWhere hidden = db.tasks.deleteWhere hidden) ∧ CommentsOn taskId db.events t.events := by
  simp only [deleteTask, bind_eq_ok] at h
  obtain ⟨ctx, -, board, hread, task, hfound, h⟩ := h
  obtain ⟨hboard, rfl⟩ := getBoardForActor_eq_ok hread
  obtain ⟨htask, rfl, hon⟩ := getTaskOr404_eq_ok hfound
  have hdeleted : deleteTaskAndRelatedRecords db task = .ok t := by
    cases ctx <;>
    · obtain ⟨_, -, h⟩ := bind_eq_ok.mp h
      exact h
  simp only [deleteTaskAndRelatedRecords, bind_eq_ok, pure_eq_ok] at hdeleted
  obtain ⟨_, -, _, -, rfl⟩ := hdeleted
  refine ⟨board, ⟨hboard, task, htask, hon⟩, fun hidden hhidden => ?_, fun hidden hhidden => ?_⟩
  · apply Table.deleteWhere_rest
    intro x hx hid
    have hget : db.tasks.get? task.id = some x := Table.get?_eq_some.mpr ⟨hx, of_decide_eq_true hid⟩
    obtain rfl := Option.some.inj (htask.symm.trans hget)
    exact hhidden _ hon
  · show (db.events.filter _).filter _ = _
    rw [List.filter_filter]
    apply List.filter_congr
    intro e _
    by_cases habout : e.taskId = some task.id
    · simp [hhidden e fun _ => habout]
    · simp [habout]

theorem createTaskComment_writes {actor : Actor} {message : String}
    (h : createTaskComment texts db now boardId taskId actor message = .ok t) :
    ∃ board, FoundTask db boardId taskId board ∧ ∃ comment : ActivityEvent, comment.eventType = .taskComment ∧
      comment.taskId = some taskId ∧ t = { db with events := db.events ++ [comment] } := by
  simp only [createTaskComment, bind_eq_ok] at h
  obtain ⟨ctx, -, board, hread, task, hfound, h⟩ := h
  obtain ⟨hboard, rfl⟩ := getBoardForActor_eq_ok hread
  obtain ⟨htask, rfl, hon⟩ := getTaskOr404_eq_ok hfound
  refine ⟨board, ⟨hboard, task, htask, hon⟩, ?_⟩
  cases ctx <;>
  · obtain ⟨_, -, h⟩ := bind_eq_ok.mp h
    exact ⟨_, rfl, rfl, (pure_eq_ok.mp h).symm⟩

theorem deleteAgentRecord_writes (h : deleteAgentRecord db now agentId = .ok t) :
    (∀ hidden : Task → Bool, (∀ x ∈ db.tasks, x.assignedAgentId = some agentId →
        hidden x = true ∧ hidden (x.reset now) = true ∧ hidden (x.unassign now) = true) →
      t.tasks.deleteWhere hidden = db.tasks.deleteWhere hidden) ∧
    ∀ hidden : ActivityEvent → Bool, (∀ e, e.eventType ≠ .taskComment → hidden e = true) →
      (∀ e ∈ db.events, e.agentId = some agentId → hidden e = true ∧ hidden { e with agentId := none } = true) →
      (t.events.filter fun e => !hidden e) = db.events.filter fun e => !hidden e := by
  simp only [deleteAgentRecord, bind_eq_ok, orFail_eq_ok, pure_eq_ok] at h
  obtain ⟨agent, hagent, _, -, rfl⟩ := h
  obtain rfl : agent.id = agentId := Table.key_of_get? hagent
  refine ⟨fun hidden hhidden => ?_, fun hidden hother hhidden => ?_⟩
  · unfold releaseAgentTasks
    dsimp only
    rw [Table.updateWhere_rest, Table.updateWhere_rest]
    · intro x hx hsel
      obtain ⟨hold, hreset, -⟩ := hhidden x hx (of_decide_eq_true hsel).1
      exact ⟨hold, hreset⟩
    · intro x hx hsel
      obtain ⟨hassigned, hstatus⟩ := of_decide_eq_true hsel
      obtain ⟨y, hy, hwas⟩ := Table.mem_updateWhere.mp hx
      split at hwas
      · -- what was stopped has no assignee any more
        subst hwas
        cases hassigned
      · subst hwas
        obtain ⟨hold, -, hunassigned⟩ := hhidden y hy hassigned
        exact ⟨hold, hunassigned⟩
  · have hclear : ∀ events : List ActivityEvent,
        (∀ e ∈ events, e.agentId = some agent.id → hidden e = true ∧ hidden { e with agentId := none } = true) →
          ((clearAgent events agent.id).filter fun e => !hidden e) = events.filter fun e => !hidden e := by
      intro events hevents
      induction events with
      | nil => rfl
      | cons e events ih =>
        have hrest := ih fun e he => hevents e (List.mem_cons_of_mem _ he)
        unfold clearAgent at hrest ⊢
        rw [List.map_cons, List.filter_cons, List.filter_cons, hrest]
        split
        · rename_i hnamed
          obtain ⟨hold, hcleared⟩ := hevents e List.mem_cons_self hnamed
          simp [hold, hcleared]
        · rfl
    dsimp only
    rw [hclear, List.filter_append]
    · have hdeleted : ∀ e : ActivityEvent, e.eventType = .agentDeleted → hidden e = true := by
        intro e he
        apply hother
        rw [he]
        simp
      simp [hdeleted]
    · intro e he hnamed
      rcases List.mem_append.mp he with hold | hnew
      · exact hhidden e hold hnamed
      · obtain rfl := List.mem_singleton.mp hnew
        cases hnamed

end Calls

end SiloForge
