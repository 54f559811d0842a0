import SiloForge.Tasks.Update

/-!
# What a PATCH of a task does

`updateTask` has three rule sets; the claims about task statuses need the same few facts of each of them.

* `PatchRules` : what holds of the row every accepted PATCH stores: the gates it passed, why its status is
  another one, and what is left of a blocked task;
* `updateTask_eq_ok` : the states a PATCH commits, and `PatchRules` for the row in them.
-/

namespace SiloForge

open Lib

def Kept (task task' : Task) : Prop :=
  task'.status = task.status ∧ task'.assignedAgentId = task.assignedAgentId ∧
    task'.inProgressAt = task.inProgressAt

def AtRest (task : Task) : Prop :=
  task.status = .inbox ∧ task.assignedAgentId = none ∧ task.inProgressAt = none

def ActorContext.isLead : ActorContext → Bool
  | .user _ => false
  | .agent a => a.isBoardLead

/-- A row with the key, board and title checks of a PATCH. -/
structure SameTask (task task' : Task) : Prop where
  id : task'.id = task.id
  boardId : task'.boardId = task.boardId

namespace SameTask

theorem refl (task : Task) : SameTask task task := ⟨rfl, rfl⟩

theorem trans {a b c : Task} (h₁ : SameTask a b) (h₂ : SameTask b c) : SameTask a c :=
  ⟨h₂.id.trans h₁.id, h₂.boardId.trans h₁.boardId⟩

end SameTask

/-- Why the stored status is another one: the request asked for it, or a user's request left the task
blocked. -/
def StatusReason (update : TaskUpdateInput) (actor : ActorContext) (blockedIds : List Uuid) (task' : Task) : Prop :=
  task'.status = update.task.status ∨ update.statusRequested = true ∨
    (task'.status = .inbox ∧ blockedIds ≠ [] ∧ actor.isUser = true)

/-- What is left of a task whose dependencies block it. -/
inductive BlockedOutcome (update : TaskUpdateInput) (actor : ActorContext) (task' : Task) : Prop
  | rest (h : AtRest task')
  | done (before : update.task.status = .done) (after : task'.status = .done)
  | kept (h : Kept update.task task') (lead : update.updates.dependsOnTaskIds ≠ none → actor.isLead = true)

/-- What holds of the row an accepted PATCH stores. -/
structure PatchRules (db : Db) (update : TaskUpdateInput) (actor : ActorContext)
    (dependencies : Table TaskDependency) (task' : Task) : Prop where
  same : SameTask update.task task'
  gates : statusGates db update task'.status = .ok ()
  effective : ∃ search effectiveDeps, effectiveDependencies search db update = .ok (dependencies, effectiveDeps) ∧
    StatusReason update actor (taskBlockedIds db update.boardId effectiveDeps) task' ∧
    (taskBlockedIds db update.boardId effectiveDeps = [] ∨ BlockedOutcome update actor task')

variable {db stored : Db} {update : TaskUpdateInput} {task' : Task} {texts : Texts} {row : AdminUpdate}
  {search : CycleSearch}

theorem statusGates_eq_ok {targetStatus : TaskStatus} (h : statusGates db update targetStatus = .ok ()) :
    requireNoPendingApprovalForStatusChangeWhenEnabled db update.boardId update.task.id update.task.status
        targetStatus update.statusRequested = .ok () ∧
      requireApprovedLinkedApprovalForDone db update.boardId update.task.id update.task.status targetStatus
        = .ok () := by
  simp only [statusGates, bind_eq_ok] at h
  obtain ⟨_, hpending, _, -, happroved⟩ := h
  exact ⟨hpending, happroved⟩

theorem statusRequested_of_ne {s : TaskStatus} (h : update.updates.status = some s) (hne : s ≠ update.task.status) :
    update.statusRequested = true := by
  simp [TaskUpdateInput.statusRequested, h, hne]

theorem effectiveDependencies_eq_ok {dependencies : Table TaskDependency} {effectiveDeps : List Uuid}
    (h : effectiveDependencies search db update = .ok (dependencies, effectiveDeps)) :
    (update.updates.dependsOnTaskIds = none ∧ dependencies = db.dependencies ∧
        effectiveDeps = taskDepIds db update.boardId update.task.id) ∨
      ∃ dependsOn, update.updates.dependsOnTaskIds = some dependsOn ∧ update.task.status ≠ .done ∧
        validateDependencyUpdate search db update.boardId update.task.id dependsOn = .ok effectiveDeps ∧
        writeTaskDependencies db.dependencies update.boardId update.task.id effectiveDeps = .ok dependencies := by
  unfold effectiveDependencies at h
  split at h
  · rename_i hnone
    obtain ⟨rfl, rfl⟩ := Prod.mk.inj (Except.ok.inj h)
    exact .inl ⟨hnone, rfl, rfl⟩
  · rename_i dependsOn hsome
    simp only [bind_eq_ok, require_eq_ok] at h
    obtain ⟨_, hopen, h⟩ := h
    exact .inr ⟨dependsOn, hsome, hopen, replaceTaskDependencies_eq_ok h⟩

/-! ## Leads -/

theorem leadApplyStatus_eq_ok {lead : Agent} {assigned : Option Uuid}
    (h : leadApplyStatus db update lead assigned = .ok task') :
    SameTask update.task task' ∧ (task'.status = update.task.status ∨ update.statusRequested = true) ∧
      (update.updates.status = none → task' = { update.task with assignedAgentId := assigned }) := by
  dsimp only [leadApplyStatus] at h
  split at h
  · rename_i hnone
    obtain rfl := Except.ok.inj h
    exact ⟨⟨rfl, rfl⟩, .inl rfl, fun _ => rfl⟩
  · rename_i target hsome
    have hask : ∀ t : Task, t.status = target → t.status = update.task.status ∨ update.statusRequested = true := by
      intro t ht
      by_cases heq : target = update.task.status
      · exact .inl (ht.trans heq)
      · exact .inr (statusRequested_of_ne hsome heq)
    have hne : update.updates.status = none → task' = { update.task with assignedAgentId := assigned } := by
      intro hnone
      rw [hsome] at hnone
      cases hnone
    split at h
    · split at h
      · obtain rfl := Except.ok.inj h
        exact ⟨⟨rfl, rfl⟩, hask _ rfl, hne⟩
      · cases h
    · split at h
      · cases h
      · split at h
        · obtain rfl := Except.ok.inj h
          exact ⟨⟨rfl, rfl⟩, hask _ rfl, hne⟩
        · obtain rfl := Except.ok.inj h
          exact ⟨⟨rfl, rfl⟩, hask _ rfl, hne⟩

theorem leadApplyAssignment_none {assigned : Option Uuid} (hnone : update.updates.assignedAgentId = none)
    (h : leadApplyAssignment db update = .ok assigned) :
    assigned = update.task.assignedAgentId := by
  rw [leadApplyAssignment, hnone] at h
  exact (Except.ok.inj h).symm

theorem applyLeadTaskUpdate_eq_ok {db' : Db} {lead : Agent} (hlead : lead.isBoardLead = true)
    (h : applyLeadTaskUpdate texts db update lead = .ok db') :
    ∃ task' dependencies tagAssignments customFieldValues,
      PatchRules db update (.agent lead) dependencies task' ∧
      db' = recordTaskUpdate
        { db with tasks := db.tasks.put task', dependencies, tagAssignments, customFieldValues }
        update task' (some lead.id) := by
  simp only [applyLeadTaskUpdate, bind_eq_ok, require_eq_ok, pure_eq_ok] at h
  obtain ⟨_, -, ⟨dependencies, effectiveDeps⟩, heff, tagIds, -, _, hblocked, assigned, hassigned, task, htask,
    _, hgates, tagAssignments, -, customFieldValues, -, rfl⟩ := h
  obtain ⟨hsame, hstatus, hnone⟩ := leadApplyStatus_eq_ok htask
  refine ⟨{ task with updatedAt := update.now }, dependencies, tagAssignments, customFieldValues,
    ⟨⟨hsame.id, hsame.boardId⟩, hgates, _, effectiveDeps, heff, ?_, ?_⟩, rfl⟩
  · rcases hstatus with hs | hs
    · exact .inl hs
    · exact .inr (.inl hs)
  · rcases hblocked with hb | ⟨ha, hs⟩
    · exact .inl hb
    · right
      refine .kept ?_ fun _ => hlead
      rw [hnone hs, leadApplyAssignment_none ha hassigned]
      exact ⟨rfl, rfl, rfl⟩

/-! ## Storing -/

theorem setFields_eq_ok {task : Task} {updates : TaskUpdate} (h : setFields task updates = .ok task') :
    SameTask task task' ∧ task'.status = updates.status.getD task.status ∧
      task'.assignedAgentId = updates.assignedAgentId.getD task.assignedAgentId ∧
      task'.inProgressAt = task.inProgressAt := by
  simp only [setFields, bind_eq_ok, pure_eq_ok] at h
  obtain ⟨_, -, _, -, rfl⟩ := h
  exact ⟨⟨rfl, rfl⟩, rfl, rfl, rfl⟩

theorem assignReviewTaskToLead_same (db : Db) (update : TaskUpdateInput) (task : Task) :
    SameTask task (assignReviewTaskToLead db update task) ∧
      (assignReviewTaskToLead db update task).status = task.status ∧
      (assignReviewTaskToLead db update task).inProgressAt = task.inProgressAt := by
  unfold assignReviewTaskToLead
  split
  · split <;> exact ⟨⟨rfl, rfl⟩, rfl, rfl⟩
  · exact ⟨⟨rfl, rfl⟩, rfl, rfl⟩

theorem assignReviewTaskToLead_assigned {task : Task} (h : task.status = .review → update.task.status = .review) :
    (assignReviewTaskToLead db update task).assignedAgentId = task.assignedAgentId := by
  rw [assignReviewTaskToLead, if_neg fun hn => hn.2 (h hn.1)]

structure StoredFields (db : Db) (update : TaskUpdateInput) (row : AdminUpdate) (task' : Task) : Prop where
  same : SameTask row.task task'
  status : task'.status = row.updates.status.getD row.task.status
  inProgressAt : task'.inProgressAt = row.task.inProgressAt
  assigned : (task'.status = .review → update.task.status = .review) →
    task'.assignedAgentId = row.updates.assignedAgentId.getD row.task.assignedAgentId
  gates : statusGates db update task'.status = .ok ()

theorem storeUpdatedTask_eq_ok (h : storeUpdatedTask texts db update row = .ok (stored, task')) :
    StoredFields db update row task' ∧ ∃ tagAssignments customFieldValues,
      stored = { db with
        tasks := db.tasks.put task', dependencies := row.dependencies, tagAssignments, customFieldValues } := by
  simp only [storeUpdatedTask, bind_eq_ok, pure_eq_ok] at h
  obtain ⟨task, htask, _, hgates, _, -, tagAssignments, -, customFieldValues, -, heq⟩ := h
  obtain ⟨rfl, rfl⟩ := Prod.mk.inj heq
  obtain ⟨hsame, hstatus, hassigned, hprogress⟩ := setFields_eq_ok htask
  obtain ⟨hsame', hstatus', hprogress'⟩ :=
    assignReviewTaskToLead_same db update { task with updatedAt := update.now }
  refine ⟨⟨hsame.trans ⟨hsame'.id, hsame'.boardId⟩, hstatus'.trans hstatus, hprogress'.trans hprogress, ?_, ?_⟩,
    tagAssignments, customFieldValues, rfl⟩
  · intro hreview
    rw [hstatus'] at hreview
    exact (assignReviewTaskToLead_assigned hreview).trans hassigned
  · rw [hstatus']
    exact hgates

def storedState (db : Db) (task' : Task) (dependencies : Table TaskDependency)
    (tagAssignments : Table TagAssignment) (customFieldValues : Table TaskCustomFieldValue) : Db :=
  { db with tasks := db.tasks.put task', dependencies, tagAssignments, customFieldValues }

theorem storeUpdatedTask_parts (h : storeUpdatedTask texts db update row = .ok (stored, task')) :
    storeTags db update row.tagIds = .ok stored.tagAssignments ∧
      storeCustomFieldValues texts db update = .ok stored.customFieldValues ∧
      stored = storedState db task' row.dependencies stored.tagAssignments stored.customFieldValues := by
  simp only [storeUpdatedTask, bind_eq_ok, pure_eq_ok] at h
  obtain ⟨task, -, _, -, _, -, tags, htags, values, hvalues, heq⟩ := h
  obtain ⟨rfl, rfl⟩ := Prod.mk.inj heq
  exact ⟨htags, hvalues, rfl⟩

/-- The commits of an update that is not a lead's: the stored state, with rows added to the log, and last
the reconciled one. -/
theorem finalizeUpdatedTask_eq_ok {actorAgentId : Option Uuid} {commits : List Db}
    (h : finalizeUpdatedTask texts db update row actorAgentId = .ok commits) :
    ∃ stored task', storeUpdatedTask texts db update row = .ok (stored, task') ∧
      ∃ pre events, commits = pre ++ [recordTaskUpdate { stored with events } update task' actorAgentId] ∧
        ∀ t ∈ pre, ∃ events, t = { stored with events } := by
  simp only [finalizeUpdatedTask, bind_eq_ok] at h
  obtain ⟨⟨stored, task'⟩, hstore, h⟩ := h
  refine ⟨stored, task', hstore, ?_⟩
  split at h
  · obtain rfl := pure_eq_ok.mp h
    exact ⟨[stored], stored.events, rfl, fun t ht => ⟨stored.events, by simpa using ht⟩⟩
  · rename_i comment _
    obtain rfl := pure_eq_ok.mp h
    refine ⟨[stored, recordTaskComment stored update actorAgentId comment], _, rfl, ?_⟩
    intro t ht
    rcases List.mem_cons.mp ht with rfl | ht
    · exact ⟨t.events, rfl⟩
    · obtain rfl := List.mem_singleton.mp ht
      exact ⟨_, rfl⟩

/-! ## Other agents -/

theorem claimTask_same (task : Task) (agent : Agent) (now : Time) (s : TaskStatus) :
    SameTask task (claimTask task agent now s) := by
  cases s <;> exact ⟨rfl, rfl⟩

theorem applyNonLeadAgentTaskRules_eq_ok {agent : Agent} {row : Task}
    (h : applyNonLeadAgentTaskRules db update agent = .ok row) :
    agentMaySet update.updates ∧
      (update.updates.status = none ∧ row = update.task ∨
        ∃ s, update.updates.status = some s ∧ row = claimTask update.task agent update.now s ∧
          (s = .inbox ∨ taskBlockedIds db update.boardId (taskDepIds db update.boardId update.task.id) = [])) := by
  simp only [applyNonLeadAgentTaskRules, bind_eq_ok, require_eq_ok] at h
  obtain ⟨_, -, _, -, _, hfields, h⟩ := h
  refine ⟨hfields, ?_⟩
  split at h
  · rename_i hnone
    exact .inl ⟨hnone, (pure_eq_ok.mp h).symm⟩
  · rename_i s hsome
    simp only [bind_eq_ok, require_eq_ok, pure_eq_ok] at h
    obtain ⟨_, -, _, hblocked, rfl⟩ := h
    exact .inr ⟨s, hsome, rfl, hblocked⟩

theorem applyNonLeadAgentTaskRules_same {agent : Agent} {row : Task}
    (h : applyNonLeadAgentTaskRules db update agent = .ok row) : SameTask update.task row := by
  obtain ⟨-, ⟨-, rfl⟩ | ⟨s, -, rfl, -⟩⟩ := applyNonLeadAgentTaskRules_eq_ok h
  · exact .refl _
  · exact claimTask_same _ _ _ _

theorem agent_patchRules {agent : Agent} {row : Task} (hrow : applyNonLeadAgentTaskRules db update agent = .ok row)
    (hstore : storeUpdatedTask texts db update
      { task := row, updates := update.updates, dependencies := db.dependencies, tagIds := none }
      = .ok (stored, task')) :
    PatchRules db update (.agent agent) db.dependencies task' := by
  obtain ⟨⟨hdeps, -, -, -, -, -, hassign⟩, hcases⟩ := applyNonLeadAgentTaskRules_eq_ok hrow
  obtain ⟨⟨hsame, hstatus, hprogress, hassigned, hgates⟩, -⟩ := storeUpdatedTask_eq_ok hstore
  have heff : effectiveDependencies texts.search db update
      = .ok (db.dependencies, taskDepIds db update.boardId update.task.id) := by
    rw [effectiveDependencies, hdeps]
  simp only [hassign, Option.getD_none] at hassigned
  rcases hcases with ⟨hnone, rfl⟩ | ⟨s, hsome, rfl, hblocked⟩
  · simp only [hnone, Option.getD_none] at hstatus
    have hkept : Kept update.task task' :=
      ⟨hstatus, hassigned fun hr => hstatus ▸ hr, hprogress⟩
    exact ⟨hsame, hgates, _, _, heff, .inl hstatus, .inr (.kept hkept fun hne => absurd hdeps hne)⟩
  · simp only [hsome, Option.getD_some] at hstatus
    refine ⟨(claimTask_same _ _ _ _).trans hsame, hgates, _, _, heff, ?_, ?_⟩
    · by_cases heq : s = update.task.status
      · exact .inl (hstatus.trans heq)
      · exact .inr (.inl (statusRequested_of_ne hsome heq))
    · rcases hblocked with rfl | hnil
      · refine .inr (.rest ⟨hstatus, hassigned fun hr => ?_, hprogress⟩)
        rw [hstatus] at hr
        cases hr
      · exact .inl hnil

/-! ## Users -/

theorem moveTask_same (task : Task) (now : Time) (s : Option TaskStatus) :
    SameTask task (moveTask task now s) ∧ (moveTask task now s).status = task.status := by
  unfold moveTask
  split <;> exact ⟨⟨rfl, rfl⟩, rfl⟩

/-- The row of a user's rules: reset and moved to the inbox where it is blocked, unless it is done and stays so, or else
moved as requested. -/
theorem applyAdminTaskRules_row (h : applyAdminTaskRules search db update = .ok row) :
    normalizedUpdateTagIds db update = .ok row.tagIds ∧
    ∃ effectiveDeps, effectiveDependencies search db update = .ok (row.dependencies, effectiveDeps) ∧
      ((taskBlockedIds db update.boardId effectiveDeps ≠ [] ∧
          ¬ (update.task.status = .done ∧ update.updates.status.getD update.task.status = .done)) ∧
          row.updates = { update.updates with status := some .inbox, assignedAgentId := some none } ∧
          row.task = moveTask { update.task with status := .inbox, assignedAgentId := none, inProgressAt := none }
            update.now (some .inbox) ∨
        ¬ (taskBlockedIds db update.boardId effectiveDeps ≠ [] ∧
          ¬ (update.task.status = .done ∧ update.updates.status.getD update.task.status = .done)) ∧
          row.updates = update.updates ∧ row.task = moveTask update.task update.now update.updates.status) := by
  simp only [applyAdminTaskRules, bind_eq_ok] at h
  obtain ⟨tagIds, htags, ⟨dependencies, effectiveDeps⟩, heff, h⟩ := h
  by_cases hblocked : taskBlockedIds db update.boardId effectiveDeps ≠ [] ∧
      ¬ (update.task.status = .done ∧ update.updates.status.getD update.task.status = .done)
  · simp only [if_pos hblocked] at h
    obtain rfl := pure_eq_ok.mp h
    exact ⟨htags, effectiveDeps, heff, .inl ⟨hblocked, rfl, rfl⟩⟩
  · simp only [if_neg hblocked] at h
    have hrow : row = AdminUpdate.mk (moveTask update.task update.now update.updates.status) update.updates
        dependencies tagIds := by
      split at h
      · exact (pure_eq_ok.mp h).symm
      · simp only [bind_eq_ok, pure_eq_ok] at h
        obtain ⟨_, -, _, -, h⟩ := h
        exact h.symm
    subst hrow
    exact ⟨htags, effectiveDeps, heff, .inr ⟨hblocked, rfl, rfl⟩⟩

/-- The rules of a user reset a blocked task, unless it is done and stays so, and move another one. -/
theorem applyAdminTaskRules_eq_ok (h : applyAdminTaskRules search db update = .ok row) :
    ∃ effectiveDeps, effectiveDependencies search db update = .ok (row.dependencies, effectiveDeps) ∧
      (taskBlockedIds db update.boardId effectiveDeps ≠ [] ∧ row.updates.status = some .inbox ∧
          row.updates.assignedAgentId = some none ∧ row.task.inProgressAt = none ∧
          SameTask update.task row.task ∨
        row.updates = update.updates ∧ row.task = moveTask update.task update.now update.updates.status ∧
          (taskBlockedIds db update.boardId effectiveDeps = [] ∨
            update.task.status = .done ∧ update.updates.status.getD update.task.status = .done)) := by
  obtain ⟨-, effectiveDeps, heff, ⟨hblocked, hupdates, htask⟩ | ⟨hfree, hupdates, htask⟩⟩ :=
    applyAdminTaskRules_row h
  · refine ⟨effectiveDeps, heff, .inl ⟨hblocked.1, ?_⟩⟩
    rw [hupdates, htask]
    exact ⟨rfl, rfl, rfl, ⟨rfl, rfl⟩⟩
  · rw [not_and_or, not_not, not_not] at hfree
    exact ⟨effectiveDeps, heff, .inr ⟨hupdates, htask, hfree⟩⟩

theorem applyAdminTaskRules_same (h : applyAdminTaskRules search db update = .ok row) : SameTask update.task row.task := by
  obtain ⟨_, -, ⟨-, -, -, -, hsame⟩ | ⟨-, hmoved, -⟩⟩ := applyAdminTaskRules_eq_ok h
  · exact hsame
  · exact hmoved ▸ (moveTask_same update.task update.now update.updates.status).1

theorem user_patchRules {userId : Uuid} (hrow : applyAdminTaskRules search db update = .ok row)
    (hstore : storeUpdatedTask texts db update row = .ok (stored, task')) :
    PatchRules db update (.user userId) row.dependencies task' := by
  obtain ⟨effectiveDeps, heff, hcases⟩ := applyAdminTaskRules_eq_ok hrow
  obtain ⟨⟨hsame, hstatus, hprogress, hassigned, hgates⟩, -⟩ := storeUpdatedTask_eq_ok hstore
  rcases hcases with ⟨hblocked, hinbox, hunassigned, hstopped, hrsame⟩ | ⟨hupdates, htask, hblocked⟩
  · rw [hinbox, Option.getD_some] at hstatus
    rw [hunassigned, Option.getD_some] at hassigned
    refine ⟨hrsame.trans hsame, hgates, _, effectiveDeps, heff, .inr (.inr ⟨hstatus, hblocked, rfl⟩), .inr (.rest ?_)⟩
    refine ⟨hstatus, hassigned fun hr => ?_, hprogress.trans hstopped⟩
    rw [hstatus] at hr
    cases hr
  · obtain ⟨hmoved, hmstatus⟩ := moveTask_same update.task update.now update.updates.status
    rw [← htask] at hmoved hmstatus
    rw [hupdates, hmstatus] at hstatus
    refine ⟨hmoved.trans hsame, hgates, _, effectiveDeps, heff, ?_, ?_⟩
    · cases hreq : update.updates.status with
      | none => exact .inl (by rw [hstatus, hreq, Option.getD_none])
      | some s =>
        rw [hreq, Option.getD_some] at hstatus
        by_cases heq : s = update.task.status
        · exact .inl (hstatus.trans heq)
        · exact .inr (.inl (statusRequested_of_ne hreq heq))
    · rcases hblocked with hnil | ⟨hdone, htarget⟩
      · exact .inl hnil
      · exact .inr (.done hdone (hstatus.trans htarget))

/-- **What a PATCH commits**: states that store a row obeying `PatchRules`, the last one with the dependents
reconciled. -/
theorem updateTask_eq_ok {now : Time} {boardId taskId : Uuid} {actor : Actor} {payload : TaskUpdate}
    {commits : List Db} (h : updateTask texts db now boardId taskId actor payload = .ok commits) :
    ∃ ctx task board task' dependencies tagAssignments customFieldValues,
      requireUserOrAgent db actor = .ok ctx ∧
      db.tasks.get? taskId = some task ∧ task.id = taskId ∧ task.boardId = some boardId ∧
      db.boards.get? boardId = some board ∧
      PatchRules db { task, boardId, now, updates := payload } ctx dependencies task' ∧
      ∃ pre events agentId,
        commits = pre ++ [recordTaskUpdate
          { storedState db task' dependencies tagAssignments customFieldValues with events }
          { task, boardId, now, updates := payload } task' agentId] ∧
        ∀ t ∈ pre, ∃ events,
          t = { storedState db task' dependencies tagAssignments customFieldValues with events } := by
  simp only [updateTask, bind_eq_ok] at h
  obtain ⟨ctx, hctx, board, hread, task, hfound, h⟩ := h
  obtain ⟨hboard, rfl⟩ := getBoardForActor_eq_ok hread
  obtain ⟨htask, rfl, hon⟩ := getTaskOr404_eq_ok hfound
  cases ctx with
  | user userId =>
    simp only [bind_eq_ok] at h
    obtain ⟨_, -, row, hrow, h⟩ := h
    obtain ⟨stored, task', hstore, pre, events, hcommits, hpre⟩ := finalizeUpdatedTask_eq_ok h
    obtain ⟨-, tagAssignments, customFieldValues, rfl⟩ := storeUpdatedTask_eq_ok hstore
    exact ⟨_, task, board, task', row.dependencies, tagAssignments, customFieldValues, hctx, htask, rfl, hon,
      hboard, user_patchRules hrow hstore, pre, events, _, hcommits, hpre⟩
  | agent agent =>
    dsimp only at h
    split at h
    · rename_i hlead
      simp only [bind_eq_ok, pure_eq_ok] at h
      obtain ⟨db', hdb', rfl⟩ := h
      obtain ⟨task', dependencies, tagAssignments, customFieldValues, hrules, rfl⟩ :=
        applyLeadTaskUpdate_eq_ok hlead hdb'
      exact ⟨_, task, board, task', dependencies, tagAssignments, customFieldValues, hctx, htask, rfl, hon,
        hboard, hrules, [], db.events, _, rfl, by simp⟩
    · simp only [bind_eq_ok] at h
      obtain ⟨row, hrow, h⟩ := h
      obtain ⟨stored, task', hstore, pre, events, hcommits, hpre⟩ := finalizeUpdatedTask_eq_ok h
      obtain ⟨-, tagAssignments, customFieldValues, rfl⟩ := storeUpdatedTask_eq_ok hstore
      exact ⟨_, task, board, task', db.dependencies, tagAssignments, customFieldValues, hctx, htask, rfl, hon,
        hboard, agent_patchRules hrow hstore, pre, events, _, hcommits, hpre⟩

end SiloForge
