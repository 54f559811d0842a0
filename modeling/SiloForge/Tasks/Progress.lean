import SiloForge.Tasks.Times

/-!
# What a PATCH makes of a task

The status, the assignee and the times after a PATCH, as a function of those before it. The rules of a user and those of
an agent that leads no board differ in what blocks them, and in whose the task is afterwards.

* `TaskProgress.patch` : the function; `user_progress`, `agent_progress`: the rules compute it;
* `TaskProgress.MovesOnce` : the second of two requests finds nothing to write;
* `TaskProgress.patch_patch_iff` : the function applied again changes nothing exactly where the request resets a blocked
  task, or moves it once.
-/

namespace SiloForge

open Lib

/-! ## Status, assignee and times -/

structure TaskProgress where
  status : TaskStatus
  assignedAgentId : Option Uuid
  inProgressAt : Option Time
  previousInProgressAt : Option Time
  deriving DecidableEq

def Task.progress (task : Task) : TaskProgress where
  status := task.status
  assignedAgentId := task.assignedAgentId
  inProgressAt := task.inProgressAt
  previousInProgressAt := task.previousInProgressAt

/-- What a PATCH finds beside the row: whether the dependencies in force block a user's request, the lead of the
board, and who asks. -/
structure PatchSetting where
  blocked : Bool
  leadId : Option Uuid
  actor : ActorContext

namespace TaskProgress

/-- The request sends a blocked task back to the inbox: always, unless it is done and stays so. -/
def Resets (blocked : Bool) (updates : TaskUpdate) (p : TaskProgress) : Prop :=
  blocked = true ∧ ¬ (p.status = .done ∧ updates.status.getD p.status = .done)

instance (blocked : Bool) (updates : TaskUpdate) (p : TaskProgress) : Decidable (Resets blocked updates p) :=
  inferInstanceAs (Decidable (_ ∧ _))

/-- Whose the task is once the actor starts or finishes it. -/
def claimant (actor : ActorContext) (p : TaskProgress) : Option Uuid :=
  match actor with
  | .user _ => p.assignedAgentId
  | .agent agent => some agent.id

/-- The columns once a request that asks for `status` is stored. -/
def move (setting : PatchSetting) (now : Time) (assigned : Option (Option Uuid)) (p : TaskProgress) :
    Option TaskStatus → TaskProgress
  | none => { p with assignedAgentId := assigned.getD p.assignedAgentId }
  | some .inbox => ⟨.inbox, assigned.getD none, none, p.inProgressAt⟩
  | some .inProgress => ⟨.inProgress, assigned.getD (claimant setting.actor p), some now, p.previousInProgressAt⟩
  | some .review =>
    ⟨.review, if p.status = .review then assigned.getD none else setting.leadId.or (assigned.getD none), none,
      p.inProgressAt⟩
  | some .done => ⟨.done, assigned.getD (claimant setting.actor p), p.inProgressAt, p.previousInProgressAt⟩

def patch (setting : PatchSetting) (now : Time) (updates : TaskUpdate) (p : TaskProgress) : TaskProgress :=
  if Resets setting.blocked updates p then ⟨.inbox, none, none, none⟩
  else p.move setting now updates.assignedAgentId updates.status

/-- The rules write nothing the second time: the request asks for no status or for `done`, for
`in_progress` at the same time, for `inbox` of a task that was not started, or for `review` of such
a task whose assignee stays. -/
def MovesOnce (leadId : Option Uuid) (now now' : Time) (assigned : Option (Option Uuid)) (p : TaskProgress) :
    Option TaskStatus → Prop
  | none | some .done => True
  | some .inProgress => now' = now
  | some .inbox => p.inProgressAt = none
  | some .review => p.inProgressAt = none ∧ (p.status = .review ∨ leadId = none ∨ leadId = assigned.join)

instance (leadId : Option Uuid) (now now' : Time) (assigned : Option (Option Uuid)) (p : TaskProgress)
    (status : Option TaskStatus) : Decidable (MovesOnce leadId now now' assigned p status) :=
  match status with
  | none | some .done => isTrue trivial
  | some .inProgress => inferInstanceAs (Decidable (now' = now))
  | some .inbox => inferInstanceAs (Decidable (p.inProgressAt = none))
  | some .review => inferInstanceAs (Decidable (_ ∧ _))

theorem status_move (setting : PatchSetting) (now : Time) (assigned : Option (Option Uuid)) (p : TaskProgress)
    (status : Option TaskStatus) : (p.move setting now assigned status).status = status.getD p.status := by
  cases status with
  | none => rfl
  | some s => cases s <;> rfl

variable {assigned : Option (Option Uuid)} {p : TaskProgress} {setting : PatchSetting} {now : Time}
  {updates : TaskUpdate}

theorem claimant_again {actor : ActorContext} {q : TaskProgress}
    (h : q.assignedAgentId = assigned.getD (claimant actor p)) :
    assigned.getD (claimant actor q) = assigned.getD (claimant actor p) := by
  cases actor with
  | user userId =>
    rw [show claimant (.user userId) q = q.assignedAgentId from rfl, h]
    cases assigned <;> rfl
  | agent agent => rfl

theorem or_eq_right_iff {a b : Option Uuid} : b = a.or b ↔ a = none ∨ a = b := by
  cases a with
  | none => simp
  | some x => simp [eq_comm]

/-- A move made again leaves the task as it is, exactly where it moves once. -/
theorem move_move_iff {now' : Time} {status : Option TaskStatus} :
    (p.move setting now assigned status).move setting now' assigned status = p.move setting now assigned status ↔
      MovesOnce setting.leadId now now' assigned p status := by
  cases status with
  | none => cases assigned <;> simp [move, MovesOnce]
  | some s =>
    cases s with
    | inbox => simp [move, MovesOnce, eq_comm]
    | inProgress =>
      have hclaimed := claimant_again (q := p.move setting now assigned (some .inProgress)) rfl
      simp only [move] at hclaimed
      simp [move, MovesOnce, hclaimed]
    | review =>
      have hjoin : assigned.getD none = assigned.join := by cases assigned <;> rfl
      by_cases hreview : p.status = .review
      · simp [move, MovesOnce, hreview, eq_comm]
      · simp [move, MovesOnce, hreview, hjoin, or_eq_right_iff, eq_comm (a := none), and_comm]
    | done =>
      have hclaimed := claimant_again (q := p.move setting now assigned (some .done)) rfl
      simp only [move] at hclaimed
      simp [move, MovesOnce, hclaimed]

theorem patch_of_resets (h : Resets setting.blocked updates p) :
    p.patch setting now updates = ⟨.inbox, none, none, none⟩ := if_pos h

theorem patch_of_not_resets (h : ¬ Resets setting.blocked updates p) :
    p.patch setting now updates = p.move setting now updates.assignedAgentId updates.status := if_neg h

/-- **A PATCH made again leaves the task as it is** exactly where it resets a blocked task, or moves once. -/
theorem patch_patch_iff {now' : Time} :
    (p.patch setting now updates).patch setting now' updates = p.patch setting now updates ↔
      Resets setting.blocked updates p ∨
        MovesOnce setting.leadId now now' updates.assignedAgentId p updates.status := by
  by_cases hresets : Resets setting.blocked updates p
  · have hagain : Resets setting.blocked updates ⟨.inbox, none, none, none⟩ := ⟨hresets.1, fun hdone => nomatch hdone.1⟩
    rw [patch_of_resets hresets, patch_of_resets hagain]
    exact iff_of_true rfl (.inl hresets)
  · have hagain : ¬ Resets setting.blocked updates (p.move setting now updates.assignedAgentId updates.status) := by
      rintro ⟨hblocked, hopen⟩
      refine hresets ⟨hblocked, fun hdone => hopen ?_⟩
      rw [status_move, hdone.2]
      cases hstatus : updates.status with
      | none => exact ⟨rfl, rfl⟩
      | some s =>
        rw [hstatus] at hdone
        exact ⟨rfl, hdone.2⟩
    rw [patch_of_not_resets hresets, patch_of_not_resets hagain, move_move_iff, or_iff_right hresets]

end TaskProgress

/-! ## The rules compute it -/

def reviewLead (db : Db) (boardId : Uuid) : Option Uuid :=
  (db.agents.rows.find? fun a => a.boardId = some boardId ∧ a.isBoardLead).map (·.id)

def settingOf (db : Db) (update : TaskUpdateInput) (actor : ActorContext) : PatchSetting where
  blocked := actor.isUser && leavesBlocked db update
  leadId := reviewLead db update.boardId
  actor := actor

variable {search : CycleSearch} {db stored : Db} {update : TaskUpdateInput} {texts : Texts} {row : AdminUpdate} {task' : Task}

theorem assignReviewTaskToLead_entering {task : Task} (h : task.status = .review ∧ update.task.status ≠ .review) :
    (assignReviewTaskToLead db update task).assignedAgentId =
      (reviewLead db update.boardId).or task.assignedAgentId := by
  unfold assignReviewTaskToLead reviewLead
  rw [if_pos h]
  split
  · rename_i hnone
    rw [hnone]
    rfl
  · rename_i lead hlead
    rw [hlead]
    rfl

theorem storeUpdatedTask_progress (h : storeUpdatedTask texts db update row = .ok (stored, task')) :
    task'.status = row.updates.status.getD row.task.status ∧ task'.inProgressAt = row.task.inProgressAt ∧
      task'.previousInProgressAt = row.task.previousInProgressAt ∧
      task'.assignedAgentId =
        if task'.status = .review ∧ update.task.status ≠ .review then
          (reviewLead db update.boardId).or (row.updates.assignedAgentId.getD row.task.assignedAgentId)
        else row.updates.assignedAgentId.getD row.task.assignedAgentId := by
  obtain ⟨hfields, -⟩ := storeUpdatedTask_eq_ok h
  refine ⟨hfields.status, hfields.inProgressAt, (storeUpdatedTask_times h).1, ?_⟩
  split
  · rename_i hentering
    simp only [storeUpdatedTask, setFields, bind_eq_ok, pure_eq_ok] at h
    obtain ⟨_, ⟨title, -, priority, -, rfl⟩, _, -, _, -, _, -, _, -, heq⟩ := h
    obtain ⟨-, rfl⟩ := Prod.mk.inj heq
    exact assignReviewTaskToLead_entering ⟨(assignReviewTaskToLead_same ..).2.1.symm.trans hentering.1, hentering.2⟩
  · rename_i hentering
    exact hfields.assigned fun hreview => not_not.mp fun hne => hentering ⟨hreview, hne⟩

/-- The row as the rules leave it where nothing is reset. -/
def movedRow (actor : ActorContext) (task : Task) (now : Time) : Option TaskStatus → Task
  | none => task
  | some status =>
    match actor with
    | .user _ => moveTask task now (some status)
    | .agent agent => claimTask task agent now status

theorem progress_of_moved {actor : ActorContext} (h : storeUpdatedTask texts db update row = .ok (stored, task'))
    (hupdates : row.updates = update.updates)
    (hrow : row.task = movedRow actor update.task update.now update.updates.status) :
    task'.progress =
      update.task.progress.move (settingOf db update actor) update.now update.updates.assignedAgentId
        update.updates.status := by
  obtain ⟨hstatus, htime, hprevious, hassigned⟩ := storeUpdatedTask_progress h
  rw [hrow] at hstatus htime hprevious hassigned
  rw [hupdates] at hstatus hassigned
  unfold Task.progress
  rw [hassigned, hstatus, htime, hprevious]
  cases update.updates.status with
  | none => simp [movedRow, TaskProgress.move]
  | some s =>
    cases s with
    | inbox => cases actor <;> simp [movedRow, moveTask, claimTask, TaskProgress.move]
    | inProgress =>
      cases actor <;> simp [movedRow, moveTask, claimTask, TaskProgress.move, TaskProgress.claimant, settingOf]
    | review =>
      by_cases hreview : update.task.status = .review
      · cases actor <;> simp [movedRow, moveTask, claimTask, TaskProgress.move, hreview]
      · cases actor <;> simp [movedRow, moveTask, claimTask, TaskProgress.move, settingOf, hreview]
    | done => cases actor <;> simp [movedRow, moveTask, claimTask, TaskProgress.move, TaskProgress.claimant, settingOf]

theorem leavesBlocked_iff {dependencies : Table TaskDependency} {deps : List Uuid}
    (heff : effectiveDependencies search db update = .ok (dependencies, deps)) :
    leavesBlocked db update = true ↔ taskBlockedIds db update.boardId deps ≠ [] := by
  unfold leavesBlocked
  rw [effectiveDependencies_deep heff]
  exact decide_eq_true_iff

theorem user_progress {userId : Uuid} (hrow : applyAdminTaskRules search db update = .ok row)
    (hstore : storeUpdatedTask texts db update row = .ok (stored, task')) :
    task'.progress =
      update.task.progress.patch (settingOf db update (.user userId)) update.now update.updates := by
  obtain ⟨-, deps, heff, hcases⟩ := applyAdminTaskRules_row hrow
  have hresets : TaskProgress.Resets (settingOf db update (.user userId)).blocked update.updates update.task.progress ↔
      taskBlockedIds db update.boardId deps ≠ [] ∧
        ¬ (update.task.status = .done ∧ update.updates.status.getD update.task.status = .done) :=
    and_congr_left' (leavesBlocked_iff heff)
  rcases hcases with ⟨hblocked, hupdates, htask⟩ | ⟨hfree, hupdates, htask⟩
  · obtain ⟨hstatus, htime, hprevious, hassigned⟩ := storeUpdatedTask_progress hstore
    rw [TaskProgress.patch_of_resets (hresets.mpr hblocked)]
    rw [hupdates, htask] at hstatus hassigned
    rw [htask] at htime hprevious
    have hinbox : task'.status = .inbox := hstatus
    have hnot : ¬ (task'.status = .review ∧ update.task.status ≠ .review) :=
      fun hreview => nomatch hinbox.symm.trans hreview.1
    rw [if_neg hnot] at hassigned
    unfold Task.progress
    rw [hinbox, htime, hprevious, hassigned]
    rfl
  · rw [TaskProgress.patch_of_not_resets (mt hresets.mp hfree)]
    refine progress_of_moved hstore hupdates (htask.trans ?_)
    cases update.updates.status <;> rfl

theorem agent_progress {agent : Agent} {row : Task} (hrow : applyNonLeadAgentTaskRules db update agent = .ok row)
    (hstore : storeUpdatedTask texts db update
      { task := row, updates := update.updates, dependencies := db.dependencies, tagIds := none }
      = .ok (stored, task')) :
    task'.progress =
      update.task.progress.patch (settingOf db update (.agent agent)) update.now update.updates := by
  have hfree : ¬ TaskProgress.Resets (settingOf db update (.agent agent)).blocked update.updates update.task.progress :=
    fun hresets => nomatch hresets.1
  rw [TaskProgress.patch_of_not_resets hfree]
  refine progress_of_moved hstore rfl ?_
  obtain ⟨-, ⟨hnone, rfl⟩ | ⟨s, hsome, rfl, -⟩⟩ := applyNonLeadAgentTaskRules_eq_ok hrow
  · rw [hnone]
    rfl
  · rw [hsome]
    rfl

end SiloForge
