import SiloForge.Tasks.Patched

/-!
# What a PATCH does to the times of a task

The three rule sets write the status, the time of the start and the one before it each in its own way.

* `PatchTimes` : the ways a PATCH leaves them; `lead_patchTimes`, `agent_patchTimes`, `user_patchTimes`: there is no
  other;
* `ReviewCommented` : the comment check of a move to review.
-/

namespace SiloForge

open Lib

def leavesBlocked (db : Db) (update : TaskUpdateInput) : Bool :=
  match effectiveDependencies (deepSearch db update.boardId) db update with
  | .ok (_, deps) => taskBlockedIds db update.boardId deps ≠ []
  | .error _ => false

variable {search : CycleSearch} {db : Db} {update : TaskUpdateInput} {dependencies : Table TaskDependency}
  {task' : Task} {row : AdminUpdate}

theorem effectiveDependencies_deep {deps : List Uuid}
    (h : effectiveDependencies search db update = .ok (dependencies, deps)) :
    effectiveDependencies (deepSearch db update.boardId) db update = .ok (dependencies, deps) := by
  unfold effectiveDependencies at h ⊢
  split at h
  · exact h
  · obtain ⟨_, hopen, h⟩ := bind_eq_ok.mp h
    obtain ⟨hvalid, hwrite⟩ := replaceTaskDependencies_eq_ok h
    refine bind_eq_ok.mpr ⟨(), hopen, ?_⟩
    exact bind_eq_ok.mpr ⟨deps, validateDependencyUpdate_deep hvalid, bind_eq_ok.mpr ⟨dependencies, hwrite, rfl⟩⟩

theorem leavesBlocked_of_ok {deps : List Uuid} (heff : effectiveDependencies search db update = .ok (dependencies, deps))
    (hblocked : taskBlockedIds db update.boardId deps ≠ []) : leavesBlocked db update = true := by
  unfold leavesBlocked
  rw [effectiveDependencies_deep heff]
  exact decide_eq_true hblocked

theorem leavesBlocked_eq_false_of_ok {deps : List Uuid}
    (heff : effectiveDependencies search db update = .ok (dependencies, deps))
    (hfree : taskBlockedIds db update.boardId deps = []) : leavesBlocked db update = false := by
  unfold leavesBlocked
  rw [effectiveDependencies_deep heff]
  exact decide_eq_false (not_not.mpr hfree)

/-- The agent whose comment is looked for: the one the request names, or the assignee before it. -/
def reviewCommentAuthor (update : TaskUpdateInput) : Option Uuid :=
  update.updates.assignedAgentId.join.or update.task.assignedAgentId

/-- Where the board's rule asks for it, the request has a comment, or there is a recent one. -/
def ReviewCommented (db : Db) (update : TaskUpdateInput) : Prop :=
  requireCommentForReviewWhenEnabled db update.boardId = true →
    update.updates.comment.any (!isBlank ·) = true ∨
      hasValidRecentComment db update.task.id (reviewCommentAuthor update) update.task.inProgressAt = true

inductive PatchTimes (db : Db) (update : TaskUpdateInput) (actor : ActorContext) (task' : Task) : Prop
  | kept (requested : update.updates.status = none) (status : task'.status = update.task.status)
      (time : task'.inProgressAt = update.task.inProgressAt)
  | finished (requested : update.updates.status = some .done) (status : task'.status = .done)
      (time : task'.inProgressAt = update.task.inProgressAt)
  | left (requested : update.updates.status = some task'.status) (status : task'.status = .inbox ∨ task'.status = .review)
      (time : task'.inProgressAt = none) (previous : task'.previousInProgressAt = update.task.inProgressAt)
      (commented : task'.status = .review → ReviewCommented db update)
      (unblocked : actor.isUser = true → leavesBlocked db update = false)
      (unassigned : actor.isUser = false → update.updates.assignedAgentId = none)
  | started (requested : update.updates.status = some .inProgress) (status : task'.status = .inProgress)
      (time : task'.inProgressAt = some update.now)
  | blocked (user : actor.isUser = true) (blocked : leavesBlocked db update = true)
      (target : update.task.status = .done → ∃ s, update.updates.status = some s ∧ s ≠ .done)
      (status : task'.status = .inbox) (time : task'.inProgressAt = none)
  | assigned (lead : actor.isLead = true) (requested : update.updates.status = some .inProgress)
      (before : update.task.status = .inbox) (status : task'.status = .inProgress)
      (time : task'.inProgressAt = update.task.inProgressAt)
  | returned (lead : actor.isLead = true) (before : update.task.status = .review) (status : task'.status = .inbox)
      (time : task'.inProgressAt = none)

theorem lead_patchTimes {lead : Agent} (hlead : lead.isBoardLead = true) {assigned : Option Uuid}
    (h : leadApplyStatus db update lead assigned = .ok task') :
    PatchTimes db update (.agent lead) { task' with updatedAt := update.now } := by
  dsimp only [leadApplyStatus] at h
  split at h
  · rename_i hrequested
    obtain rfl := Except.ok.inj h
    exact .kept hrequested rfl rfl
  · rename_i target hrequested
    split at h
    · split at h
      · rename_i hstarts
        obtain rfl := Except.ok.inj h
        exact .assigned hlead (hstarts.2.1 ▸ hrequested) hstarts.1 hstarts.2.1 rfl
      · cases h
    · rename_i hreview
      have hbefore : update.task.status = .review := not_not.mp hreview
      split at h
      · cases h
      · rename_i htarget
        split at h
        · rename_i hinbox
          obtain rfl := Except.ok.inj h
          exact .returned hlead hbefore hinbox rfl
        · rename_i hinbox
          obtain rfl := Except.ok.inj h
          have hdone : target = .done := by
            by_contra hne
            exact htarget ⟨hne, hinbox⟩
          exact .finished (hdone ▸ hrequested) hdone rfl

theorem assignReviewTaskToLead_previous (db : Db) (update : TaskUpdateInput) (task : Task) :
    (assignReviewTaskToLead db update task).previousInProgressAt = task.previousInProgressAt := by
  unfold assignReviewTaskToLead
  split
  · split <;> rfl
  · rfl

theorem storeUpdatedTask_times {texts : Texts} {stored : Db}
    (h : storeUpdatedTask texts db update row = .ok (stored, task')) :
    task'.previousInProgressAt = row.task.previousInProgressAt ∧
      (row.updates.status = some .review → requireCommentForReviewWhenEnabled db update.boardId = true →
        update.updates.comment.any (!isBlank ·) = true ∨
          hasValidRecentComment db row.task.id
            ((row.updates.assignedAgentId.getD row.task.assignedAgentId).or update.task.assignedAgentId)
            (row.task.previousInProgressAt.or update.task.inProgressAt) = true) := by
  simp only [storeUpdatedTask, setFields, bind_eq_ok, pure_eq_ok] at h
  obtain ⟨_, ⟨title, -, priority, -, rfl⟩, _, -, _, hcomment, _, -, _, -, heq⟩ := h
  obtain ⟨-, rfl⟩ := Prod.mk.inj heq
  refine ⟨assignReviewTaskToLead_previous .., fun hreview hrule => ?_⟩
  unfold requireReviewComment at hcomment
  rw [if_pos ⟨hreview, hrule⟩] at hcomment
  exact require_eq_ok.mp hcomment

theorem agent_patchTimes {texts : Texts} {stored : Db} {agent : Agent} {row : Task}
    (hrow : applyNonLeadAgentTaskRules db update agent = .ok row)
    (hstore : storeUpdatedTask texts db update
      { task := row, updates := update.updates, dependencies := db.dependencies, tagIds := none }
      = .ok (stored, task')) : PatchTimes db update (.agent agent) task' := by
  obtain ⟨⟨-, -, -, -, -, -, hassign⟩, hcases⟩ := applyNonLeadAgentTaskRules_eq_ok hrow
  obtain ⟨⟨-, hstatus, htime, -, -⟩, -⟩ := storeUpdatedTask_eq_ok hstore
  obtain ⟨hprevious, hcomment⟩ := storeUpdatedTask_times hstore
  rcases hcases with ⟨hnone, rfl⟩ | ⟨s, hsome, rfl, -⟩
  · rw [hnone, Option.getD_none] at hstatus
    exact .kept hnone hstatus htime
  · rw [hsome, Option.getD_some] at hstatus
    cases s with
    | inbox =>
      refine .left (hstatus ▸ hsome) (.inl hstatus) htime hprevious (fun hreview => ?_) nofun fun _ => hassign
      rw [hstatus] at hreview
      cases hreview
    | inProgress => exact .started hsome hstatus htime
    | review =>
      refine .left (hstatus ▸ hsome) (.inr hstatus) htime hprevious (fun _ hrule => ?_) nofun fun _ => hassign
      have hchecked := hcomment hsome hrule
      simp only [claimTask, hassign, Option.getD_none, Option.none_or, Option.or_self] at hchecked
      unfold reviewCommentAuthor
      rw [hassign]
      exact hchecked
    | done => exact .finished hsome hstatus htime

theorem applyAdminTaskRules_done (h : applyAdminTaskRules search db update = .ok row) (hdone : update.task.status = .done)
    (hopen : row.updates.status.getD row.task.status ≠ .done) : ∃ s, update.updates.status = some s ∧ s ≠ .done := by
  have htarget : update.updates.status.getD update.task.status ≠ .done := by
    intro htarget
    obtain ⟨-, deps, -, ⟨hreset, -⟩ | ⟨-, hupdates, htask⟩⟩ := applyAdminTaskRules_row h
    · exact hreset.2 ⟨hdone, htarget⟩
    · rw [hupdates, htask, (moveTask_same update.task update.now update.updates.status).2] at hopen
      exact hopen htarget
  cases hrequested : update.updates.status with
  | none =>
    rw [hrequested] at htarget
    exact absurd hdone htarget
  | some s =>
    rw [hrequested] at htarget
    exact ⟨s, rfl, htarget⟩

theorem user_patchTimes {texts : Texts} {stored : Db} {userId : Uuid} (hrow : applyAdminTaskRules search db update = .ok row)
    (hstore : storeUpdatedTask texts db update row = .ok (stored, task')) :
    PatchTimes db update (.user userId) task' := by
  obtain ⟨⟨-, hstatus, htime, -, -⟩, -⟩ := storeUpdatedTask_eq_ok hstore
  obtain ⟨hprevious, hcomment⟩ := storeUpdatedTask_times hstore
  obtain ⟨deps, heff, hcases⟩ := applyAdminTaskRules_eq_ok hrow
  rcases hcases with ⟨hblocked, hinbox, -, hstopped, -⟩ | ⟨hupdates, htask, hfree⟩
  · have hopen : row.updates.status.getD row.task.status ≠ .done := by
      rw [hinbox]
      exact nofun
    rw [hinbox, Option.getD_some] at hstatus
    exact .blocked rfl (leavesBlocked_of_ok heff hblocked) (fun hdone => applyAdminTaskRules_done hrow hdone hopen) hstatus
      (htime.trans hstopped)
  · rw [hupdates, htask, (moveTask_same update.task update.now update.updates.status).2] at hstatus
    rw [htask] at htime hprevious
    cases hrequested : update.updates.status with
    | none =>
      rw [hrequested, Option.getD_none] at hstatus
      rw [hrequested] at htime
      exact .kept hrequested hstatus htime
    | some s =>
      rw [hrequested, Option.getD_some] at hstatus
      rw [hrequested] at htime hprevious
      have hunblocked : s ≠ .done → leavesBlocked db update = false := by
        intro hs
        refine leavesBlocked_eq_false_of_ok heff (hfree.resolve_right fun hdone => hs ?_)
        rw [← hdone.2, hrequested, Option.getD_some]
      cases s with
      | inbox =>
        refine .left (hstatus ▸ hrequested) (.inl hstatus) htime hprevious (fun hreview => ?_)
          (fun _ => hunblocked nofun) nofun
        rw [hstatus] at hreview
        cases hreview
      | inProgress => exact .started hrequested hstatus htime
      | review =>
        refine .left (hstatus ▸ hrequested) (.inr hstatus) htime hprevious (fun _ hrule => ?_)
          (fun _ => hunblocked nofun) nofun
        have hchecked := hcomment (hupdates ▸ hrequested) hrule
        rw [hupdates, htask, hrequested] at hchecked
        have hauthor : (update.updates.assignedAgentId.getD none).or update.task.assignedAgentId =
            reviewCommentAuthor update := by
          unfold reviewCommentAuthor
          cases update.updates.assignedAgentId <;> rfl
        simp only [moveTask, Option.or_self, hauthor] at hchecked
        exact hchecked
      | done => exact .finished hrequested hstatus htime

end SiloForge
