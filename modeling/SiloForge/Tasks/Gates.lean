import SiloForge.Tasks.Fields
import SiloForge.Approvals.Links

/-!
# The gates of a status change

The checks a board's rules put in front of a status change, and the activity rows of tasks. Every gate
compares the status before the request with the status the request is about to store.

* `requireApprovedLinkedApprovalForDone`, `requireReviewBeforeDoneWhenEnabled`,
  `requireNoPendingApprovalForStatusChangeWhenEnabled` : the gates; each has a lemma `_eq_ok` for what
  passing it means;
* `hasValidRecentComment` : the comment a move to review may need;
* `taskEventDetails` : the activity row of an update.
-/

namespace SiloForge

open Lib

/-- A rule of a board, read where the request needs it; a missing board has no rule. -/
def boardRule (db : Db) (boardId : Uuid) (rule : Board → Bool) : Option Bool :=
  (db.boards.get? boardId).map rule

def approvalRequiredForDoneError : Failure :=
  .http 409
    { message := "Task can only be marked done when a linked approval has been approved."
      ids := [("blocked_by_task_ids", [])] }

def reviewRequiredForDoneError : Failure :=
  .http 409
    { message := "Task can only be marked done from review when the board rule is enabled."
      ids := [("blocked_by_task_ids", [])] }

def pendingApprovalBlocksStatusChangeError : Failure :=
  .http 409
    { message := "Task status cannot be changed while a linked approval is pending."
      ids := [("blocked_by_task_ids", [])] }

def requireApprovedLinkedApprovalForDone (db : Db) (boardId taskId : Uuid)
    (previousStatus targetStatus : TaskStatus) : Except Failure Unit :=
  if previousStatus = .done ∨ targetStatus ≠ .done then .ok ()
  else if boardRule db boardId (·.requireApprovalForDone) = some false then .ok ()
  else require (taskHasApprovedLinkedApproval db boardId taskId) approvalRequiredForDoneError

def requireReviewBeforeDoneWhenEnabled (db : Db) (boardId : Uuid) (previousStatus targetStatus : TaskStatus) :
    Except Failure Unit :=
  if previousStatus = .done ∨ targetStatus ≠ .done then .ok ()
  else require (¬ (boardRule db boardId (·.requireReviewBeforeDone) = some true ∧ previousStatus ≠ .review))
    reviewRequiredForDoneError

def requireCommentForReviewWhenEnabled (db : Db) (boardId : Uuid) : Bool :=
  boardRule db boardId (·.commentRequiredForReview) = some true

def requireNoPendingApprovalForStatusChangeWhenEnabled (db : Db) (boardId taskId : Uuid)
    (previousStatus targetStatus : TaskStatus) (statusRequested : Bool) : Except Failure Unit :=
  if statusRequested = false ∨ previousStatus = targetStatus then .ok ()
  else if boardRule db boardId (·.blockStatusChangesWithPendingApproval) ≠ some true then .ok ()
  else require (taskHasPendingLinkedApproval db boardId taskId = false) pendingApprovalBlocksStatusChangeError

/-- Whether the task has a recent non-empty comment by the agent: the newest one decides. -/
def hasValidRecentComment (db : Db) (taskId : Uuid) (agentId : Option Uuid) (since : Option Time) : Bool :=
  match agentId, since with
  | some agentId, some since =>
    let comments := db.events.filter fun e =>
      e.taskId = some taskId ∧ e.eventType = .taskComment ∧ e.agentId = some agentId ∧ since ≤ e.createdAt
    match firstBy (fun a b => b.createdAt < a.createdAt) comments with
    | none => false
    | some event => !isBlank event.message
  | _, _ => false

def taskEventDetails (task : Task) (previousStatus : TaskStatus) : EventType × String :=
  if task.status ≠ previousStatus then
    (.taskStatusChanged, "Task moved to " ++ task.status.text ++ ": " ++ task.title ++ ".")
  else (.taskUpdated, "Task updated: " ++ task.title ++ ".")

theorem requireApprovedLinkedApprovalForDone_eq_ok {db : Db} {boardId taskId : Uuid}
    {previousStatus targetStatus : TaskStatus} {u : Unit}
    (h : requireApprovedLinkedApprovalForDone db boardId taskId previousStatus targetStatus = .ok u)
    (hprev : previousStatus ≠ .done) (htarget : targetStatus = .done) {board : Board}
    (hboard : db.boards.get? boardId = some board) (hrule : board.requireApprovalForDone = true) :
    taskHasApprovedLinkedApproval db boardId taskId = true := by
  rw [requireApprovedLinkedApprovalForDone, if_neg (by simp [hprev, htarget]),
    if_neg (by simp [boardRule, hboard, hrule])] at h
  exact require_eq_ok.mp h

theorem requireNoPendingApproval_eq_ok {db : Db} {boardId taskId : Uuid}
    {previousStatus targetStatus : TaskStatus} {u : Unit}
    (h : requireNoPendingApprovalForStatusChangeWhenEnabled db boardId taskId previousStatus targetStatus true
      = .ok u)
    (hne : previousStatus ≠ targetStatus) {board : Board} (hboard : db.boards.get? boardId = some board)
    (hrule : board.blockStatusChangesWithPendingApproval = true) :
    taskHasPendingLinkedApproval db boardId taskId = false := by
  rw [requireNoPendingApprovalForStatusChangeWhenEnabled, if_neg (by simp [hne]),
    if_neg (by simp [boardRule, hboard, hrule])] at h
  exact require_eq_ok.mp h

end SiloForge
