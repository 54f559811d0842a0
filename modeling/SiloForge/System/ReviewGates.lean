import SiloForge.System.Timing

/-!
# The review gates

A board may ask that a task is reviewed before it is done, and that a task comes to review with a comment of its
worker. The PATCH of a task checks both; its creation and the escalation of a run do not, and a user's PATCH looks
for the comment of the agent it assigns.

* `Taken`, `noteTaken` : when each task was last taken in progress, noted beside the run;
* `Noted` : the time in a task's row is the noted one;
* `ReviewGated` : what the two rules promise of a committed state;
* `skipsReviewGate`, `reviewGatesHold` : the promise holds while no request skips a gate.
-/

namespace SiloForge

open Lib

/-! ## Notes -/

abbrev Taken := Uuid → Option Time

def Operation.asksProgress : Operation → Uuid → Bool
  | .updateTask _ taskId _ payload, x => taskId = x && payload.status = some .inProgress
  | _, _ => false

def takes (s : Db) (request : Request) (t : Db) (taskId : Uuid) : Bool :=
  (t.tasks.get? taskId).any (·.status = .inProgress) &&
    (!(s.tasks.get? taskId).any (·.status = .inProgress) || request.op.asksProgress taskId)

def noteTaken (s : Db) (request : Request) (t : Db) (taken : Taken) : Taken := fun taskId =>
  if takes s request t taskId then some request.now else taken taskId

def rowTimes (db : Db) : Taken := fun taskId => (db.tasks.get? taskId).bind (·.inProgressAt)

def InboxNotStarted (db : Db) : Prop :=
  ∀ taskId task, db.tasks.get? taskId = some task → task.status = .inbox → task.inProgressAt = none

/-- The time in a row is the noted one, and a task in the inbox has none. -/
def NotedTask (taken : Taken) (task : Task) : Prop :=
  (task.status = .inbox → task.inProgressAt = none) ∧
    ∀ time, task.inProgressAt = some time → taken task.id = some time

def Noted (db : Db) (taken : Taken) : Prop := ∀ taskId task, db.tasks.get? taskId = some task → NotedTask taken task

theorem noted_rowTimes {db : Db} (h : InboxNotStarted db) : Noted db (rowTimes db) := by
  intro taskId task hfound
  refine ⟨h taskId task hfound, fun time htime => ?_⟩
  rw [rowTimes, show task.id = taskId from Table.key_of_get? hfound, hfound]
  exact htime

/-! ## One request takes notes -/

theorem written?_of_asksProgress {op : Operation} {taskId : Uuid} (h : op.asksProgress taskId = true) :
    op.written? = some taskId := by
  cases op <;> simp only [Operation.asksProgress, Bool.and_eq_true, decide_eq_true_eq, Bool.false_eq_true] at h
  exact congrArg some h.1

section Notes
variable {db t : Db} {request : Request} {taken : Taken} {old new : Task}

theorem takes_eq_false_of_idle (hnew : t.tasks.get? new.id = some new) (hstatus : new.status ≠ .inProgress) :
    takes db request t new.id = false := by
  simp [takes, hnew, hstatus]

theorem takes_eq_false_of_kept (hold : db.tasks.get? new.id = some old) (hnew : t.tasks.get? new.id = some new)
    (hstatus : new.status = old.status) (hasks : request.op.asksProgress new.id = false) :
    takes db request t new.id = false := by
  simp [takes, hold, hnew, hstatus, hasks]

theorem takes_of_started (hnew : t.tasks.get? new.id = some new) (hstatus : new.status = .inProgress)
    (h : (∀ old, db.tasks.get? new.id = some old → old.status ≠ .inProgress) ∨
      request.op.asksProgress new.id = true) : takes db request t new.id = true := by
  simp only [takes, hnew, Option.any_some, hstatus, decide_true, Bool.true_and, Bool.or_eq_true]
  refine h.imp_left fun hidle => ?_
  cases hfound : db.tasks.get? new.id with
  | none => rfl
  | some old => simp [hidle old hfound]

theorem NotedTask.of_none (h : new.inProgressAt = none) : NotedTask taken new :=
  ⟨fun _ => h, fun time htime => by rw [h] at htime; cases htime⟩

theorem NotedTask.of_kept (hold : NotedTask taken old) (hid : new.id = old.id)
    (htime : new.inProgressAt = old.inProgressAt) (hstatus : new.status = .inbox → old.status = .inbox)
    (hquiet : takes db request t new.id = false) : NotedTask (noteTaken db request t taken) new := by
  refine ⟨fun hinbox => htime.trans (hold.1 (hstatus hinbox)), fun time hnew => ?_⟩
  simp only [noteTaken, hquiet, Bool.false_eq_true, if_false]
  rw [hid]
  exact hold.2 time (htime.symm.trans hnew)

theorem NotedTask.of_taken (hstatus : new.status = .inProgress) (htime : new.inProgressAt = some request.now)
    (htakes : takes db request t new.id = true) : NotedTask (noteTaken db request t taken) new := by
  refine ⟨fun hinbox => ?_, fun time hnew => ?_⟩
  · rw [hstatus] at hinbox
    cases hinbox
  · simp only [noteTaken, htakes, if_true]
    exact htime.symm.trans hnew

theorem PatchTimes.noted {update : TaskUpdateInput} {ctx : ActorContext} (h : PatchTimes db update ctx new)
    (hop : ∃ boardId actor, request.op = .updateTask boardId update.task.id actor update.updates)
    (hnow : update.now = request.now) (hid : new.id = update.task.id)
    (hfound : db.tasks.get? new.id = some update.task) (hnew : t.tasks.get? new.id = some new)
    (hold : NotedTask taken update.task) : NotedTask (noteTaken db request t taken) new := by
  obtain ⟨boardId, actor, hop⟩ := hop
  cases h with
  | kept requested status time =>
    refine hold.of_kept hid time (fun hinbox => status ▸ hinbox) (takes_eq_false_of_kept hfound hnew status ?_)
    simp [hop, Operation.asksProgress, requested]
  | finished requested status time =>
    refine hold.of_kept hid time (fun hinbox => ?_) (takes_eq_false_of_idle hnew (by simp [status]))
    simp [status] at hinbox
  | left requested status time previous commented unblocked unassigned => exact .of_none time
  | started requested status time =>
    refine .of_taken status (hnow ▸ time) (takes_of_started hnew status (.inr ?_))
    simp [hop, Operation.asksProgress, hid, requested]
  | blocked user blocked target status time => exact .of_none time
  | assigned lead requested before status time => exact .of_none (time.trans (hold.1 before))
  | returned lead before status time => exact .of_none time

end Notes

variable {request : Request} {taken : Taken} {boardId : Uuid}

/-- **One request** keeps the times noted. -/
theorem noted_of_commit {env : Env} {db t : Db} (hdb : WellFormed db) (hnoted : Noted db taken)
    (ht : t ∈ (machine env).commits db request) :
    Noted t (noteTaken db request t taken) := by
  intro taskId new hnew
  obtain rfl : new.id = taskId := Table.key_of_get? hnew
  have hunasked : request.op.written? ≠ some new.id → request.op.asksProgress new.id = false :=
    fun hother => Bool.eq_false_iff.mpr fun hasks => hother (written?_of_asksProgress hasks)
  cases (commit_of_mem ht).taskChange hdb hnew with
  | unchanged hfound hother =>
    exact (hnoted _ _ hfound).of_kept rfl rfl id (takes_eq_false_of_kept hfound hnew rfl (hunasked hother))
  | created board payload deps hop hfresh rules hdeps => exact .of_none rules.notStarted
  | patched actor payload ctx old board hop hactor hfound hon hboard rules =>
    have hid := rules.same.id
    obtain ⟨ctx', old', hctx, hold, htimes⟩ := patched_times hop ht hdb (hid ▸ hnew)
    obtain rfl := Option.some.inj (hfound.symm.trans hold)
    exact htimes.noted ⟨board.id, actor, hop⟩ rfl hid (hid ▸ hfound) hnew (hnoted _ _ hfound)
  | cascaded => exact .of_none rfl
  | stopped => exact .of_none rfl
  | @unassigned old agentId hop hfound =>
    refine (hnoted _ _ hfound).of_kept rfl rfl id (takes_eq_false_of_kept hfound hnew rfl (hunasked ?_))
    rw [hop]
    exact nofun
  | reported run status board old hreport hrun hmoved =>
    have hfound := hreport.task_get?
    rcases callbackTask_eq_some hmoved with ⟨-, hauto, rfl⟩ | ⟨-, -, rfl⟩
    · have hinbox : old.status = .inbox := by
        by_contra hne
        simp [canAutoTransitionTask, hne] at hauto
      have hidle := (hnoted _ _ hfound).1 hinbox
      refine .of_taken rfl ?_ (takes_of_started hnew rfl (.inl fun old' hold' => ?_))
      · simp [startTask, hidle]
      · obtain rfl := Option.some.inj (hfound.symm.trans hold')
        simp [hinbox]
    · exact .of_none rfl
  | @escalated scope runId approvalId note board old hop hscope hconflicts hstatus =>
    obtain ⟨-, -, -, htask, hid, -⟩ := getBoardAndTask_eq_ok hscope
    have hfound : db.tasks.get? old.id = some old := hid ▸ htask
    rcases hstatus with hinbox | hwork
    · have hne : old.status ≠ .inProgress := by simp [hinbox]
      exact .of_none ((if_neg hne).trans ((hnoted _ _ hfound).1 hinbox))
    · exact .of_none (if_pos hwork)

/-! ## The gates -/

def Operation.comments : Operation → Uuid → Bool
  | .updateTask _ taskId _ payload, x => taskId = x && payload.comment.any (!isBlank ·)
  | _, _ => false

/-- The task has a comment by its worker that is not blank, made since it was last taken in progress. -/
def workerCommented (db : Db) (taken : Taken) (task : Task) : Bool :=
  task.assignedAgentId.any fun worker => (taken task.id).any fun since => db.events.any fun e =>
    e.taskId = some task.id && e.eventType = .taskComment && e.agentId = some worker && since ≤ e.createdAt &&
      !isBlank e.message

def hasRule (db : Db) (task : Task) (rule : Board → Bool) : Prop :=
  ∃ board, task.boardId = some board.id ∧ db.boards.get? board.id = some board ∧ rule board = true

/-- What the two rules promise of a state the request commits. -/
structure ReviewGated (db : Db) (taken : Taken) (request : Request) (t : Db) : Prop where
  done : ∀ new, t.tasks.get? new.id = some new → new.status = .done → hasRule db new (·.requireReviewBeforeDone) →
    ∃ old, db.tasks.get? new.id = some old ∧ (old.status = .done ∨ old.status = .review)
  review : ∀ new, t.tasks.get? new.id = some new → new.status = .review → hasRule db new (·.commentRequiredForReview) →
    (∃ old, db.tasks.get? new.id = some old ∧ old.status = .review) ∨ request.op.comments new.id = true ∨
      ∃ old, db.tasks.get? new.id = some old ∧ workerCommented db taken old = true

/-- A user asks for a review without a comment and names another agent, whose comment counts. -/
def borrowsComment (db : Db) (update : TaskUpdateInput) : Bool :=
  update.updates.status = some .review && !leavesBlocked db update && !update.updates.comment.any (!isBlank ·) &&
    update.updates.assignedAgentId.join.any fun agentId =>
      update.task.assignedAgentId ≠ some agentId &&
        hasValidRecentComment db update.task.id (some agentId) update.task.inProgressAt

/-- The request skips a gate: it creates a task that is done or in review, escalates a run of a task nobody commented
on, or borrows a comment for it. -/
def skipsReviewGate (db : Db) (taken : Taken) (request : Request) : Bool :=
  match request.op with
  | .createTask boardId _ _ payload | .createTaskAsLead boardId _ _ payload =>
    payload.status = .done && boardRule db boardId (·.requireReviewBeforeDone) = some true ||
      payload.status = .review && requireCommentForReviewWhenEnabled db boardId
  | .escalateRun scope _ _ _ =>
    requireCommentForReviewWhenEnabled db scope.boardId && (db.tasks.get? scope.taskId).any fun task =>
      (task.status = .inbox || task.status = .inProgress) && !workerCommented db taken task
  | .updateTask boardId taskId (.user _) payload =>
    requireCommentForReviewWhenEnabled db boardId && (db.tasks.get? taskId).any fun task =>
      borrowsComment db { task, boardId, now := request.now, updates := payload } && !workerCommented db taken task
  | _ => false

theorem boardRule_of_hasRule {db : Db} {task : Task} {rule : Board → Bool} (h : hasRule db task rule)
    (hon : task.boardId = some boardId) : boardRule db boardId rule = some true := by
  obtain ⟨board, hboard, hfound, hrule⟩ := h
  obtain rfl := Option.some.inj (hboard.symm.trans hon)
  rw [boardRule, hfound, Option.map_some, hrule]

theorem requireReviewBeforeDone_eq_ok {db : Db} {previous target : TaskStatus}
    (h : requireReviewBeforeDoneWhenEnabled db boardId previous target = .ok ()) (hdone : target = .done)
    (hrule : boardRule db boardId (·.requireReviewBeforeDone) = some true) :
    previous = .done ∨ previous = .review := by
  unfold requireReviewBeforeDoneWhenEnabled at h
  by_cases hwas : previous = .done
  · exact .inl hwas
  · rw [if_neg (by simp [hwas, hdone]), require_eq_ok, not_and_or, not_not] at h
    exact .inr (h.resolve_left fun hno => hno hrule)

/-- A comment the request finds is one by its author, made since. -/
theorem exists_of_hasValidRecentComment {db : Db} {taskId : Uuid} {author : Option Uuid} {since : Option Time}
    (h : hasValidRecentComment db taskId author since = true) :
    ∃ agentId time, author = some agentId ∧ since = some time ∧ ∃ e ∈ db.events, e.taskId = some taskId ∧
      e.eventType = .taskComment ∧ e.agentId = some agentId ∧ time ≤ e.createdAt ∧ isBlank e.message = false := by
  unfold hasValidRecentComment at h
  split at h
  · rename_i agentId time
    dsimp only at h
    split at h
    · cases h
    · rename_i event hfirst
      obtain ⟨hmem, hevent⟩ := List.mem_filter.mp (mem_of_firstBy hfirst)
      simp only [decide_eq_true_eq] at hevent
      obtain ⟨htask, htype, hagent, htime⟩ := hevent
      exact ⟨agentId, time, rfl, rfl, event, hmem, htask, htype, hagent, htime, by simpa using h⟩
  · cases h

theorem workerCommented_of_hasValidRecentComment {db : Db} {task : Task} (hnoted : NotedTask taken task)
    (h : hasValidRecentComment db task.id task.assignedAgentId task.inProgressAt = true) :
    workerCommented db taken task = true := by
  obtain ⟨worker, time, hworker, htime, e, he, htask, htype, hagent, hsince, hblank⟩ :=
    exists_of_hasValidRecentComment h
  rw [workerCommented, hworker, Option.any_some, hnoted.2 time htime, Option.any_some]
  exact List.any_eq_true.mpr ⟨e, he, by simp [htask, htype, hagent, hsince, hblank]⟩

theorem creation_of_quiet {db : Db} {taskId : Uuid} {payload : TaskCreate}
    (hop : request.op.creation? = some (boardId, taskId, payload)) (hquiet : skipsReviewGate db taken request = false) :
    (payload.status = .done → boardRule db boardId (·.requireReviewBeforeDone) ≠ some true) ∧
      (payload.status = .review → requireCommentForReviewWhenEnabled db boardId = false) := by
  unfold skipsReviewGate at hquiet
  cases hrequest : request.op <;> rw [hrequest] at hop hquiet <;> cases hop <;>
  · simpa using hquiet

/-- A task comes to be done from review, or is created done. -/
theorem TaskChange.reviewedBeforeDone {db t : Db} {new : Task} (h : TaskChange db request t new)
    (hquiet : skipsReviewGate db taken request = false) (hdone : new.status = .done)
    (hrule : hasRule db new (·.requireReviewBeforeDone)) :
    ∃ old, db.tasks.get? new.id = some old ∧ (old.status = .done ∨ old.status = .review) := by
  cases h with
  | unchanged hfound hother => exact ⟨new, hfound, .inl hdone⟩
  | created board payload deps hop hfresh rules hdeps =>
    have hstatus : payload.status = .done := rules.status.symm.trans hdone
    exact absurd (boardRule_of_hasRule hrule rules.onBoard) ((creation_of_quiet hop hquiet).1 hstatus)
  | patched actor payload ctx old board hop hactor hfound hon hboard rules =>
    obtain ⟨_, -, _, hreview, -⟩ : ∃ _, _ ∧ ∃ _, _ ∧ _ := by simpa only [statusGates, bind_eq_ok] using rules.gates
    have hrule := boardRule_of_hasRule hrule (rules.same.boardId.trans hon)
    exact ⟨old, rules.same.id ▸ hfound, requireReviewBeforeDone_eq_ok hreview hdone hrule⟩
  | cascaded => cases hdone
  | stopped => cases hdone
  | @unassigned old agentId hop hfound => exact ⟨old, hfound, .inl hdone⟩
  | reported run status board old hreport hrun hmoved =>
    rcases callbackTask_eq_some hmoved with ⟨-, -, rfl⟩ | ⟨-, -, rfl⟩ <;> cases hdone
  | escalated => cases hdone

theorem PatchTimes.commented {db : Db} {update : TaskUpdateInput} {ctx : ActorContext} {new : Task}
    (h : PatchTimes db update ctx new) (hnoted : NotedTask taken update.task) (hreview : new.status = .review)
    (hrule : requireCommentForReviewWhenEnabled db update.boardId = true)
    (hquiet : ctx.isUser = true → borrowsComment db update = true → workerCommented db taken update.task = true) :
    update.task.status = .review ∨ update.updates.comment.any (!isBlank ·) = true ∨
      workerCommented db taken update.task = true := by
  cases h with
  | kept requested status time => exact .inl (status.symm.trans hreview)
  | finished requested status time => simp [status] at hreview
  | left requested status time previous commented unblocked unassigned =>
    refine .inr ((commented hreview hrule).elim .inl fun hrecent => ?_)
    by_cases hown : reviewCommentAuthor update = update.task.assignedAgentId
    · rw [hown] at hrecent
      exact .inr (workerCommented_of_hasValidRecentComment hnoted hrecent)
    · -- The comment is by an agent the request names, which only a user's does.
      have hnamed : ∃ agentId, update.updates.assignedAgentId.join = some agentId := by
        by_contra hnone
        rw [← Option.ne_none_iff_exists', not_not] at hnone
        exact hown (by rw [reviewCommentAuthor, hnone, Option.none_or])
      obtain ⟨agentId, hagentId⟩ := hnamed
      have hauthor : reviewCommentAuthor update = some agentId := by rw [reviewCommentAuthor, hagentId, Option.some_or]
      have huser : ctx.isUser = true := by
        by_contra hagent
        rw [unassigned (Bool.eq_false_iff.mpr hagent)] at hagentId
        cases hagentId
      by_cases hcomment : update.updates.comment.any (!isBlank ·) = true
      · exact .inl hcomment
      · refine .inr (hquiet huser ?_)
        rw [hauthor] at hown hrecent
        simp [borrowsComment, requested, hreview, unblocked huser, Bool.eq_false_iff.mpr hcomment, hagentId,
          Ne.symm hown, hrecent]
  | started requested status time => simp [status] at hreview
  | blocked user blocked target status time => simp [status] at hreview
  | assigned lead requested before status time => simp [status] at hreview
  | returned lead before status time => simp [status] at hreview

theorem borrows_of_quiet {db : Db} {old : Task} {actor : Actor} {payload : TaskUpdate}
    (hop : request.op = .updateTask boardId old.id actor payload) (hfound : db.tasks.get? old.id = some old)
    (hrule : requireCommentForReviewWhenEnabled db boardId = true) (hquiet : skipsReviewGate db taken request = false)
    (huser : actor.isUser = true)
    (hborrows : borrowsComment db { task := old, boardId, now := request.now, updates := payload } = true) :
    workerCommented db taken old = true := by
  cases actor with
  | user userId => simpa [skipsReviewGate, hop, hfound, hrule, hborrows] using hquiet
  | agent agentId => cases huser

/-- **One request** that skips no gate keeps the promise. -/
theorem reviewGated_of_commit {env : Env} {db t : Db} (hdb : WellFormed db) (hnoted : Noted db taken)
    (hquiet : skipsReviewGate db taken request = false) (ht : t ∈ (machine env).commits db request) :
    ReviewGated db taken request t where
  done new hnew hdone hrule := ((commit_of_mem ht).taskChange hdb hnew).reviewedBeforeDone hquiet hdone hrule
  review new hnew hreview hrule := by
    cases (commit_of_mem ht).taskChange hdb hnew with
    | unchanged hfound hother => exact .inl ⟨new, hfound, hreview⟩
    | created board payload deps hop hfresh rules hdeps =>
      have hstatus : payload.status = .review := rules.status.symm.trans hreview
      have hboard := boardRule_of_hasRule hrule rules.onBoard
      have hfree := (creation_of_quiet hop hquiet).2 hstatus
      simp [requireCommentForReviewWhenEnabled, hboard] at hfree
    | patched actor payload ctx old board hop hactor hfound hon hboard rules =>
      have hid := rules.same.id
      obtain ⟨ctx', old', hctx, hold, htimes⟩ := patched_times hop ht hdb (hid ▸ hnew)
      obtain rfl := Option.some.inj (hfound.symm.trans hold)
      have hrule : requireCommentForReviewWhenEnabled db board.id = true :=
        decide_eq_true (boardRule_of_hasRule hrule (rules.same.boardId.trans hon))
      rcases htimes.commented (hnoted _ _ hfound) hreview hrule fun huser hborrows =>
        borrows_of_quiet hop hfound hrule hquiet ((isUser_of_requireUserOrAgent hctx).symm.trans huser) hborrows
        with hwas | hcomment | hworker
      · exact .inl ⟨old, hid ▸ hfound, hwas⟩
      · refine .inr (.inl ?_)
        simp [hop, Operation.comments, hid, hcomment]
      · exact .inr (.inr ⟨old, hid ▸ hfound, hworker⟩)
    | cascaded => cases hreview
    | stopped => cases hreview
    | @unassigned old agentId hop hfound => exact .inl ⟨old, hfound, hreview⟩
    | reported run status board old hreport hrun hmoved =>
      have hfound := hreport.task_get?
      rcases callbackTask_eq_some hmoved with ⟨-, -, rfl⟩ | ⟨-, hauto, rfl⟩
      · cases hreview
      · -- The runtime's reports look at the rule.
        obtain ⟨hboard, hon⟩ := hreport.onBoard hdb
        have hcommented : board.commentRequiredForReview = true := by
          simpa [boardRule, hboard] using boardRule_of_hasRule hrule hon
        simp [canAutoTransitionTask, hcommented] at hauto
    | @escalated scope runId approvalId note board old hop hscope hconflicts hstatus =>
      obtain ⟨hboard, hbid, -, htask, hid, hon⟩ := getBoardAndTask_eq_ok hscope
      have hfound : db.tasks.get? old.id = some old := hid ▸ htask
      have hrule : requireCommentForReviewWhenEnabled db scope.boardId = true :=
        decide_eq_true (boardRule_of_hasRule hrule (hon.trans (congrArg some hbid)))
      refine .inr (.inr ⟨old, hfound, ?_⟩)
      simpa [skipsReviewGate, hop, hrule, htask, hstatus] using hquiet

/-! ## Runs of the system -/

def watched (env : Env) : Machine (Db × Taken) Request := (machine env).watch noteTaken

def ReviewGatesHold (env : Env) (db : Db) (requests : List Request) : Prop :=
  (watched env).Along (fun s request => ∀ t ∈ (machine env).commits s.1 request, ReviewGated s.1 s.2 request t)
    (db, rowTimes db) requests

theorem noted_next {env : Env} {s : Db × Taken} (hs : WellFormed s.1 ∧ Noted s.1 s.2) (request : Request) :
    WellFormed ((watched env).next s request).1 ∧
      Noted ((watched env).next s request).1 ((watched env).next s request).2 := by
  refine (watched env).next_of_each (Q := fun s => WellFormed s.1 ∧ Noted s.1 s.2) hs fun t ht => ?_
  obtain ⟨hmem, hnotes⟩ := Machine.mem_watch.mp ht
  rw [hnotes]
  exact ⟨(commit_of_mem hmem).wellFormed hs.1, noted_of_commit hs.1 hs.2 hmem⟩

/-- **The review gates hold** in every run of the system in which no request skips one. -/
theorem reviewGatesHold {env : Env} {db : Db} {requests : List Request} (hdb : WellFormed db)
    (hstart : InboxNotStarted db)
    (h : (watched env).Along (fun s request => skipsReviewGate s.1 s.2 request = false) (db, rowTimes db) requests) :
    ReviewGatesHold env db requests :=
  Machine.Along.of_inv (fun s => WellFormed s.1 ∧ Noted s.1 s.2) (fun _ request hs _ => noted_next hs request)
    (fun _ _ hs hquiet _ ht => reviewGated_of_commit hs.1 hs.2 hquiet ht) ⟨hdb, noted_rowTimes hstart⟩ h

namespace Sample

def reviewBoard : Board :=
  { board with requireReviewBeforeDone := true, commentRequiredForReview := true, requireApprovalForDone := false }

def reviewed : Db :=
  { db with
    boards := ⟨[reviewBoard], by decide⟩
    tasks := ⟨[task], Table.nodup_one task⟩
    runs := ⟨[run .failed], nodup_run .failed⟩ }

theorem wellFormed_reviewed : WellFormed reviewed where
  dependencies _ hd := absurd hd (Table.not_mem_empty _)
  noSelf _ hd := absurd hd (Table.not_mem_empty _)
  runs r hr := by
    obtain rfl := List.mem_singleton.mp hr
    exact ⟨_, rfl, rfl⟩

theorem inboxNotStarted_reviewed : InboxNotStarted reviewed := by
  intro taskId new hnew _
  obtain rfl := List.mem_singleton.mp (Table.mem_of_get? hnew)
  rfl

def workerComments : Request := ⟨2, .createTaskComment 1 1 (.agent 2) "Built."⟩

def workerSubmits : Request := ⟨3, .updateTask 1 1 (.agent 2) { status := some .review }⟩

def escalatesRun : Request := ⟨1, .escalateRun scope 1 1 none⟩

end Sample

theorem reviewGatesHold_reviewed :
    ReviewGatesHold Sample.env Sample.reviewed
      [Sample.workerStarts, Sample.workerComments, Sample.workerSubmits, Sample.leadFinishes] :=
  reviewGatesHold Sample.wellFormed_reviewed Sample.inboxNotStarted_reviewed (by decide)

/-- An escalation brings a task to review that nobody commented on. -/
theorem not_reviewGatesHold :
    ¬ ∀ (env : Env) (db : Db) (requests : List Request), WellFormed db → InboxNotStarted db →
      ReviewGatesHold env db requests := by
  intro h
  obtain ⟨hgated, -⟩ := h Sample.env Sample.reviewed [Sample.escalatesRun] Sample.wellFormed_reviewed
    Sample.inboxNotStarted_reviewed
  have hmoved : ∃ t ∈ (machine Sample.env).commits Sample.reviewed Sample.escalatesRun,
      (t.tasks.get? 1).map (fun new => (new.id, new.boardId, new.status)) = some (1, some 1, .review) := by decide
  obtain ⟨t, ht, hnew⟩ := hmoved
  obtain ⟨new, hnew, hrow⟩ := Option.map_eq_some_iff.mp hnew
  obtain ⟨hid, hrow⟩ := Prod.mk.inj hrow
  obtain ⟨hboard, hstatus⟩ := Prod.mk.inj hrow
  have hnew : t.tasks.get? new.id = some new := hid ▸ hnew
  rcases (hgated t ht).review new hnew hstatus ⟨Sample.reviewBoard, hboard, rfl, rfl⟩
    with ⟨old, hold, hwas⟩ | hcomment | ⟨old, hold, hworker⟩
  · rw [hid] at hold
    obtain rfl := Option.some.inj hold
    cases hwas
  · cases hcomment
  · rw [hid] at hold
    obtain rfl := Option.some.inj hold
    cases hworker

end SiloForge
