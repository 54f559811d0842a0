import Mathlib.Data.List.Sort
import SiloForge.System.WellFormed

/-!
# Approval requests as transactions

The three requests that can make an approval pending, statement by statement. A transaction reads committed
rows, takes the row locks of its tasks one after the other, looks for conflicts in two statements and commits
its writes; locks are held until it ends. Transactions of any number of sessions interleave freely.

* `advance` : its next statement, if no lock is in the way;
* `sessionMachine` : the machine whose actions open sessions and let them advance;
* `approvalSessions_serial` : transactions that nothing interleaves with do what their endpoints do.
-/

namespace SiloForge

open Lib

/-! ## Transactions -/

inductive ApprovalRequest where
  | create (boardId approvalId : Uuid) (actor : Actor) (payload : ApprovalCreate)
  | update (boardId approvalId userId : Uuid) (status : Option ApprovalStatus)
  | escalate (scope : RunScope) (runId approvalId : Uuid) (note : Option String)

def ApprovalRequest.op : ApprovalRequest → Operation
  | .create boardId approvalId actor payload => .createApproval boardId approvalId actor payload
  | .update boardId approvalId userId status => .updateApproval boardId approvalId userId status
  | .escalate scope runId approvalId note => .escalateRun scope runId approvalId note

/-- An approval with the columns an update writes: those whose value changes. -/
def Approval.written (approval : Approval) (status : Option ApprovalStatus) (resolvedAt : Option Time) : Approval :=
  { approval with
    status := status.getD approval.status
    resolvedAt := resolvedAt.or approval.resolvedAt }

inductive ApprovalWrite where
  | insert (approval : Approval) (taskIds : List Uuid)
  | resolve (approvalId : Uuid) (status : Option ApprovalStatus) (resolvedAt : Option Time)
  | escalate (now : Time) (board : Board) (task : Task) (run : TaskExecutionRun) (silo : Silo) (approvalId : Uuid)
      (note : Option String)

namespace ApprovalWrite

def target : ApprovalWrite → Uuid
  | insert approval _ => approval.id
  | resolve approvalId _ _ => approvalId
  | escalate _ _ _ _ _ approvalId _ => approvalId

def isEscalation : ApprovalWrite → Bool
  | escalate .. => true
  | _ => false

def apply (texts : RunTexts) (db : Db) : ApprovalWrite → Except Failure Db
  | insert approval taskIds => storeApproval db approval taskIds
  | resolve approvalId status resolvedAt => do
    let approval ← orFail (db.approvals.get? approvalId) .integrityError
    return { db with approvals := db.approvals.put (approval.written status resolvedAt) }
  | escalate now board task run silo approvalId note =>
    storeEscalation texts db now board task run silo approvalId note

end ApprovalWrite

inductive Stage where
  | locking (remaining : List Uuid)
  | reading
  | halfRead
  | ready
  deriving DecidableEq

/-- A transaction: the tasks whose pending approvals it looks for, and its writes. -/
structure ApprovalTx where
  boardId : Uuid
  taskIds : List Uuid
  exclude : Option Uuid
  write : ApprovalWrite
  stage : Stage

/-- A transaction that looks for conflicts under the locks of its tasks, if there are any. -/
def guarded (boardId : Uuid) (taskIds : List Uuid) (exclude : Option Uuid) (write : ApprovalWrite) : ApprovalTx where
  boardId
  taskIds
  exclude
  write
  stage := if taskIds = [] then .ready else .locking ((dedupeUuidList taskIds).insertionSort (· ≤ ·))

def unguarded (boardId : Uuid) (write : ApprovalWrite) : ApprovalTx where
  boardId
  taskIds := []
  exclude := none
  write
  stage := .ready

def resolveTx (db : Db) (now : Time) (board : Board) (approval : Approval) (targetStatus : ApprovalStatus) :
    ApprovalTx :=
  let write := .resolve approval.id (if targetStatus = approval.status then none else some targetStatus)
    (if targetStatus = .pending then none else some now)
  if targetStatus = .pending ∧ approval.status ≠ .pending then
    guarded board.id (approvalTaskIds db approval) (some approval.id) write
  else unguarded board.id write

/-- What a request reads before its locks, and the transaction it goes on with. -/
def beginApproval (db : Db) (now : Time) : ApprovalRequest → Except Failure ApprovalTx
  | .create boardId approvalId actor payload => do
    let actor ← requireUserOrAgent db actor
    let board ← getBoardForActorWrite db boardId actor
    let payload ← payload.normalizeTaskLinks.validateLeadReasoning
    let (approval, taskIds) := newApproval payload now board.id approvalId
    return if payload.status = .pending then guarded board.id taskIds none (.insert approval taskIds)
      else unguarded board.id (.insert approval taskIds)
  | .update boardId approvalId userId status => do
    let board ← getBoardForUserWrite db boardId userId
    let approval ← orFail (db.approvals.get? approvalId) (.status 404)
    require (approval.boardId = board.id) (.status 404)
    return match status with
      | none => unguarded board.id (.resolve approval.id none none)
      | some targetStatus => resolveTx db now board approval targetStatus
  | .escalate scope runId approvalId note => do
    let (board, task) ← getBoardAndTask db scope.userId scope.organizationId scope.boardId scope.taskId
    let run ← orFail (findRun db scope.organizationId board.id task.id runId) runNotFound
    require run.status.isStopped (.valueError "Only failed, cancelled, or blocked runs can be escalated")
    let silo ← orFail (db.silos.get? run.siloId) (.valueError "Silo not found")
    return { boardId := board.id, taskIds := [task.id], exclude := none, stage := .reading,
             write := .escalate now board task run silo approvalId note }

/-! ## Sessions -/

structure Session where
  id : Nat
  tx : ApprovalTx
  held : List Uuid := []

instance : Keyed Session Nat := ⟨Session.id⟩

def Session.at (session : Session) (stage : Stage) : Session :=
  { session with tx := { session.tx with stage } }

structure Sessions where
  db : Db
  running : Table Session := ∅

namespace Sessions

def lockFree (s : Sessions) (session : Session) (taskId : Uuid) : Bool :=
  s.running.rows.all fun other => other.id = session.id || taskId ∉ other.held

def update (s : Sessions) (session : Session) : Sessions := { s with running := s.running.put session }

def close (s : Sessions) (id : Nat) : Sessions :=
  { s with running := s.running.deleteWhere fun session => session.id = id }

/-- The next statement of a session; `none` while another session holds the lock it asks for. -/
def advance (texts : RunTexts) (s : Sessions) (session : Session) : Option Sessions :=
  let tx := session.tx
  match tx.stage with
  | .locking [] => some (s.update (session.at .reading))
  | .locking (taskId :: remaining) =>
    -- a row that is not there is not locked
    if (s.db.tasks.get? taskId).isNone then some (s.update (session.at (.locking remaining)))
    else if s.lockFree session taskId then
      some (s.update { session.at (.locking remaining) with held := taskId :: session.held })
    else none
  | .reading =>
    if tx.taskIds.all fun taskId => (linkedConflict s.db tx.boardId tx.exclude taskId).isNone then
      some (s.update (session.at .halfRead))
    else some (s.close session.id)
  | .halfRead =>
    if tx.taskIds.all fun taskId => (legacyConflict s.db tx.boardId tx.exclude taskId).isNone then
      some (s.update (session.at .ready))
    else some (s.close session.id)
  | .ready =>
    match tx.write.apply texts s.db with
    | .error _ => some (s.close session.id)
    | .ok db => some { s.close session.id with db }

end Sessions

inductive SessionAction where
  | start (id : Nat) (now : Time) (request : ApprovalRequest)
  | advance (id : Nat)

def Sessions.step (texts : RunTexts) (s : Sessions) : SessionAction → Option Sessions
  | .start id now request =>
    match beginApproval s.db now request with
    | .error _ => none
    | .ok tx => (s.running.insert? { id, tx }).map fun running => { s with running }
  | .advance id => (s.running.get? id).bind (s.advance texts)

/-- The sessions as a machine: every statement leaves a state, in which `db` is what is committed. -/
def sessionMachine (texts : RunTexts) : Machine Sessions SessionAction where
  commits s action := (s.step texts action).toList

/-! ## The start of a transaction -/

/-- A transaction that starts has read nothing, and one that looks for conflicts is not ready. -/
def Idle (tx : ApprovalTx) : Prop := tx.stage ≠ .halfRead ∧ (tx.stage = .ready → tx.taskIds = [])

theorem guarded_idle (boardId : Uuid) (taskIds : List Uuid) (exclude : Option Uuid) (write : ApprovalWrite) :
    Idle (guarded boardId taskIds exclude write) := by
  unfold Idle guarded
  by_cases hnil : taskIds = []
  · simp [hnil]
  · simp [hnil]

theorem unguarded_idle (boardId : Uuid) (write : ApprovalWrite) : Idle (unguarded boardId write) := by
  simp [Idle, unguarded]

variable {request : ApprovalRequest}

theorem begin_idle {db : Db} {now : Time} {tx : ApprovalTx}
    (h : beginApproval db now request = .ok tx) : Idle tx := by
  cases request with
  | create boardId approvalId actor payload =>
    simp only [beginApproval, bind_eq_ok, pure_eq_ok] at h
    obtain ⟨ctx, -, board, -, checked, -, rfl⟩ := h
    split
    · exact guarded_idle _ _ _ _
    · exact unguarded_idle _ _
  | update boardId approvalId userId status =>
    simp only [beginApproval, bind_eq_ok, pure_eq_ok, orFail_eq_ok, require_eq_ok] at h
    obtain ⟨board, -, approval, hget, _, hboard, rfl⟩ := h
    cases status with
    | none => exact unguarded_idle _ _
    | some targetStatus =>
      simp only [resolveTx]
      split
      · exact guarded_idle _ _ _ _
      · exact unguarded_idle _ _
  | escalate scope runId approvalId note =>
    simp only [beginApproval, bind_eq_ok, pure_eq_ok, orFail_eq_ok, require_eq_ok] at h
    obtain ⟨⟨board, task⟩, -, run, -, _, -, silo, -, rfl⟩ := h
    simp [Idle]

/-! ## A transaction alone -/

/-- A transaction from its conflict query to its commit, with nothing in between. -/
def ApprovalTx.alone (texts : RunTexts) (db : Db) (tx : ApprovalTx) : Option Db :=
  if pendingApprovalConflicts db tx.boardId tx.taskIds tx.exclude = [] then (tx.write.apply texts db).toOption
  else none

@[simp] theorem pendingApprovalConflicts_nil (db : Db) (boardId : Uuid) (exclude : Option Uuid) :
    pendingApprovalConflicts db boardId [] exclude = [] := rfl

variable {texts : RunTexts} {db t : Db} {now : Time} {approvalId : Uuid} {approval : Approval}
  {status : Option ApprovalStatus}

theorem alone_eq_some {tx : ApprovalTx} : tx.alone texts db = some t ↔
      pendingApprovalConflicts db tx.boardId tx.taskIds tx.exclude = [] ∧ tx.write.apply texts db = .ok t := by
  rw [ApprovalTx.alone]
  split
  · rename_i h
    rw [toOption_eq_some]
    exact ⟨fun ht => ⟨h, ht⟩, fun ht => ht.2⟩
  · rename_i h
    exact ⟨fun ht => (by cases ht), fun ht => absurd ht.1 h⟩

theorem createApproval_alone {boardId : Uuid} {actor : Actor} {payload : ApprovalCreate} :
    createApproval db now boardId approvalId actor payload = .ok t ↔
      ∃ tx, beginApproval db now (.create boardId approvalId actor payload) = .ok tx ∧ tx.alone texts db = some t := by
  simp only [createApproval, beginApproval, bind_eq_ok, pure_eq_ok, alone_eq_some]
  constructor
  · rintro ⟨ctx, hctx, board, hboard, checked, hchecked, h⟩
    refine ⟨_, ⟨ctx, hctx, board, hboard, checked, hchecked, rfl⟩, ?_⟩
    split at h
    · rename_i hpending
      simp only [bind_eq_ok, ensureNoPendingApprovalConflicts, require_eq_ok] at h
      rw [if_pos hpending]
      exact ⟨h.choose_spec.1, h.choose_spec.2⟩
    · rename_i hpending
      rw [if_neg hpending]
      exact ⟨rfl, h⟩
  · rintro ⟨tx, ⟨ctx, hctx, board, hboard, checked, hchecked, rfl⟩, hconflicts, hwrite⟩
    refine ⟨ctx, hctx, board, hboard, checked, hchecked, ?_⟩
    split
    · rename_i hpending
      rw [if_pos hpending] at hconflicts hwrite
      simp only [bind_eq_ok, ensureNoPendingApprovalConflicts, require_eq_ok]
      exact ⟨(), hconflicts, hwrite⟩
    · rename_i hpending
      rw [if_neg hpending] at hwrite
      exact hwrite

theorem written_eq_resolve (approval : Approval) (now : Time) (status : ApprovalStatus) :
    approval.written (if status = approval.status then none else some status)
      (if status = .pending then none else some now) = approval.resolve now status := by
  unfold Approval.written Approval.resolve
  congr 1
  · split
    · rename_i h
      exact h.symm
    · rfl
  · split <;> rfl

theorem resolve_apply {resolvedAt : Option Time} (hget : db.approvals.get? approval.id = some approval) :
    ApprovalWrite.apply texts db (.resolve approval.id status resolvedAt) = .ok t ↔
      { db with approvals := db.approvals.put (approval.written status resolvedAt) } = t := by
  rw [ApprovalWrite.apply, hget]
  exact pure_eq_ok

theorem untouched_alone {board : Board} (hget : db.approvals.get? approval.id = some approval) :
    db = t ↔ (unguarded board.id (.resolve approval.id none none)).alone texts db = some t := by
  have hsame : db.approvals.put (approval.written none none) = db.approvals :=
    Table.put_of_mem (Table.mem_of_get? hget)
  rw [alone_eq_some]
  simp only [unguarded, resolve_apply hget, hsame]
  exact ⟨fun h => ⟨rfl, h⟩, fun h => h.2⟩

theorem resolveApproval_alone {board : Board} {targetStatus : ApprovalStatus}
    (hget : db.approvals.get? approval.id = some approval) :
    resolveApproval db now board approval targetStatus = .ok t ↔
      (resolveTx db now board approval targetStatus).alone texts db = some t := by
  rw [alone_eq_some]
  by_cases hguard : targetStatus = .pending ∧ approval.status ≠ .pending
  · simp only [resolveApproval, resolveTx, if_pos hguard, guarded, resolve_apply hget, written_eq_resolve,
      bind_eq_ok, ensureNoPendingApprovalConflicts, require_eq_ok, pure_eq_ok]
    exact exists_const _
  · simp only [resolveApproval, resolveTx, if_neg hguard, unguarded, resolve_apply hget, written_eq_resolve,
      pure_eq_ok]
    exact ⟨fun h => ⟨rfl, h⟩, fun h => h.2⟩

theorem updateApproval_alone {boardId userId : Uuid} : updateApproval db now boardId approvalId userId status = .ok t ↔
      ∃ tx, beginApproval db now (.update boardId approvalId userId status) = .ok tx ∧
        tx.alone texts db = some t := by
  simp only [updateApproval, beginApproval, bind_eq_ok, orFail_eq_ok, require_eq_ok, pure_eq_ok]
  constructor
  · rintro ⟨board, hboard, approval, hget, u, hon, h⟩
    refine ⟨_, ⟨board, hboard, approval, hget, u, hon, rfl⟩, ?_⟩
    obtain rfl : approval.id = approvalId := Table.key_of_get? hget
    cases status with
    | none => exact (untouched_alone hget).mp (pure_eq_ok.mp h)
    | some targetStatus => exact (resolveApproval_alone hget).mp h
  · rintro ⟨tx, ⟨board, hboard, approval, hget, u, hon, rfl⟩, h⟩
    refine ⟨board, hboard, approval, hget, u, hon, ?_⟩
    obtain rfl : approval.id = approvalId := Table.key_of_get? hget
    cases status with
    | none => exact pure_eq_ok.mpr ((untouched_alone hget).mpr h)
    | some targetStatus => exact (resolveApproval_alone hget).mpr h

theorem escalateRun_alone {env : Env} {scope : RunScope} {runId : Uuid} {note : Option String} :
    t ∈ (machine env).commits db ⟨now, .escalateRun scope runId approvalId note⟩ ↔
      ∃ tx, beginApproval db now (.escalate scope runId approvalId note) = .ok tx ∧
        tx.alone env.runTexts db = some t := by
  have hcommits : t ∈ (machine env).commits db ⟨now, .escalateRun scope runId approvalId note⟩ ↔
      onRun db scope (fun board task =>
        escalateRun env.runTexts db now scope.organizationId board task runId approvalId note) = .ok t :=
    Response.mem_single
  rw [hcommits]
  simp only [onRun, escalateRun, beginApproval, bind_eq_ok, pure_eq_ok, alone_eq_some, mapError_eq_ok,
    require_eq_ok]
  constructor
  · rintro ⟨⟨board, task⟩, hscope, run, hrun, u, hstopped, v, hconflicts, silo, hsilo, hstore⟩
    exact ⟨_, ⟨⟨board, task⟩, hscope, run, hrun, u, hstopped, silo, hsilo, rfl⟩, hconflicts, hstore⟩
  · rintro ⟨tx, ⟨⟨board, task⟩, hscope, run, hrun, u, hstopped, silo, hsilo, rfl⟩, hconflicts, hstore⟩
    exact ⟨⟨board, task⟩, hscope, run, hrun, u, hstopped, (), hconflicts, silo, hsilo, hstore⟩

/-- **A transaction alone is its endpoint**: with nothing in between it commits what the request commits. -/
theorem beginApproval_alone {env : Env} : t ∈ (machine env).commits db ⟨now, request.op⟩ ↔
      ∃ tx, beginApproval db now request = .ok tx ∧ tx.alone env.runTexts db = some t := by
  cases request with
  | create boardId approvalId actor payload => exact Response.mem_single.trans createApproval_alone
  | update boardId approvalId userId status => exact Response.mem_single.trans updateApproval_alone
  | escalate scope runId approvalId note => exact escalateRun_alone

/-! ## One session, statement by statement -/

/-- The statements a transaction has ahead of it, its commit included. -/
def Stage.statements : Stage → Nat
  | locking remaining => remaining.length + 4
  | reading => 3
  | halfRead => 2
  | ready => 1

/-- The actions of a request whose session nothing interleaves with. -/
def wholeSession (s : Sessions) : Nat × Time × ApprovalRequest → List SessionAction
  | (id, now, request) =>
    .start id now request ::
      match beginApproval s.db now request with
      | .error _ => []
      | .ok tx => List.replicate tx.stage.statements (.advance id)

def Sessions.only (db : Db) (session : Session) : Sessions := { db, running := ⟨[session], Table.nodup_one session⟩ }

section Alone
variable {session session' : Session}

@[simp] theorem db_only (db : Db) (session : Session) : (Sessions.only db session).db = db := rfl

theorem get?_only (db : Db) (session : Session) : (Sessions.only db session).running.get? session.id = some session := by
  simp [Sessions.only, Table.get?, key]

theorem update_only (h : session'.id = session.id) : (Sessions.only db session).update session' = .only db session' := by
  simp [Sessions.only, Sessions.update, Table.put, Table.updateWhere, key, h]

theorem close_only (db t : Db) (session : Session) :
    { (Sessions.only db session).close session.id with db := t } = ({ db := t } : Sessions) := by
  simp [Sessions.only, Sessions.close, Table.deleteWhere]
  rfl

theorem lockFree_only (db : Db) (session : Session) (taskId : Uuid) :
    (Sessions.only db session).lockFree session taskId = true := by
  simp [Sessions.only, Sessions.lockFree]

theorem next_advance {s : Sessions} (hadvance : (Sessions.only db session).advance texts session = some s) :
    (sessionMachine texts).next (.only db session) (.advance session.id) = s := by
  apply Machine.next_of_commits_eq_singleton
  simp [sessionMachine, Sessions.step, get?_only, hadvance]

theorem run_closed (db : Db) (id n : Nat) :
    (sessionMachine texts).run { db } (List.replicate n (.advance id)) = { db } := by
  induction n with
  | zero => rfl
  | succ n ih =>
    have hnone : (sessionMachine texts).next { db } (.advance id) = { db } :=
      Machine.next_of_commits_eq_nil _ rfl
    rw [List.replicate_succ, Machine.run_cons, hnone, ih]

theorem run_ready (hstage : session.tx.stage = .ready) :
    (sessionMachine texts).run (.only db session) (List.replicate 1 (.advance session.id)) =
      { db := (session.tx.write.apply texts db).toOption.getD db } := by
  rw [List.replicate_one, Machine.run_cons, Machine.run_nil]
  apply next_advance
  simp only [Sessions.advance, hstage, db_only]
  cases session.tx.write.apply texts db with
  | error e => exact congrArg some (close_only db db session)
  | ok t => exact congrArg some (close_only db t session)

theorem run_halfRead (hstage : session.tx.stage = .halfRead) :
    (sessionMachine texts).run (.only db session) (List.replicate 2 (.advance session.id)) =
      { db := if session.tx.taskIds.all fun x => (legacyConflict db session.tx.boardId session.tx.exclude x).isNone then
                (session.tx.write.apply texts db).toOption.getD db
              else db } := by
  rw [List.replicate_succ, Machine.run_cons]
  split
  · rename_i hquiet
    have hadvance : (Sessions.only db session).advance texts session = some (.only db (session.at .ready)) := by
      simp only [Sessions.advance, hstage]
      exact (if_pos hquiet).trans (congrArg some (update_only rfl))
    rw [next_advance hadvance]
    exact run_ready rfl
  · rename_i hconflict
    have hadvance : (Sessions.only db session).advance texts session = some { db } := by
      simp only [Sessions.advance, hstage]
      exact (if_neg hconflict).trans (congrArg some (close_only db db session))
    rw [next_advance hadvance]
    exact run_closed db session.id 1

/-- The two conflict queries find nothing exactly where the endpoint's query finds nothing. -/
theorem pendingApprovalConflicts_eq_nil_iff_all {boardId : Uuid} {taskIds : List Uuid} {exclude : Option Uuid} :
    pendingApprovalConflicts db boardId taskIds exclude = [] ↔
      (taskIds.all fun x => (linkedConflict db boardId exclude x).isNone) = true ∧
        (taskIds.all fun x => (legacyConflict db boardId exclude x).isNone) = true := by
  simp only [pendingApprovalConflicts_eq_nil, ← pendingConflict_eq_none, pendingConflict, Option.or_eq_none_iff,
    List.all_eq_true, Option.isNone_iff_eq_none]
  exact ⟨fun h => ⟨fun x hx => (h x hx).1, fun x hx => (h x hx).2⟩, fun h x hx => ⟨h.1 x hx, h.2 x hx⟩⟩

theorem run_reading (hstage : session.tx.stage = .reading) :
    (sessionMachine texts).run (.only db session) (List.replicate 3 (.advance session.id)) =
      { db := (session.tx.alone texts db).getD db } := by
  rw [List.replicate_succ, Machine.run_cons, ApprovalTx.alone]
  simp only [pendingApprovalConflicts_eq_nil_iff_all]
  by_cases hlinked : (session.tx.taskIds.all fun x =>
      (linkedConflict db session.tx.boardId session.tx.exclude x).isNone) = true
  · have hadvance : (Sessions.only db session).advance texts session = some (.only db (session.at .halfRead)) := by
      simp only [Sessions.advance, hstage]
      exact (if_pos hlinked).trans (congrArg some (update_only rfl))
    rw [next_advance hadvance]
    refine (run_halfRead rfl).trans ?_
    congr 1
    by_cases hlegacy : (session.tx.taskIds.all fun x =>
        (legacyConflict db session.tx.boardId session.tx.exclude x).isNone) = true
    · refine (if_pos hlegacy).trans (Eq.symm ?_)
      rw [if_pos ⟨hlinked, hlegacy⟩]
      rfl
    · refine (if_neg hlegacy).trans (Eq.symm ?_)
      rw [if_neg fun h => hlegacy h.2]
      rfl
  · have hadvance : (Sessions.only db session).advance texts session = some { db } := by
      simp only [Sessions.advance, hstage]
      exact (if_neg hlinked).trans (congrArg some (close_only db db session))
    rw [next_advance hadvance, if_neg fun h => hlinked h.1]
    exact run_closed db session.id 2

theorem run_locking {remaining : List Uuid} (hstage : session.tx.stage = .locking remaining) :
    (sessionMachine texts).run (.only db session) (List.replicate (remaining.length + 4) (.advance session.id)) =
      { db := (session.tx.alone texts db).getD db } := by
  induction remaining generalizing session with
  | nil =>
    have hadvance : (Sessions.only db session).advance texts session = some (.only db (session.at .reading)) := by
      simp only [Sessions.advance, hstage]
      exact congrArg some (update_only rfl)
    rw [List.length_nil, List.replicate_succ, Machine.run_cons, next_advance hadvance]
    exact run_reading rfl
  | cons taskId remaining ih =>
    rw [List.length_cons, Nat.add_right_comm, List.replicate_succ, Machine.run_cons]
    by_cases hgone : (db.tasks.get? taskId).isNone = true
    · have hadvance : (Sessions.only db session).advance texts session =
          some (.only db (session.at (.locking remaining))) := by
        simp only [Sessions.advance, hstage]
        exact (if_pos hgone).trans (congrArg some (update_only rfl))
      rw [next_advance hadvance]
      exact ih rfl
    · have hadvance : (Sessions.only db session).advance texts session =
          some (.only db { session.at (.locking remaining) with held := taskId :: session.held }) := by
        simp only [Sessions.advance, hstage]
        refine (if_neg hgone).trans ((if_pos (lockFree_only db session taskId)).trans ?_)
        exact congrArg some (update_only rfl)
      rw [next_advance hadvance]
      exact ih rfl

/-- **A transaction without company** commits what it commits alone. -/
theorem run_statements (hidle : Idle session.tx) :
    (sessionMachine texts).run (.only db session) (List.replicate session.tx.stage.statements (.advance session.id)) =
      { db := (session.tx.alone texts db).getD db } := by
  cases hstage : session.tx.stage with
  | locking remaining => exact run_locking hstage
  | reading => exact run_reading hstage
  | halfRead => exact absurd hstage hidle.1
  | ready =>
    refine (run_ready hstage).trans ?_
    rw [ApprovalTx.alone, hidle.2 hstage, pendingApprovalConflicts_nil, if_pos rfl]

end Alone

/-! ## Sessions one after the other -/

theorem getLastD_single {x : Except Failure Db} {o : Option Db}
    (h : ∀ t, t ∈ (Response.single x).commits ↔ o = some t) : (Response.single x).commits.getLastD db = o.getD db := by
  cases x with
  | error e =>
    have hnone : o = none := Option.eq_none_iff_forall_ne_some.mpr fun t ho => by cases (h t).mpr ho
    rw [hnone]
    rfl
  | ok t =>
    rw [(h t).mp (Response.mem_single.mpr rfl)]
    rfl

theorem next_op {env : Env} (request : ApprovalRequest) :
    (machine env).next db ⟨now, request.op⟩ =
      ((beginApproval db now request).toOption.bind fun tx => tx.alone env.runTexts db).getD db := by
  have hmem : ∀ t, t ∈ (machine env).commits db ⟨now, request.op⟩ ↔
      ((beginApproval db now request).toOption.bind fun tx => tx.alone env.runTexts db) = some t := by
    intro t
    rw [beginApproval_alone, Option.bind_eq_some_iff]
    simp only [toOption_eq_some]
  cases request <;> exact getLastD_single hmem

theorem next_start {id : Nat} {tx : ApprovalTx} (hbegin : beginApproval db now request = .ok tx) :
    (sessionMachine texts).next { db } (.start id now request) = .only db { id, tx } := by
  apply Machine.next_of_commits_eq_singleton
  have hinsert : (∅ : Table Session).insert? { id, tx } = some (Sessions.only db { id, tx }).running :=
    dif_pos fun _ hr => absurd hr List.not_mem_nil
  simp only [sessionMachine, Sessions.step, hbegin, hinsert]
  rfl

theorem run_wholeSession {env : Env} (db : Db) (id : Nat) (now : Time) (request : ApprovalRequest) :
    (sessionMachine env.runTexts).run { db } (wholeSession { db } (id, now, request)) =
      { db := (machine env).next db ⟨now, request.op⟩ } := by
  rw [next_op, wholeSession, Machine.run_cons]
  cases hbegin : beginApproval db now request with
  | error e =>
    have hrefused : (sessionMachine env.runTexts).next { db } (.start id now request) = { db } := by
      apply Machine.next_of_commits_eq_nil
      simp only [sessionMachine, Sessions.step, hbegin]
      rfl
    rw [hrefused]
    rfl
  | ok tx =>
    rw [next_start hbegin]
    exact run_statements (begin_idle hbegin)

/-- **Transactions that do not overlap** are the requests of `machine`: run statement by statement, each leaves the
database its endpoint leaves, and no session open. -/
theorem approvalSessions_serial (env : Env) (db : Db) (requests : List (Nat × Time × ApprovalRequest)) :
    (sessionMachine env.runTexts).run { db }
        ((sessionMachine env.runTexts).serial wholeSession { db } requests) =
      { db := (machine env).run db (requests.map fun r => ⟨r.2.1, r.2.2.op⟩) } := by
  rw [← Machine.run_comap]
  refine Machine.run_serial (fun (s : Sessions) db => s = { db }) ?_ rfl requests
  rintro _ db ⟨id, now, request⟩ rfl
  exact run_wholeSession db id now request

end SiloForge
