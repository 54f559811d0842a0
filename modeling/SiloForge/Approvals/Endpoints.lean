import SiloForge.Approvals.Links

/-!
# Creating and resolving approvals

`createApproval` is open to users and agents, `updateApproval` to users only. A request that would make a
second approval pending for a task is refused by `ensureNoPendingApprovalConflicts`.
-/

namespace SiloForge

open Lib

structure ApprovalCreate where
  actionType : String
  taskId : Option Uuid := none
  taskIds : List Uuid := []
  payload : Json := .null
  status : ApprovalStatus := .pending
  agentId : Option Uuid := none
  leadReasoning : Option String := none

namespace ApprovalCreate

/-- Task identifiers deduplicated, `taskId` first and aligned with them. -/
def normalizeTaskLinks (payload : ApprovalCreate) : ApprovalCreate :=
  let taskIds := dedupeUuidList (payload.taskId.toList ++ payload.taskIds)
  { payload with taskIds, taskId := taskIds.head? }

def reasonIn (value : Json) : Option String :=
  ((value.get? "reason").bind Json.str?).filter (!isBlank ·)

/-- Every approval request carries a reason, which `leadReasoning` may supply. -/
def validateLeadReasoning (payload : ApprovalCreate) : Except Failure ApprovalCreate :=
  if (reasonIn payload.payload).isSome || (((payload.payload.get? "decision").bind reasonIn)).isSome then
    .ok payload
  else
    match payload.leadReasoning.filter (!isBlank ·) with
    | none => .error (.text 422 "lead reasoning is required")
    | some reason =>
      let fields := match payload.payload with
        | .obj fields => fields
        | _ => []
      .ok { payload with payload := .obj (Json.setField fields "reason" (.str (strip reason))) }

end ApprovalCreate

def pendingConflictDetail (conflicts : List (Uuid × Uuid)) : Failure :=
  .http 409
    { message := "Each task can have only one pending approval."
      ids := conflicts.map fun c => ("conflicts", [c.1, c.2]) }

/-- Refuse when another approval of the board is pending for one of the tasks. -/
def ensureNoPendingApprovalConflicts (db : Db) (boardId : Uuid) (taskIds : List Uuid)
    (excludeApprovalId : Option Uuid) : Except Failure Unit :=
  let conflicts := pendingApprovalConflicts db boardId taskIds excludeApprovalId
  require (conflicts = []) (pendingConflictDetail conflicts)

/-! ## Creation -/

def insertApproval (db : Db) (approval : Approval) : Except Failure (Table Approval) := do
  require (approval.taskId.all fun id => (db.tasks.get? id).isSome) .integrityError
  require (approval.agentId.all fun id => (db.agents.get? id).isSome) .integrityError
  orFail (db.approvals.insert? approval) .integrityError

def storeApproval (db : Db) (approval : Approval) (taskIds : List Uuid) : Except Failure Db := do
  let approvals ← insertApproval db approval
  let approvalTaskLinks ← replaceApprovalTaskLinks db approval.id taskIds
  return { db with approvals, approvalTaskLinks }

def newApproval (payload : ApprovalCreate) (now : Time) (boardId approvalId : Uuid) : Approval × List Uuid :=
  let taskIds := normalizeTaskIds payload.taskId payload.taskIds payload.payload
  ({ id := approvalId
     boardId
     taskId := taskIds.head?
     agentId := payload.agentId
     actionType := payload.actionType
     payload := payload.payload
     status := payload.status
     createdAt := now }, taskIds)

def createApproval (db : Db) (now : Time) (boardId approvalId : Uuid) (actor : Actor)
    (payload : ApprovalCreate) : Except Failure Db := do
  let actor ← requireUserOrAgent db actor
  let board ← getBoardForActorWrite db boardId actor
  let payload ← payload.normalizeTaskLinks.validateLeadReasoning
  let (approval, taskIds) := newApproval payload now board.id approvalId
  if payload.status = .pending then
    ensureNoPendingApprovalConflicts db board.id taskIds none
  storeApproval db approval taskIds

/-! ## Resolution -/

/-- The tasks an approval stands for: its links, or its own `taskId`. -/
def approvalTaskIds (db : Db) (approval : Approval) : List Uuid :=
  match linkedTaskIds db.approvalTaskLinks approval.id with
  | [] => approval.taskId.toList
  | ids => ids

def Approval.resolve (approval : Approval) (now : Time) (status : ApprovalStatus) : Approval :=
  { approval with status, resolvedAt := if status = .pending then approval.resolvedAt else some now }

/-- Give an approval a status: one that is set back to pending must find no other pending one. -/
def resolveApproval (db : Db) (now : Time) (board : Board) (approval : Approval) (targetStatus : ApprovalStatus) :
    Except Failure Db := do
  if targetStatus = .pending ∧ approval.status ≠ .pending then
    ensureNoPendingApprovalConflicts db board.id (approvalTaskIds db approval) (some approval.id)
  return { db with approvals := db.approvals.put (approval.resolve now targetStatus) }

def updateApproval (db : Db) (now : Time) (boardId approvalId userId : Uuid) (status : Option ApprovalStatus) :
    Except Failure Db := do
  let board ← getBoardForUserWrite db boardId userId
  let approval ← orFail (db.approvals.get? approvalId) (.status 404)
  require (approval.boardId = board.id) (.status 404)
  match status with
  | none => return db
  | some targetStatus => resolveApproval db now board approval targetStatus

/-! ## What the endpoints store -/

variable {approvalId : Uuid}

theorem replaceApprovalTaskLinks_eq_ok {db : Db} {taskIds : List Uuid} {links : Table ApprovalTaskLink}
    (h : replaceApprovalTaskLinks db approvalId taskIds = .ok links) :
    (∀ id ∈ taskIds, (db.tasks.get? id).isSome) ∧
      ∀ l, l ∈ links ↔ (l ∈ db.approvalTaskLinks ∧ l.approvalId ≠ approvalId) ∨
        (l.approvalId = approvalId ∧ l.taskId ∈ taskIds) := by
  simp only [replaceApprovalTaskLinks, bind_eq_ok, require_eq_ok, orFail_eq_ok] at h
  obtain ⟨_, htasks, hlinks⟩ := h
  refine ⟨htasks, fun l => ?_⟩
  rw [Table.mem_insertAll? hlinks, Table.mem_deleteWhere, decide_eq_false_iff_not, List.mem_map]
  constructor
  · rintro (h | ⟨id, hid, rfl⟩)
    · exact .inl h
    · exact .inr ⟨rfl, hid⟩
  · rintro (h | ⟨rfl, hid⟩)
    · exact .inl h
    · exact .inr ⟨_, hid, rfl⟩

theorem storeApproval_eq_ok {db t : Db} {approval : Approval} {taskIds : List Uuid}
    (h : storeApproval db approval taskIds = .ok t) :
    ∃ approvals approvalTaskLinks, db.approvals.insert? approval = some approvals ∧
      replaceApprovalTaskLinks db approval.id taskIds = .ok approvalTaskLinks ∧
      t = { db with approvals, approvalTaskLinks } := by
  simp only [storeApproval, insertApproval, bind_eq_ok, require_eq_ok, orFail_eq_ok, pure_eq_ok] at h
  obtain ⟨approvals, ⟨_, -, _, -, hinsert⟩, links, hlinks, rfl⟩ := h
  exact ⟨approvals, links, hinsert, hlinks, rfl⟩

theorem createApproval_eq_ok {db t : Db} {now : Time} {boardId : Uuid} {actor : Actor} {payload : ApprovalCreate}
    (h : createApproval db now boardId approvalId actor payload = .ok t) :
    ∃ checked : ApprovalCreate, checked.status = payload.status ∧
      storeApproval db (newApproval checked now boardId approvalId).1
        (newApproval checked now boardId approvalId).2 = .ok t := by
  simp only [createApproval, bind_eq_ok] at h
  obtain ⟨ctx, -, board, hboard, checked, hchecked, h⟩ := h
  obtain ⟨-, rfl⟩ := getBoardForActor_eq_ok hboard
  have hstatus : checked.status = payload.status := by
    unfold ApprovalCreate.validateLeadReasoning at hchecked
    split at hchecked
    · rw [← Except.ok.inj hchecked]
      rfl
    · split at hchecked
      · cases hchecked
      · rw [← Except.ok.inj hchecked]
        rfl
  split at h
  · simp only [bind_eq_ok] at h
    obtain ⟨_, -, h⟩ := h
    exact ⟨checked, hstatus, h⟩
  · exact ⟨checked, hstatus, h⟩

theorem updateApproval_eq_ok {db t : Db} {now : Time} {boardId userId : Uuid} {status : Option ApprovalStatus}
    (h : updateApproval db now boardId approvalId userId status = .ok t) :
    t = db ∨ ∃ approval targetStatus, status = some targetStatus ∧ db.approvals.get? approvalId = some approval ∧
      t = { db with approvals := db.approvals.put (approval.resolve now targetStatus) } := by
  simp only [updateApproval, bind_eq_ok, orFail_eq_ok, require_eq_ok] at h
  obtain ⟨board, -, approval, hget, _, -, h⟩ := h
  split at h
  · exact .inl (pure_eq_ok.mp h).symm
  · rename_i target
    right
    refine ⟨approval, target, rfl, hget, ?_⟩
    unfold resolveApproval at h
    split at h
    · simp only [bind_eq_ok, pure_eq_ok] at h
      obtain ⟨_, -, h⟩ := h
      exact h.symm
    · exact (pure_eq_ok.mp h).symm

end SiloForge
