import SiloForge.Tasks.Dependencies

/-!
# Approvals and the tasks they are about

An approval names its tasks through link rows, or, in older rows, through its own `taskId`.

* `normalizeTaskIds` : the tasks a request names, its payload's aliases included;
* `pendingApprovalConflicts` : the pending approvals that stand in the way of another one;
* `PendingFor` : an approval of a board is pending and concerns a task; `pendingApprovalConflicts_eq_nil` : the
  query finds nothing exactly where none is.
-/

namespace SiloForge

open Lib

/-! ## The tasks of a request -/

def taskIdKeys : List String := ["task_id", "taskId", "taskID"]

def taskIdsKeys : List String := ["task_ids", "taskIds", "taskIDs"]

def coerceUuid : Json → Option Uuid
  | .str s => Uuid.ofString? s
  | _ => none

def items : Json → List Json
  | .arr xs => xs
  | _ => []

/-- The task ids under the aliases of an approval payload. -/
def extractTaskIds (payload : Json) : List Uuid :=
  dedupeUuidList <|
    (taskIdsKeys.flatMap fun k => (((payload.get? k).map items).getD []).filterMap coerceUuid) ++
      taskIdKeys.filterMap fun k => (payload.get? k).bind coerceUuid

/-- Merge explicit and payload-provided task references into an ordered unique list. -/
def normalizeTaskIds (taskId : Option Uuid) (taskIds : List Uuid) (payload : Json) : List Uuid :=
  dedupeUuidList (taskIds ++ taskId.toList ++ extractTaskIds payload)

def linkedTaskIds (links : Table ApprovalTaskLink) (approvalId : Uuid) : List Uuid :=
  (links.rows.filter fun l => l.approvalId = approvalId).map (·.taskId)

def replaceApprovalTaskLinks (db : Db) (approvalId : Uuid) (taskIds : List Uuid) :
    Except Failure (Table ApprovalTaskLink) := do
  require (∀ id ∈ taskIds, (db.tasks.get? id).isSome) .integrityError
  orFail ((db.approvalTaskLinks.deleteWhere fun l => l.approvalId = approvalId).insertAll?
    (taskIds.map fun taskId => { approvalId, taskId })) .integrityError

/-! ## Pending approvals -/

/-- The order of the conflict query: creation time, then id. -/
def approvalBefore (a b : Approval) : Bool :=
  a.createdAt < b.createdAt || (a.createdAt = b.createdAt && a.id < b.id)

def isLinked (links : Table ApprovalTaskLink) (approvalId taskId : Uuid) : Bool :=
  (links.get? (approvalId, taskId)).isSome

def hasLinks (links : Table ApprovalTaskLink) (approvalId : Uuid) : Bool :=
  links.rows.any fun l => l.approvalId = approvalId

/-- The pending approvals of a board the query looks among. -/
def pendingOnBoard (db : Db) (boardId : Uuid) (excludeApprovalId : Option Uuid) : List Approval :=
  db.approvals.rows.filter fun a =>
    a.boardId = boardId ∧ a.status = .pending ∧ excludeApprovalId ≠ some a.id

/-- The first statement: the oldest pending approval linked to a task. -/
def linkedConflict (db : Db) (boardId : Uuid) (excludeApprovalId : Option Uuid) (taskId : Uuid) :
    Option Approval :=
  firstBy approvalBefore
    ((pendingOnBoard db boardId excludeApprovalId).filter fun a => isLinked db.approvalTaskLinks a.id taskId)

/-- The second statement: the oldest pending approval without links that names a task itself. -/
def legacyConflict (db : Db) (boardId : Uuid) (excludeApprovalId : Option Uuid) (taskId : Uuid) :
    Option Approval :=
  firstBy approvalBefore
    ((pendingOnBoard db boardId excludeApprovalId).filter fun a =>
      a.taskId = some taskId ∧ hasLinks db.approvalTaskLinks a.id = false)

def pendingConflict (db : Db) (boardId : Uuid) (excludeApprovalId : Option Uuid) (taskId : Uuid) :
    Option Approval :=
  (linkedConflict db boardId excludeApprovalId taskId).or (legacyConflict db boardId excludeApprovalId taskId)

/-- The first conflicting pending approval of each requested task. -/
def pendingApprovalConflicts (db : Db) (boardId : Uuid) (taskIds : List Uuid)
    (excludeApprovalId : Option Uuid) : List (Uuid × Uuid) :=
  (dedupeUuidList taskIds).filterMap fun taskId =>
    (pendingConflict db boardId excludeApprovalId taskId).map fun a => (taskId, a.id)

def taskHasPendingLinkedApproval (db : Db) (boardId taskId : Uuid) : Bool :=
  (pendingApprovalConflicts db boardId [taskId] none).any fun c => c.1 = taskId

/-- Whether a task has an approved approval on its board, linked or legacy. -/
def taskHasApprovedLinkedApproval (db : Db) (boardId taskId : Uuid) : Bool :=
  db.approvals.rows.any fun a =>
    a.boardId = boardId && a.status = .approved &&
      (a.taskId = some taskId || isLinked db.approvalTaskLinks a.id taskId)

/-! ## What the queries find -/

/-- An approval references a task: through a link row, or, without any, through its `taskId`. -/
def References (links : Table ApprovalTaskLink) (a : Approval) (taskId : Uuid) : Prop :=
  isLinked links a.id taskId ∨ a.taskId = some taskId ∧ hasLinks links a.id = false

/-- An approval stands for a task: by its link row or its own `taskId`. -/
def StandsFor (links : Table ApprovalTaskLink) (a : Approval) (taskId : Uuid) : Prop :=
  a.taskId = some taskId ∨ isLinked links a.id taskId = true

def PendingFor (db : Db) (boardId taskId : Uuid) (a : Approval) : Prop :=
  a ∈ db.approvals ∧ a.boardId = boardId ∧ a.status = .pending ∧ References db.approvalTaskLinks a taskId

variable {links : Table ApprovalTaskLink} {approvalId taskId boardId : Uuid} {db : Db} {exclude : Option Uuid}

theorem isLinked_iff : isLinked links approvalId taskId = true ↔ ApprovalTaskLink.mk approvalId taskId ∈ links := by
  rw [isLinked, Option.isSome_iff_exists]
  constructor
  · rintro ⟨⟨_, _⟩, hget⟩
    obtain ⟨hmem, hkey⟩ := Table.get?_eq_some.mp hget
    obtain ⟨rfl, rfl⟩ := Prod.mk.inj hkey
    exact hmem
  · exact fun hmem => ⟨_, Table.get?_eq_some.mpr ⟨hmem, rfl⟩⟩

theorem hasLinks_iff : hasLinks links approvalId = true ↔ ∃ taskId, isLinked links approvalId taskId = true := by
  simp only [hasLinks, List.any_eq_true, decide_eq_true_eq, isLinked_iff, Table.mem_def]
  constructor
  · rintro ⟨⟨_, taskId⟩, hmem, rfl⟩
    exact ⟨taskId, hmem⟩
  · rintro ⟨taskId, hmem⟩
    exact ⟨_, hmem, rfl⟩

theorem mem_linkedTaskIds : taskId ∈ linkedTaskIds links approvalId ↔ isLinked links approvalId taskId = true := by
  rw [isLinked_iff]
  constructor
  · intro h
    simp only [linkedTaskIds, List.mem_map, List.mem_filter, decide_eq_true_eq] at h
    obtain ⟨⟨_, _⟩, ⟨hmem, rfl⟩, rfl⟩ := h
    exact hmem
  · intro h
    simp only [linkedTaskIds, List.mem_map, List.mem_filter, decide_eq_true_eq]
    exact ⟨_, ⟨h, rfl⟩, rfl⟩

theorem mem_pendingOnBoard {a : Approval} : a ∈ pendingOnBoard db boardId exclude ↔
      a ∈ db.approvals ∧ a.boardId = boardId ∧ a.status = .pending ∧ exclude ≠ some a.id := by
  simp [pendingOnBoard, Table.mem_def]

theorem linkedConflict_eq_none : linkedConflict db boardId exclude taskId = none ↔
      ∀ a ∈ db.approvals, a.boardId = boardId → a.status = .pending →
        isLinked db.approvalTaskLinks a.id taskId = true → exclude = some a.id := by
  rw [linkedConflict, firstBy_eq_none, List.filter_eq_nil_iff]
  simp only [mem_pendingOnBoard]
  constructor
  · intro h a ha hboard hpending hlinked
    by_contra hne
    exact h a ⟨ha, hboard, hpending, hne⟩ hlinked
  · rintro h a ⟨ha, hboard, hpending, hne⟩ hlinked
    exact hne (h a ha hboard hpending hlinked)

theorem legacyConflict_eq_none : legacyConflict db boardId exclude taskId = none ↔
      ∀ a ∈ db.approvals, a.boardId = boardId → a.status = .pending →
        a.taskId = some taskId → hasLinks db.approvalTaskLinks a.id = false → exclude = some a.id := by
  rw [legacyConflict, firstBy_eq_none, List.filter_eq_nil_iff]
  simp only [mem_pendingOnBoard, decide_eq_true_eq]
  constructor
  · intro h a ha hboard hpending hown hlinks
    by_contra hne
    exact h a ⟨ha, hboard, hpending, hne⟩ ⟨hown, hlinks⟩
  · rintro h a ⟨ha, hboard, hpending, hne⟩ ⟨hown, hlinks⟩
    exact hne (h a ha hboard hpending hown hlinks)

theorem pendingConflict_eq_none : pendingConflict db boardId exclude taskId = none ↔
      ∀ a, PendingFor db boardId taskId a → exclude = some a.id := by
  rw [pendingConflict, Option.or_eq_none_iff, linkedConflict_eq_none, legacyConflict_eq_none]
  constructor
  · rintro ⟨hlinked, hlegacy⟩ a ⟨ha, hboard, hpending, href⟩
    rcases href with href | ⟨hown, hlinks⟩
    · exact hlinked a ha hboard hpending href
    · exact hlegacy a ha hboard hpending hown hlinks
  · intro h
    constructor
    · intro a ha hboard hpending hlinked
      exact h a ⟨ha, hboard, hpending, .inl hlinked⟩
    · intro a ha hboard hpending hown hlinks
      exact h a ⟨ha, hboard, hpending, .inr ⟨hown, hlinks⟩⟩

theorem pendingApprovalConflicts_eq_nil {taskIds : List Uuid} :
    pendingApprovalConflicts db boardId taskIds exclude = [] ↔
      ∀ taskId ∈ taskIds, ∀ a, PendingFor db boardId taskId a → exclude = some a.id := by
  simp [pendingApprovalConflicts, List.filterMap_eq_nil_iff, pendingConflict_eq_none]

theorem taskHasPendingLinkedApproval_iff :
    taskHasPendingLinkedApproval db boardId taskId = true ↔ ∃ a, PendingFor db boardId taskId a := by
  have hone : taskHasPendingLinkedApproval db boardId taskId = true ↔
      pendingConflict db boardId none taskId ≠ none := by
    have hdedupe : dedupeUuidList [taskId] = [taskId] := rfl
    cases h : pendingConflict db boardId none taskId <;>
      simp [taskHasPendingLinkedApproval, pendingApprovalConflicts, hdedupe, h]
  rw [hone, Ne, pendingConflict_eq_none]
  simp

theorem taskHasApprovedLinkedApproval_iff : taskHasApprovedLinkedApproval db boardId taskId = true ↔
      ∃ a ∈ db.approvals, a.boardId = boardId ∧ a.status = .approved ∧
        (a.taskId = some taskId ∨ isLinked db.approvalTaskLinks a.id taskId) := by
  simp [taskHasApprovedLinkedApproval, Table.mem_def, and_assoc]

end SiloForge
