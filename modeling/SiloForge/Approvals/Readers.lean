import SiloForge.Approvals.Endpoints

/-!
# Who reads which approvals of a task

An approval references the tasks it is linked to, or, without any link, the task of its own row. The counts of a task,
the approvals that stand in its way and the approvals that are listed each spell this out in statements of their own.

* `taskCountsForBoard` : how many approvals of a board, and how many pending ones, a task has;
* `approvalReads`, `listApprovals` : approvals with the tasks they show;
* `taskCountsForBoard_eq`, `pendingConflict_iff` : both count and find the approvals that reference the task.
-/

namespace SiloForge

open Lib

instance (links : Table ApprovalTaskLink) (a : Approval) (taskId : Uuid) : Decidable (References links a taskId) :=
  inferInstanceAs (Decidable (_ ∨ _ ∧ _))

def isPending (a : Approval) : Bool := a.status = .pending

def referencing (db : Db) (boardId taskId : Uuid) : List Approval :=
  db.approvals.rows.filter fun a => a.boardId = boardId ∧ References db.approvalTaskLinks a taskId

/-! ## Counts -/

/-- The rows of the first statement: the links joined with the approvals of the board. -/
def linkedRows (db : Db) (boardId : Uuid) : List (Uuid × Approval) :=
  db.approvalTaskLinks.rows.filterMap fun l =>
    ((db.approvals.get? l.approvalId).filter fun a => a.boardId = boardId).map fun a => (l.taskId, a)

/-- The rows of the second statement: the approvals of the board with a task of their own and no links. -/
def legacyRows (db : Db) (boardId : Uuid) : List (Uuid × Approval) :=
  (db.approvals.rows.filter fun a => a.boardId = boardId ∧ hasLinks db.approvalTaskLinks a.id = false).filterMap
    fun a => a.taskId.map fun taskId => (taskId, a)

/-- `task_counts_for_board`: the counts of a task, of all tasks or of those asked for. -/
def taskCountsForBoard (db : Db) (boardId : Uuid) (taskIds : Option (List Uuid)) (taskId : Uuid) :
    Option (Nat × Nat) :=
  if taskIds.all fun ids => taskId ∈ ids then
    let counts := groupCounts isPending (linkedRows db boardId) taskId
    match groupCounts isPending (legacyRows db boardId) taskId with
    | none => counts
    | some (total, pending) =>
      let previous := counts.getD (0, 0)
      some (previous.1 + total, previous.2 + pending)
  else none

/-! ## Lists -/

structure ApprovalRead where
  id : Uuid
  boardId : Uuid
  agentId : Option Uuid
  actionType : String
  payload : Json
  status : ApprovalStatus
  createdAt : Time
  resolvedAt : Option Time
  taskId : Option Uuid
  taskIds : List Uuid
  taskTitles : List String

def approvalToRead (approval : Approval) (taskIds : List Uuid) (taskTitles : List String) : ApprovalRead where
  id := approval.id
  boardId := approval.boardId
  agentId := approval.agentId
  actionType := approval.actionType
  payload := approval.payload
  status := approval.status
  createdAt := approval.createdAt
  resolvedAt := approval.resolvedAt
  taskId := taskIds.head?
  taskIds
  taskTitles

def approvalReads (db : Db) (approvals : List Approval) : List ApprovalRead :=
  approvals.map fun approval =>
    let taskIds := approvalTaskIds db approval
    approvalToRead approval taskIds (taskIds.filterMap fun taskId => (db.tasks.get? taskId).map (·.title))

/-- `ORDER BY created_at DESC`; the database may order rows of one time as it likes. -/
def approvalsNewestFirst (rank : Uuid → Nat) (a b : Approval) : Bool :=
  b.createdAt < a.createdAt ∨ (a.createdAt = b.createdAt ∧ rank a.id ≤ rank b.id)

def listApprovals (db : Db) (boardId : Uuid) (status : Option ApprovalStatus) (rank : Uuid → Nat)
    (offset limit : Nat) : List ApprovalRead :=
  let approvals := db.approvals.rows.filter fun a => a.boardId = boardId ∧ status.all (a.status = ·)
  approvalReads db (((approvals.mergeSort (approvalsNewestFirst rank)).drop offset).take limit)

/-! ## What they find -/

section Readers
variable {db : Db} {boardId taskId : Uuid}

variable {a : Approval}

theorem mem_referencing : a ∈ referencing db boardId taskId ↔
    a ∈ db.approvals ∧ a.boardId = boardId ∧ References db.approvalTaskLinks a taskId := by
  rw [referencing, List.mem_filter, decide_eq_true_eq, Table.mem_def]

theorem mem_approvalTaskIds : taskId ∈ approvalTaskIds db a ↔ References db.approvalTaskLinks a taskId := by
  have hlinked : linkedTaskIds db.approvalTaskLinks a.id = [] ↔ hasLinks db.approvalTaskLinks a.id = false := by
    rw [← Bool.not_eq_true, hasLinks_iff, List.eq_nil_iff_forall_not_mem]
    simp only [mem_linkedTaskIds, not_exists]
  unfold approvalTaskIds References
  split
  · rename_i hnone
    have hnot : ¬ isLinked db.approvalTaskLinks a.id taskId = true :=
      fun h => absurd (mem_linkedTaskIds.mpr h) (hnone ▸ List.not_mem_nil)
    rw [Option.mem_toList, or_iff_right hnot, and_iff_left (hlinked.mp hnone)]
  · rename_i ids hsome
    have hlegacy : ¬ (a.taskId = some taskId ∧ hasLinks db.approvalTaskLinks a.id = false) :=
      fun h => hsome (hlinked.mpr h.2)
    rw [or_iff_left hlegacy, mem_linkedTaskIds]

theorem mem_linkedRows : (taskId, a) ∈ linkedRows db boardId ↔
    a ∈ db.approvals ∧ a.boardId = boardId ∧ isLinked db.approvalTaskLinks a.id taskId = true := by
  unfold linkedRows
  rw [List.mem_filterMap]
  constructor
  · rintro ⟨⟨approvalId, linkedId⟩, hlink, h⟩
    obtain ⟨b, hb, heq⟩ := Option.map_eq_some_iff.mp h
    obtain ⟨rfl, rfl⟩ := Prod.mk.inj heq
    obtain ⟨hget, hboard⟩ := Option.filter_eq_some_iff.mp hb
    obtain ⟨hmem, hkey⟩ := Table.get?_eq_some.mp hget
    obtain rfl : b.id = approvalId := hkey
    exact ⟨hmem, of_decide_eq_true hboard, isLinked_iff.mpr hlink⟩
  · rintro ⟨hmem, hboard, hlinked⟩
    refine ⟨⟨a.id, taskId⟩, isLinked_iff.mp hlinked, ?_⟩
    have hget : db.approvals.get? a.id = some a := Table.get?_key hmem
    rw [hget, Option.filter_some, if_pos (decide_eq_true hboard)]
    rfl

theorem nodup_linkedRows : (linkedRows db boardId).Nodup := by
  have hlinks : db.approvalTaskLinks.rows.Nodup := List.Nodup.of_map _ db.approvalTaskLinks.nodup
  refine hlinks.filterMap ?_
  rintro ⟨approvalId, taskId⟩ ⟨approvalId', taskId'⟩ ⟨joined, a⟩ h h'
  have hjoin : ∀ {l : ApprovalTaskLink}, (joined, a) ∈ (((db.approvals.get? l.approvalId).filter
      fun a => a.boardId = boardId).map fun a => (l.taskId, a)) → l.approvalId = a.id ∧ l.taskId = joined := by
    intro l hl
    obtain ⟨b, hb, heq⟩ := Option.map_eq_some_iff.mp hl
    obtain ⟨rfl, rfl⟩ := Prod.mk.inj heq
    exact ⟨(Table.key_of_get? (Option.filter_eq_some_iff.mp hb).1).symm, rfl⟩
  obtain ⟨rfl, rfl⟩ := hjoin h
  obtain ⟨rfl, rfl⟩ := hjoin h'
  rfl

theorem mem_legacyRows : (taskId, a) ∈ legacyRows db boardId ↔
    a ∈ db.approvals ∧ a.boardId = boardId ∧ a.taskId = some taskId ∧
      hasLinks db.approvalTaskLinks a.id = false := by
  unfold legacyRows
  rw [List.mem_filterMap]
  constructor
  · rintro ⟨b, hb, h⟩
    obtain ⟨own, hown, heq⟩ := Option.map_eq_some_iff.mp h
    obtain ⟨rfl, rfl⟩ := Prod.mk.inj heq
    obtain ⟨hmem, hrow⟩ := List.mem_filter.mp hb
    obtain ⟨hboard, hlinks⟩ := of_decide_eq_true hrow
    exact ⟨hmem, hboard, hown, hlinks⟩
  · rintro ⟨hmem, hboard, hown, hlinks⟩
    exact ⟨a, List.mem_filter.mpr ⟨hmem, decide_eq_true ⟨hboard, hlinks⟩⟩, by rw [hown]; rfl⟩

theorem nodup_legacyRows : (legacyRows db boardId).Nodup := by
  have hrows : db.approvals.rows.Nodup := List.Nodup.of_map _ db.approvals.nodup
  refine (hrows.filter _).filterMap ?_
  rintro a a' ⟨own, b⟩ h h'
  obtain ⟨_, -, heq⟩ := Option.map_eq_some_iff.mp h
  obtain ⟨_, -, heq'⟩ := Option.map_eq_some_iff.mp h'
  exact (Prod.mk.inj heq).2.trans (Prod.mk.inj heq').2.symm

theorem group_perm {rows : List (Uuid × Approval)} {p : Approval → Bool} (hnodup : rows.Nodup)
    (hmem : ∀ a, (taskId, a) ∈ rows ↔ a ∈ db.approvals ∧ p a = true) :
    ((rows.filter fun r => r.1 = taskId).map (·.2)).Perm (db.approvals.rows.filter p) := by
  have hrows : db.approvals.rows.Nodup := List.Nodup.of_map _ db.approvals.nodup
  refine (List.perm_ext_iff_of_nodup ?_ (hrows.filter _)).mpr fun a => ?_
  · refine (hnodup.filter _).map_on ?_
    rintro ⟨t, a⟩ h ⟨t', a'⟩ h' (rfl : a = a')
    have ht : t = taskId := of_decide_eq_true (List.mem_filter.mp h).2
    have ht' : t' = taskId := of_decide_eq_true (List.mem_filter.mp h').2
    rw [ht, ht']
  · rw [List.mem_filter, ← Table.mem_def, ← hmem a, List.mem_map]
    constructor
    · rintro ⟨⟨t, b⟩, h, rfl⟩
      obtain ⟨hrow, ht⟩ := List.mem_filter.mp h
      obtain rfl : t = taskId := of_decide_eq_true ht
      exact hrow
    · exact fun h => ⟨(taskId, a), List.mem_filter.mpr ⟨h, decide_eq_true rfl⟩, rfl⟩

/-- The approvals that reference a task are those linked to it and those without links that name it. -/
theorem countP_referencing (p : Approval → Bool) : (referencing db boardId taskId).countP p =
    (db.approvals.rows.filter fun a => a.boardId = boardId ∧
      isLinked db.approvalTaskLinks a.id taskId = true).countP p +
      (db.approvals.rows.filter fun a => a.boardId = boardId ∧ a.taskId = some taskId ∧
        hasLinks db.approvalTaskLinks a.id = false).countP p := by
  unfold referencing
  rw [List.countP_filter, List.countP_filter, List.countP_filter]
  induction db.approvals.rows with
  | nil => rfl
  | cons a rest ih =>
    rw [List.countP_cons, List.countP_cons, List.countP_cons, ih]
    have hlinks : isLinked db.approvalTaskLinks a.id taskId = true → hasLinks db.approvalTaskLinks a.id = true :=
      fun h => hasLinks_iff.mpr ⟨taskId, h⟩
    by_cases hlinked : isLinked db.approvalTaskLinks a.id taskId = true
    · simp only [References, hlinked, hlinks hlinked, true_or, and_true, Bool.true_eq_false, and_false, decide_false,
        Bool.and_false, Bool.false_eq_true, if_false, Nat.add_zero]
      omega
    · simp only [References, hlinked, false_or, Bool.false_eq_true, and_false, decide_false, Bool.and_false, if_false,
        Nat.add_zero]
      omega

/-- **Counts**: those of the approvals that reference the task. -/
theorem taskCountsForBoard_eq {taskIds : Option (List Uuid)} (hasked : ∀ ids ∈ taskIds, taskId ∈ ids) :
    (taskCountsForBoard db boardId taskIds taskId).getD (0, 0) =
      ((referencing db boardId taskId).length, (referencing db boardId taskId).countP isPending) := by
  have hlinkedRows : ((((linkedRows db boardId).filter fun r => r.1 = taskId).map (·.2)).Perm
      (db.approvals.rows.filter fun a => a.boardId = boardId ∧ isLinked db.approvalTaskLinks a.id taskId = true)) :=
    group_perm nodup_linkedRows fun a => by rw [mem_linkedRows, decide_eq_true_eq]
  have hlegacyRows : ((((legacyRows db boardId).filter fun r => r.1 = taskId).map (·.2)).Perm
      (db.approvals.rows.filter fun a => a.boardId = boardId ∧ a.taskId = some taskId ∧
        hasLinks db.approvalTaskLinks a.id = false)) :=
    group_perm nodup_legacyRows fun a => by rw [mem_legacyRows, decide_eq_true_eq]
  have hlinked := groupCounts_getD (p := isPending) hlinkedRows
  have hlegacy := groupCounts_getD (p := isPending) hlegacyRows
  have htotal := @countP_referencing db boardId taskId fun _ => true
  simp only [List.countP_true] at htotal
  have hall : (taskIds.all fun ids => taskId ∈ ids) = true := by
    rw [Option.all_eq_true]
    exact fun ids hids => decide_eq_true (hasked ids hids)
  unfold taskCountsForBoard
  rw [if_pos hall, htotal, countP_referencing]
  dsimp only
  split
  · rename_i hnone
    rw [hnone] at hlegacy
    obtain ⟨hzero, hzero'⟩ := Prod.mk.inj hlegacy
    rw [hlinked, ← hzero, ← hzero', Nat.add_zero, Nat.add_zero]
  · rename_i total pending hsome
    rw [hsome] at hlegacy
    obtain ⟨rfl, rfl⟩ := Prod.mk.inj hlegacy
    rw [Option.getD_some, hlinked]

/-- **Conflicts**: a task has one where some pending approval references it. -/
theorem pendingConflict_iff {taskIds : List Uuid} (hasked : taskId ∈ taskIds) :
    (∃ approvalId, (taskId, approvalId) ∈ pendingApprovalConflicts db boardId taskIds none) ↔
      ∃ a ∈ referencing db boardId taskId, isPending a = true := by
  have hfound : (∃ approvalId, (taskId, approvalId) ∈ pendingApprovalConflicts db boardId taskIds none) ↔
      pendingConflict db boardId none taskId ≠ none := by
    unfold pendingApprovalConflicts
    simp only [List.mem_filterMap, mem_dedupeUuidList, Option.map_eq_some_iff, Prod.mk.injEq]
    rw [Option.ne_none_iff_exists']
    constructor
    · rintro ⟨_, other, -, a, ha, rfl, -⟩
      exact ⟨a, ha⟩
    · rintro ⟨a, ha⟩
      exact ⟨a.id, taskId, hasked, a, ha, rfl, rfl⟩
  rw [hfound, Ne, pendingConflict_eq_none]
  simp only [mem_referencing, PendingFor, isPending, decide_eq_true_eq, reduceCtorEq, imp_false, not_forall, not_not]
  constructor
  · rintro ⟨a, hmem, hboard, hpending, href⟩
    exact ⟨a, ⟨hmem, hboard, href⟩, hpending⟩
  · rintro ⟨a, ⟨hmem, hboard, href⟩, hpending⟩
    exact ⟨a, hmem, hboard, hpending, href⟩

end Readers

end SiloForge
