import SiloForge.Cascades.Rows

/-!
# Deleting a task

A task is deleted after the rows of other tables that name it. An approval that names it gets the next task it is linked
with, or goes.

* `deleteTaskAndRelatedRecords` : the statements, in one transaction;
* `Unreferenced` : no execution run and no spawn request names the task;
* `taskDeleted_iff` : the deletion goes through exactly then.
-/

namespace SiloForge.Cascades

open Lib

/-! ## The statements -/

def taskIdsOfApproval (rows : List Row) (approvalId : Uuid) : List Uuid :=
  rows.filterMap fun
    | .approvalTaskLink link => if link.approvalId = approvalId then some link.taskId else none
    | _ => none

def isLinked (rows : List Row) (approvalIds : List Uuid) : Row → Bool
  | .approval a => decide (a.id ∈ approvalIds) && !(taskIdsOfApproval rows a.id).isEmpty
  | _ => false

def relink (rows : List Row) : Row → Row
  | .approval a => .approval { a with taskId := (taskIdsOfApproval rows a.id).head? }
  | r => r

theorem key_relink (rows : List Row) (r : Row) : key (relink rows r) = key r := by
  cases r <;> rfl

/-- The part of `delete_task_and_related_records` that is about approvals. -/
def releaseApprovals (s : RowStore) (taskId : Uuid) : Except Failure RowStore := do
  let primaryIds := (Ids.select .approvals .taskId (.given [taskId])).eval s.rows
  let s ← deleteRows s [⟨.approvalTaskLinks, [.taskId], .given [taskId]⟩]
  let unlinked := primaryIds.filter fun id => (taskIdsOfApproval s.rows id).isEmpty
  let s ← orFail (s.updateWhere? (isLinked s.rows primaryIds) (relink s.rows) fun r _ => key_relink s.rows r)
    .integrityError
  deleteRows s [⟨.approvals, [.id], .given unlinked⟩]

def taskLog (taskId : Uuid) : List (Delete TableName ColumnName Uuid) :=
  [⟨.activityEvents, [.taskId], .given [taskId]⟩,
   ⟨.taskFingerprints, [.taskId], .given [taskId]⟩]

def taskItems (taskId : Uuid) : List (Delete TableName ColumnName Uuid) :=
  [⟨.taskDependencies, [.taskId, .dependsOnTaskId], .given [taskId]⟩,
   ⟨.tagAssignments, [.taskId], .given [taskId]⟩,
   ⟨.taskCustomFieldValues, [.taskId], .given [taskId]⟩]

def deleteTaskAndRelatedRecords (s : RowStore) (taskId : Uuid) : Except Failure RowStore := do
  let s ← deleteRows s (taskLog taskId)
  let s ← releaseApprovals s taskId
  deleteRows s (taskItems taskId ++ [⟨.tasks, [.id], .given [taskId]⟩])

/-! ## Rows that name a task -/

def namesTask (taskId : Uuid) : Row → Prop
  | .taskDependency d => d.taskId = taskId ∨ d.dependsOnTaskId = taskId
  | .taskFingerprint f => f.taskId = taskId
  | .taskExecutionRun run => run.taskId = taskId
  | .tagAssignment a => a.taskId = taskId
  | .taskCustomFieldValue v => v.taskId = taskId
  | .approval a => a.taskId = some taskId
  | .approvalTaskLink l => l.taskId = taskId
  | .activityEvent e => e.taskId = some taskId
  | .siloSpawnRequest request => request.sourceTaskId = some taskId
  | _ => False

theorem mem_refs_tasks {taskId : Uuid} {r : Row} : (.tasks, taskId) ∈ refs r ↔ namesTask taskId r := by
  rw [refs, mem_named]
  cases r <;> simp [tableOf, key_eq, Row.key, foreignKeys_eq, checkedKeys, column_eq, Row.column, namesTask]

theorem mem_refs_approvals {approvalId : Uuid} {r : Row} :
    (.approvals, approvalId) ∈ refs r ↔ ∃ l, r = .approvalTaskLink l ∧ l.approvalId = approvalId := by
  rw [refs, mem_named]
  cases r <;> simp [tableOf, key_eq, Row.key, foreignKeys_eq, checkedKeys, column_eq, Row.column]

theorem approval_of_table {r : Row} (h : tableOf r = .approvals) : ∃ a, r = .approval a := by
  cases r <;> first | exact ⟨_, rfl⟩ | cases h

theorem link_ne_approvals (l : ApprovalTaskLink) : tableOf (Row.approvalTaskLink l) ≠ .approvals := by
  intro h
  cases h

theorem isLinked_of_other {rows : List Row} {ids : List Uuid} {r : Row} (h : tableOf r ≠ .approvals) :
    isLinked rows ids r = false := by
  cases r <;> first | rfl | exact absurd rfl h

theorem mem_taskIdsOfApproval {rows : List Row} {approvalId taskId : Uuid} :
    taskId ∈ taskIdsOfApproval rows approvalId ↔ .approvalTaskLink ⟨approvalId, taskId⟩ ∈ rows := by
  unfold taskIdsOfApproval
  rw [List.mem_filterMap]
  constructor
  · rintro ⟨r, hr, h⟩
    cases r with
    | approvalTaskLink l =>
      obtain ⟨hid, htask⟩ : l.approvalId = approvalId ∧ l.taskId = taskId := by simpa using h
      subst hid htask
      exact hr
    | _ => cases h
  · exact fun h => ⟨_, h, by simp⟩

/-! ## The approvals -/

/-- The approvals that named the task name another or none, and no link is with the task; other rows are as they were. -/
structure Released (taskId : Uuid) (s t : RowStore) : Prop where
  others : ∀ r, tableOf r ≠ .approvals → tableOf r ≠ .approvalTaskLinks → (r ∈ t ↔ r ∈ s)
  links : ∀ l, .approvalTaskLink l ∈ t → l.taskId ≠ taskId
  approvals : ∀ a, .approval a ∈ t → a.taskId ≠ some taskId

section Release
variable {s : RowStore} {taskId : Uuid}

theorem refs_relink {rows : List Row} {r : Row} {n : TableName × Uuid}
    (hn : n ∈ refs (relink rows r) ∨ n ∈ cascadeRefs (relink rows r)) :
    (n ∈ refs r ∨ n ∈ cascadeRefs r) ∨
      n.1 = .tasks ∧ ∃ approvalId, .approvalTaskLink ⟨approvalId, n.2⟩ ∈ rows := by
  cases r with
  | approval a =>
    rcases hn with hn | hn
    · obtain ⟨c, hc, hi⟩ := mem_named.mp hn
      by_cases htask : c = .taskId
      · subst htask
        have hhead : (taskIdsOfApproval rows a.id).head? = some n.2 := hi
        refine .inr ⟨?_, a.id, mem_taskIdsOfApproval.mp (List.mem_of_head? hhead)⟩
        simpa [tableOf, key_eq, relink, Row.key, foreignKeys_eq, checkedKeys] using hc
      · refine .inl (.inl (mem_named.mpr ⟨c, hc, ?_⟩))
        cases c <;> first | exact hi | exact absurd rfl htask
    · exact .inl (.inr hn)
  | _ => exact .inl hn

theorem exists_deleteLinks (s : RowStore) (taskId : Uuid) :
    ∃ t, deleteRows s [⟨.approvalTaskLinks, [.taskId], .given [taskId]⟩] = .ok t ∧
      ∀ r, r ∈ t ↔ r ∈ s ∧ (tableOf r = .approvalTaskLinks → column .taskId r ≠ some taskId) := by
  have hgiven : ∀ d ∈ [(⟨.approvalTaskLinks, [.taskId], .given [taskId]⟩ : Delete TableName ColumnName Uuid)],
      d.ids.reads = [] := by simp [Ids.reads]
  obtain ⟨t, ht⟩ := exists_deleteRows_of_unnamed (s := s) hgiven (by simp [namedTables])
  refine ⟨t, ht, fun r => ?_⟩
  rw [mem_deleteRows hgiven (by simp) ht]
  simp [Delete.clause, holds_singleton_eq_false, Ids.eval]

/-- The update of the linked approvals goes through: the task of a link is there. -/
theorem exists_relinked (s : RowStore) (ids : List Uuid) :
    ∃ t, s.updateWhere? (isLinked s.rows ids) (relink s.rows) (fun r _ => key_relink s.rows r) = some t ∧
      (∀ r, r ∈ t ↔ ∃ r' ∈ s, (if isLinked s.rows ids r' = true then relink s.rows r' else r') = r) ∧
      ∀ r, tableOf r ≠ .approvals → (r ∈ t ↔ r ∈ s) := by
  obtain ⟨t, ht⟩ : ∃ t, s.updateWhere? (isLinked s.rows ids) (relink s.rows)
      (fun r _ => key_relink s.rows r) = some t := by
    refine Store.exists_updateWhere? fun r hr _ n hn => ?_
    rcases refs_relink hn with hn | ⟨htable, approvalId, hlink⟩
    · exact s.closed r hr n hn
    · exact s.closed _ hlink n (.inl (by rw [← Prod.eta n, htable]; exact mem_refs_tasks.mpr rfl))
  have hmem := Store.mem_of_updateWhere? ht
  refine ⟨t, ht, hmem, fun r hr => ?_⟩
  rw [hmem]
  constructor
  · rintro ⟨r', hr', heq⟩
    have htable : tableOf r' = tableOf r := by
      rw [← heq]
      split
      · exact (congrArg Prod.fst (key_relink _ r')).symm
      · rfl
    rw [isLinked_of_other (htable ▸ hr), if_neg Bool.false_ne_true] at heq
    exact heq ▸ hr'
  · exact fun hr' => ⟨r, hr', by rw [isLinked_of_other hr, if_neg Bool.false_ne_true]⟩

theorem exists_deleteUnlinked {unlinked : List Uuid} (h : ∀ l, .approvalTaskLink l ∈ s → l.approvalId ∉ unlinked) :
    ∃ t, deleteRows s [⟨.approvals, [.id], .given unlinked⟩] = .ok t ∧
      ∀ r, r ∈ t ↔ r ∈ s ∧ (tableOf r = .approvals → ∀ i, column .id r = some i → i ∉ unlinked) := by
  have hgiven : ∀ d ∈ [(⟨.approvals, [.id], .given unlinked⟩ : Delete TableName ColumnName Uuid)],
      d.ids.reads = [] := by simp [Ids.reads]
  obtain ⟨t, ht⟩ : ∃ t, deleteRows s [⟨.approvals, [.id], .given unlinked⟩] = .ok t := by
    refine (exists_deleteRows (steady_of_given hgiven)).mpr fun r hr n hn => .inr ⟨?_, trivial⟩
    obtain ⟨table, approvalId⟩ := n
    rintro ⟨rfl, hremoved⟩
    obtain ⟨l, rfl, rfl⟩ := mem_refs_approvals.mp hn
    obtain ⟨r', -, hclause, hid⟩ := Delete.mem_removed.mp hremoved
    obtain ⟨htable', c, hc, i, hi, hcolumn⟩ := holds_eq_true.mp hclause
    obtain ⟨a, rfl⟩ := approval_of_table htable'
    obtain rfl := List.mem_singleton.mp hc
    obtain rfl : i = l.approvalId := Option.some.inj (hcolumn.symm.trans hid)
    exact h l hr hi
  refine ⟨t, ht, fun r => ?_⟩
  rw [mem_deleteRows hgiven (by simp) ht]
  simp [Delete.clause, holds_eq_false, Ids.eval]

theorem exists_releaseApprovals (s : RowStore) (taskId : Uuid) :
    ∃ t, releaseApprovals s taskId = .ok t ∧ Released taskId s t := by
  -- the links, the approvals that are linked with another task, and those that are linked with none
  obtain ⟨s₁, h₁, hmem₁⟩ := exists_deleteLinks s taskId
  let primaryIds := (Ids.select .approvals .taskId (.given [taskId])).eval s.rows
  let unlinked := primaryIds.filter fun id => (taskIdsOfApproval s₁.rows id).isEmpty
  obtain ⟨s₂, h₂, hmem₂, hother₂⟩ := exists_relinked s₁ primaryIds
  obtain ⟨s₃, h₃, hmem₃⟩ : ∃ t, deleteRows s₂ [⟨.approvals, [.id], .given unlinked⟩] = .ok t ∧
      ∀ r, r ∈ t ↔ r ∈ s₂ ∧ (tableOf r = .approvals → ∀ i, column .id r = some i → i ∉ unlinked) := by
    refine exists_deleteUnlinked fun l hl hmem => ?_
    have hlink : l.taskId ∈ taskIdsOfApproval s₁.rows l.approvalId :=
      mem_taskIdsOfApproval.mpr ((hother₂ _ (link_ne_approvals l)).mp hl)
    have hempty := List.isEmpty_iff.mp (List.mem_filter.mp hmem).2
    rw [hempty] at hlink
    exact List.not_mem_nil hlink
  refine ⟨s₃, bind_eq_ok.mpr ⟨s₁, h₁, bind_eq_ok.mpr ⟨s₂, orFail_eq_ok.mpr h₂, h₃⟩⟩, ?_⟩
  refine ⟨fun r happroval hlink => ?_, fun l hl => ?_, fun a ha htask => ?_⟩
  · rw [hmem₃, hother₂ r happroval, hmem₁]
    simp [happroval, hlink]
  · have hl₁ := (hmem₁ _).mp ((hother₂ _ (link_ne_approvals l)).mp ((hmem₃ _).mp hl).1)
    exact fun htask => hl₁.2 rfl (congrArg some htask)
  · obtain ⟨ha₂, hkept⟩ := (hmem₃ _).mp ha
    obtain ⟨r, hr, heq⟩ := (hmem₂ _).mp ha₂
    cases hlinked : isLinked s₁.rows primaryIds r with
    | true =>
      -- its next task is not the one whose links are gone
      rw [hlinked, if_pos rfl] at heq
      obtain ⟨b, rfl⟩ : ∃ b, r = .approval b := by
        cases r <;> first | exact ⟨_, rfl⟩ | cases hlinked
      obtain rfl := Row.approval.inj heq
      have hlink := mem_taskIdsOfApproval.mp (List.mem_of_head? htask)
      exact ((hmem₁ _).mp hlink).2 rfl rfl
    | false =>
      rw [hlinked, if_neg Bool.false_ne_true] at heq
      subst heq
      have hprimary : a.id ∈ primaryIds := by
        refine List.mem_filterMap.mpr ⟨.approval a, List.mem_filter.mpr ⟨((hmem₁ _).mp hr).1, ?_⟩, rfl⟩
        exact holds_eq_true.mpr ⟨rfl, .taskId, List.mem_cons_self, taskId, List.mem_cons_self, htask⟩
      refine hkept rfl a.id rfl (List.mem_filter.mpr ⟨hprimary, ?_⟩)
      simpa [isLinked, hprimary] using hlinked

end Release

/-! ## The task -/

/-- No execution run and no spawn request names the task. -/
structure Unreferenced (taskId : Uuid) (s : RowStore) : Prop where
  runs : ∀ run, .taskExecutionRun run ∈ s → run.taskId ≠ taskId
  spawnRequests : ∀ request, .siloSpawnRequest request ∈ s → request.sourceTaskId ≠ some taskId

/-- The deletion goes through, and no row that stays names the task. -/
def TaskDeleted (taskId : Uuid) (s : RowStore) : Prop :=
  ∃ t, deleteTaskAndRelatedRecords s taskId = .ok t ∧ (∀ r ∈ t, key r ≠ (.tasks, [taskId])) ∧
    ∀ r ∈ t, (.tasks, taskId) ∉ refs r ∧ (.tasks, taskId) ∉ cascadeRefs r

section Deletion
variable {s : RowStore} {taskId : Uuid}

theorem given_taskItems : ∀ d ∈ taskItems taskId, d.ids.reads = [] := by
  simp [taskItems, Ids.reads]

theorem plain_taskItems : ∀ d ∈ taskItems taskId, d.table ≠ .boards ∧ d.table ≠ .gateways := by
  simp [taskItems]

theorem unnamed_taskItems : ∀ d ∈ taskItems taskId, d.table ∉ namedTables := by
  simp [taskItems, namedTables]

theorem exists_deleteRows_task : (∃ t, deleteRows s (taskItems taskId ++ [⟨.tasks, [.id], .given [taskId]⟩]) = .ok t) ↔
    ∀ r ∈ s, namesTask taskId r → ∃ d ∈ taskItems taskId, d.clause s.rows r = true := by
  rw [exists_deleteRows_last given_taskItems plain_taskItems unnamed_taskItems (by decide) (by simp [checkedKeys])]
  simp only [mem_refs_tasks]

theorem takes_taskItems_iff {r : Row} (hnames : namesTask taskId r) :
    (∃ d ∈ taskItems taskId, d.clause s.rows r = true) ↔
      tableOf r ∈ [.taskDependencies, .tagAssignments, .taskCustomFieldValues] := by
  cases r <;> simp_all [taskItems, Delete.clause, holds_eq_true, Ids.eval, namesTask, tableOf, key_eq, Row.key,
    column_eq, Row.column]

/-- The state before the last statements: rows that name the task are of the tables that are left. -/
structure Detached (taskId : Uuid) (s t : RowStore) : Prop where
  run : ∀ u, deleteTaskAndRelatedRecords s taskId = .ok u ↔
    deleteRows t (taskItems taskId ++ [⟨.tasks, [.id], .given [taskId]⟩]) = .ok u
  kept : ∀ r ∈ s, tableOf r ∉ [.activityEvents, .taskFingerprints, .approvals, .approvalTaskLinks] → r ∈ t
  named : ∀ r ∈ t, namesTask taskId r → r ∈ s ∧ tableOf r ∈
    [.taskDependencies, .tagAssignments, .taskCustomFieldValues, .taskExecutionRuns, .siloSpawnRequests]

theorem exists_detached (s : RowStore) (taskId : Uuid) : ∃ t, Detached taskId s t := by
  have hgiven : ∀ d ∈ taskLog taskId, d.ids.reads = [] := by simp [taskLog, Ids.reads]
  obtain ⟨s₁, h₁⟩ := exists_deleteRows_of_unnamed (s := s) hgiven (by simp [taskLog, namedTables])
  have hmem₁ : ∀ r, r ∈ s₁ ↔ r ∈ s ∧
      (tableOf r = .activityEvents → column .taskId r ≠ some taskId) ∧
        (tableOf r = .taskFingerprints → column .taskId r ≠ some taskId) := by
    intro r
    rw [mem_deleteRows hgiven (by simp [taskLog]) h₁]
    simp [taskLog, Delete.clause, holds_singleton_eq_false, Ids.eval]
  obtain ⟨s₂, h₂, hreleased⟩ := exists_releaseApprovals s₁ taskId
  refine ⟨s₂, fun t => ?_, fun r hr htable => ?_, fun r hr hnames => ?_⟩
  · rw [deleteTaskAndRelatedRecords, h₁]
    show (releaseApprovals s₁ taskId >>= _) = _ ↔ _
    rw [h₂]
    rfl
  · simp only [List.mem_cons, List.not_mem_nil, or_false, not_or] at htable
    obtain ⟨hevent, hfingerprint, happroval, hlink⟩ := htable
    exact (hreleased.others r happroval hlink).mpr
      ((hmem₁ r).mpr ⟨hr, fun h => absurd h hevent, fun h => absurd h hfingerprint⟩)
  · have hold : tableOf r ≠ .approvals → tableOf r ≠ .approvalTaskLinks → r ∈ s ∧ _ :=
      fun happroval hlink => (hmem₁ r).mp ((hreleased.others r happroval hlink).mp hr)
    cases r with
    | taskDependency | tagAssignment | taskCustomFieldValue | taskExecutionRun | siloSpawnRequest =>
      exact ⟨(hold (by rintro ⟨⟩) (by rintro ⟨⟩)).1, by simp [tableOf, key_eq, Row.key]⟩
    | activityEvent e => exact absurd hnames ((hold (by rintro ⟨⟩) (by rintro ⟨⟩)).2.1 rfl)
    | taskFingerprint f => exact absurd (congrArg some hnames) ((hold (by rintro ⟨⟩) (by rintro ⟨⟩)).2.2 rfl)
    | approvalTaskLink l => exact absurd hnames (hreleased.links l hr)
    | approval a => exact absurd hnames (hreleased.approvals a hr)
    | _ => exact hnames.elim

theorem exists_deleteTask_iff :
    (∃ t, deleteTaskAndRelatedRecords s taskId = .ok t) ↔ Unreferenced taskId s := by
  obtain ⟨s₂, h⟩ := exists_detached s taskId
  simp only [h.run]
  rw [exists_deleteRows_task]
  constructor
  · intro htaken
    have htables : ∀ r ∈ s₂, namesTask taskId r →
        tableOf r ∈ [.taskDependencies, .tagAssignments, .taskCustomFieldValues] :=
      fun r hr hnames => (takes_taskItems_iff hnames).mp (htaken r hr hnames)
    refine ⟨fun run hmem hnames => ?_, fun request hmem hnames => ?_⟩
    · have htable := htables (.taskExecutionRun run) (h.kept _ hmem (by simp [tableOf, key_eq, Row.key])) hnames
      simp [tableOf, key_eq, Row.key] at htable
    · have htable := htables (.siloSpawnRequest request) (h.kept _ hmem (by simp [tableOf, key_eq, Row.key])) hnames
      simp [tableOf, key_eq, Row.key] at htable
  · intro hfree r hr hnames
    obtain ⟨hmem, htable⟩ := h.named r hr hnames
    refine (takes_taskItems_iff hnames).mpr ?_
    cases r with
    | taskDependency | tagAssignment | taskCustomFieldValue => simp [tableOf, key_eq, Row.key]
    | taskExecutionRun run => exact absurd hnames (hfree.runs run hmem)
    | siloSpawnRequest request => exact absurd hnames (hfree.spawnRequests request hmem)
    | _ => simp [tableOf, key_eq, Row.key] at htable

/-- **A task is deleted** exactly where no execution run and no spawn request names it. -/
theorem taskDeleted_iff : TaskDeleted taskId s ↔ Unreferenced taskId s := by
  rw [← exists_deleteTask_iff]
  constructor
  · exact fun ⟨t, ht, _⟩ => ⟨t, ht⟩
  · rintro ⟨t, ht⟩
    obtain ⟨s₂, h⟩ := exists_detached s taskId
    exact ⟨t, ht, gone_of_deleteRows_last given_taskItems plain_taskItems (by decide) ((h.run t).mp ht)⟩

end Deletion

def executedStore : RowStore :=
  .ofRows
    [.organization 1, .board { id := 2, organizationId := 1 }, .silo { id := 3, organizationId := 1 },
     .task { id := 4, boardId := some 2, title := "Ship" },
     .taskExecutionRun
       { id := 5, organizationId := 1, boardId := 2, taskId := 4, siloId := 3, roleSlug := "worker", status := .succeeded }]
    (by decide) (by decide)

/-- **An executed task** is not deleted. -/
theorem not_taskDeleted : ¬ ∀ (s : RowStore) (task : Task), .task task ∈ s → TaskDeleted task.id s := by
  intro h
  obtain ⟨t, ht, -⟩ := h executedStore { id := 4, boardId := some 2, title := "Ship" } (by
    simp [executedStore, Store.mem_def, Store.ofRows])
  have hfree := exists_deleteTask_iff.mp ⟨t, ht⟩
  exact hfree.runs _ (List.mem_cons_of_mem _ (List.mem_cons_of_mem _ (List.mem_cons_of_mem _ (List.mem_cons_of_mem _
    List.mem_cons_self)))) rfl

end SiloForge.Cascades
