import SiloForge.Cascades.Rows

/-!
# Deleting an organization

The owner of an organization deletes it with its boards, its groups, its gateways and its members, table by table, in
one transaction.

* `organizationItems`, `deleteMyOrg` : the statements;
* `OfOrganization` : the organization a row belongs to;
* `OrgKeeps` : a row that stays names nothing that is deleted;
* `organizationDeleted_iff` : the deletion goes through, and leaves other organizations alone, exactly then.
-/

namespace SiloForge.Cascades

open Lib

/-! ## The statements -/

section Statements
variable (orgId : Uuid)

/-- `board_ids`. -/
def orgBoardIds : Ids TableName ColumnName Uuid := .select .boards .organizationId (.given [orgId])

/-- `task_ids`. -/
def orgTaskIds : Ids TableName ColumnName Uuid := .select .tasks .boardId (orgBoardIds orgId)

/-- `agent_ids`. -/
def orgAgentIds : Ids TableName ColumnName Uuid := .select .agents .boardId (orgBoardIds orgId)

/-- `member_ids`. -/
def orgMemberIds : Ids TableName ColumnName Uuid := .select .organizationMembers .organizationId (.given [orgId])

/-- `invite_ids`. -/
def orgInviteIds : Ids TableName ColumnName Uuid := .select .organizationInvites .organizationId (.given [orgId])

/-- `group_ids`. -/
def orgGroupIds : Ids TableName ColumnName Uuid := .select .boardGroups .organizationId (.given [orgId])

def orgApprovalIds : Ids TableName ColumnName Uuid := .select .approvals .boardId (orgBoardIds orgId)

def organizationItems : List (Delete TableName ColumnName Uuid) :=
  [⟨.activityEvents, [.taskId], orgTaskIds orgId⟩,
   ⟨.activityEvents, [.agentId], orgAgentIds orgId⟩,
   ⟨.taskDependencies, [.boardId], orgBoardIds orgId⟩,
   ⟨.taskFingerprints, [.boardId], orgBoardIds orgId⟩,
   ⟨.approvalTaskLinks, [.approvalId], orgApprovalIds orgId⟩,
   ⟨.approvals, [.boardId], orgBoardIds orgId⟩,
   ⟨.boardMemory, [.boardId], orgBoardIds orgId⟩,
   ⟨.boardWebhookPayloads, [.boardId], orgBoardIds orgId⟩,
   ⟨.boardWebhooks, [.boardId], orgBoardIds orgId⟩,
   ⟨.boardOnboardingSessions, [.boardId], orgBoardIds orgId⟩,
   ⟨.organizationBoardAccess, [.boardId], orgBoardIds orgId⟩,
   ⟨.organizationInviteBoardAccess, [.boardId], orgBoardIds orgId⟩,
   ⟨.organizationBoardAccess, [.organizationMemberId], orgMemberIds orgId⟩,
   ⟨.organizationInviteBoardAccess, [.organizationInviteId], orgInviteIds orgId⟩,
   ⟨.tasks, [.boardId], orgBoardIds orgId⟩,
   ⟨.agents, [.boardId], orgBoardIds orgId⟩,
   ⟨.boards, [.organizationId], .given [orgId]⟩,
   ⟨.boardGroupMemory, [.boardGroupId], orgGroupIds orgId⟩,
   ⟨.boardGroups, [.organizationId], .given [orgId]⟩,
   ⟨.gateways, [.organizationId], .given [orgId]⟩,
   ⟨.organizationInvites, [.organizationId], .given [orgId]⟩,
   ⟨.organizationMembers, [.organizationId], .given [orgId]⟩]

def leaveActive : RowUpdate where
  selects
    | .user u => u.activeOrganizationId = some orgId
    | _ => false
  write
    | .user u => .user { u with activeOrganizationId := none }
    | r => r
  key_write r := by cases r <;> rfl

end Statements

/-- `delete_my_org`, of the organization of a membership. -/
def deleteMyOrg (s : RowStore) (member : OrganizationMember) : Except Failure RowStore := do
  require (isOrgAdmin member) (.status 403)
  require (member.role = .owner) (.text 403 "Only organization owners can delete organizations")
  let s ← deleteRows s (organizationItems member.organizationId)
  let s ← updateRows s [leaveActive member.organizationId]
  deleteRows s [⟨.organizations, [.id], .given [member.organizationId]⟩]

/-! ## The rows of an organization -/

/-- The columns that say to which row a row belongs: the first that is set does. -/
def ownerColumns : TableName → List (ColumnName × TableName)
  | .organizations | .users => []
  | .organizationMembers | .organizationInvites | .boardGroups | .gateways | .boards | .tags
  | .taskCustomFieldDefinitions | .taskExecutionRuns | .silos | .siloSpawnRequests | .marketplaceSkills | .skillPacks =>
    [(.organizationId, .organizations)]
  | .boardGroupMemory => [(.boardGroupId, .boardGroups)]
  | .agents => [(.boardId, .boards), (.gatewayId, .gateways)]
  | .activityEvents => [(.boardId, .boards), (.taskId, .tasks), (.agentId, .agents)]
  | .tagAssignments | .taskCustomFieldValues => [(.taskId, .tasks)]
  | .approvalTaskLinks => [(.approvalId, .approvals)]
  | .siloRoles | .siloRuntimeOperations => [(.siloId, .silos)]
  | .siloRuntimeOperationResults => [(.operationId, .siloRuntimeOperations)]
  | .gatewayInstalledSkills => [(.gatewayId, .gateways)]
  | .organizationBoardAccess | .organizationInviteBoardAccess | .tasks | .taskDependencies | .taskFingerprints
  | .boardTaskCustomFields | .approvals | .boardMemory | .boardOnboardingSessions | .boardWebhooks
  | .boardWebhookPayloads => [(.boardId, .boards)]

def owner? (r : Row) : Option (TableName × Uuid) :=
  (ownerColumns (tableOf r)).findSome? fun c => (column c.1 r).map fun i => (c.2, i)

/-- The row belongs to the organization, over rows that belong to it. -/
inductive OfOrganization (s : RowStore) (orgId : Uuid) : Row → Prop
  | organization : OfOrganization s orgId (.organization orgId)
  | owned {r parent : Row} {n : TableName × Uuid} : parent ∈ s → owner? r = some n → key parent = (n.1, [n.2]) →
      OfOrganization s orgId parent → OfOrganization s orgId r

/-- The deletion goes through; the organization is gone, nothing that is left names a row that is gone, and the rows of
other organizations are as they were. -/
def OrganizationDeleted (s : RowStore) (member : OrganizationMember) : Prop :=
  ∃ t, deleteMyOrg s member = .ok t ∧ (∀ r ∈ t, key r ≠ (.organizations, [member.organizationId])) ∧
    (∀ r ∈ t, ∀ n, n ∈ refs r ∨ n ∈ cascadeRefs r →
      ∀ gone ∈ s, (∀ r' ∈ t, key r' ≠ key gone) → key gone ≠ (n.1, [n.2])) ∧
    ∀ orgId, orgId ≠ member.organizationId → ∀ r ∈ s, OfOrganization s orgId r → r ∈ t

/-! ## What the rows allow -/

/-- The ids that are deleted from a table whose rows others name. -/
def goneWithOrg (s : RowStore) (orgId : Uuid) : TableName → List Uuid
  | .boards => (orgBoardIds orgId).eval s.rows
  | .tasks => (orgTaskIds orgId).eval s.rows
  | .agents => (orgAgentIds orgId).eval s.rows
  | .organizationMembers => (orgMemberIds orgId).eval s.rows
  | .organizationInvites => (orgInviteIds orgId).eval s.rows
  | .boardGroups => (orgGroupIds orgId).eval s.rows
  | .approvals => (orgApprovalIds orgId).eval s.rows
  | .boardWebhooks => (Ids.select .boardWebhooks .boardId (orgBoardIds orgId)).eval s.rows
  | .gateways => (Ids.select .gateways .organizationId (.given [orgId])).eval s.rows
  | .organizations => [orgId]
  | _ => []

def GoesWithOrg (s : RowStore) (orgId : Uuid) : Row → Prop
  | .activityEvent e =>
    (∃ taskId ∈ e.taskId, taskId ∈ goneWithOrg s orgId .tasks) ∨
      (∃ agentId ∈ e.agentId, agentId ∈ goneWithOrg s orgId .agents) ∨
        ∃ boardId ∈ e.boardId, boardId ∈ goneWithOrg s orgId .boards
  | .taskDependency d => d.boardId ∈ goneWithOrg s orgId .boards
  | .taskFingerprint f => f.boardId ∈ goneWithOrg s orgId .boards
  | .approvalTaskLink l => l.approvalId ∈ goneWithOrg s orgId .approvals
  | .approval a => a.boardId ∈ goneWithOrg s orgId .boards
  | .boardMemory m => m.boardId ∈ goneWithOrg s orgId .boards
  | .boardWebhookPayload p => p.boardId ∈ goneWithOrg s orgId .boards
  | .boardWebhook w => w.boardId ∈ goneWithOrg s orgId .boards
  | .boardOnboardingSession o => o.boardId ∈ goneWithOrg s orgId .boards
  | .organizationBoardAccess a =>
    a.boardId ∈ goneWithOrg s orgId .boards ∨ a.organizationMemberId ∈ goneWithOrg s orgId .organizationMembers
  | .organizationInviteBoardAccess a =>
    a.boardId ∈ goneWithOrg s orgId .boards ∨ a.organizationInviteId ∈ goneWithOrg s orgId .organizationInvites
  | .task t => ∃ boardId ∈ t.boardId, boardId ∈ goneWithOrg s orgId .boards
  | .agent a => ∃ boardId ∈ a.boardId, boardId ∈ goneWithOrg s orgId .boards
  | .board b => b.organizationId = orgId
  | .boardGroupMemory m => m.boardGroupId ∈ goneWithOrg s orgId .boardGroups
  | .boardGroup g => g.organizationId = orgId
  | .gateway g => g.organizationId = orgId
  | .organizationInvite i => i.organizationId = orgId
  | .organizationMember m => m.organizationId = orgId
  | .gatewayInstalledSkill i => i.gatewayId ∈ goneWithOrg s orgId .gateways
  | _ => False

/-- A row that stays names nothing that is deleted with the organization, and a row that is deleted is not of another
organization. -/
def OrgKeeps (s : RowStore) (orgId : Uuid) : Row → Prop :=
  let boards := goneWithOrg s orgId .boards
  let tasks := goneWithOrg s orgId .tasks
  let agents := goneWithOrg s orgId .agents
  let gateways := goneWithOrg s orgId .gateways
  fun
    | .tag row => row.organizationId ≠ orgId
    | .taskCustomFieldDefinition row => row.organizationId ≠ orgId
    | .silo row | .marketplaceSkill row | .skillPack row => row.organizationId ≠ orgId
    | .taskExecutionRun run =>
      run.organizationId ≠ orgId ∧ run.boardId ∉ boards ∧ run.taskId ∉ tasks ∧
        ∀ agentId ∈ run.requestedByAgentId, agentId ∉ agents
    | .siloSpawnRequest request =>
      request.organizationId ≠ orgId ∧ (∀ boardId ∈ request.boardId, boardId ∉ boards) ∧
        ∀ taskId ∈ request.sourceTaskId, taskId ∉ tasks
    | .tagAssignment a => a.taskId ∉ tasks
    | .taskCustomFieldValue v => v.taskId ∉ tasks
    | .boardTaskCustomField f => f.boardId ∉ boards
    -- the main agents of gateways, and roles on them
    | .agent a => (∀ boardId ∈ a.boardId, boardId ∉ boards) → a.gatewayId ∉ gateways
    | .siloRole role => ∀ gatewayId ∈ role.gatewayId, gatewayId ∉ gateways
    -- rows of other organizations
    | .board b => b.organizationId ≠ orgId →
      (∀ gatewayId ∈ b.gatewayId, gatewayId ∉ gateways) ∧
        ∀ groupId ∈ b.boardGroupId, groupId ∉ goneWithOrg s orgId .boardGroups
    | .task t => (∀ boardId ∈ t.boardId, boardId ∉ boards) → ∀ agentId ∈ t.assignedAgentId, agentId ∉ agents
    | .taskDependency d => d.boardId ∉ boards → d.taskId ∉ tasks ∧ d.dependsOnTaskId ∉ tasks
    | .taskFingerprint f => f.boardId ∉ boards → f.taskId ∉ tasks
    | .approval a =>
      a.boardId ∉ boards → (∀ taskId ∈ a.taskId, taskId ∉ tasks) ∧ ∀ agentId ∈ a.agentId, agentId ∉ agents
    | .approvalTaskLink l => l.approvalId ∉ goneWithOrg s orgId .approvals → l.taskId ∉ tasks
    | .boardWebhook w => w.boardId ∉ boards → ∀ agentId ∈ w.agentId, agentId ∉ agents
    | .boardWebhookPayload p => p.boardId ∉ boards → p.webhookId ∉ goneWithOrg s orgId .boardWebhooks
    | .organizationBoardAccess a => a.organizationMemberId ∈ goneWithOrg s orgId .organizationMembers → a.boardId ∈ boards
    | .organizationInviteBoardAccess a =>
      a.organizationInviteId ∈ goneWithOrg s orgId .organizationInvites → a.boardId ∈ boards
    | .activityEvent e =>
      (∃ taskId ∈ e.taskId, taskId ∈ tasks) ∨ (∃ agentId ∈ e.agentId, agentId ∈ agents) →
        ∀ other, OfOrganization s other (.activityEvent e) → other = orgId
    | _ => True

/-! ## What goes -/

/-- The tables from which rows are deleted, in this order, and those that are read for it. -/
def organizationReads : List (TableName × List TableName) :=
  [(.activityEvents, [.tasks, .boards]), (.activityEvents, [.agents, .boards]), (.taskDependencies, [.boards]),
   (.taskFingerprints, [.boards]), (.approvalTaskLinks, [.approvals, .boards]), (.approvals, [.boards]),
   (.boardMemory, [.boards]), (.boardWebhookPayloads, [.boards]), (.boardWebhooks, [.boards]),
   (.boardOnboardingSessions, [.boards]), (.organizationBoardAccess, [.boards]),
   (.organizationInviteBoardAccess, [.boards]), (.organizationBoardAccess, [.organizationMembers]),
   (.organizationInviteBoardAccess, [.organizationInvites]), (.tasks, [.boards]), (.agents, [.boards]), (.boards, []),
   (.boardGroupMemory, [.boardGroups]), (.boardGroups, []), (.gateways, []), (.organizationInvites, []),
   (.organizationMembers, [])]

theorem reads_organizationItems (orgId : Uuid) :
    (organizationItems orgId).map (fun d => (d.table, d.ids.reads)) = organizationReads := rfl

theorem steady_organizationItems (orgId : Uuid) : Steady Row (organizationItems orgId) :=
  steady_of_reads (reads_organizationItems orgId) (by decide) (by decide)

theorem before_organizationItems {t : TableName} (ht : t ≠ .activityEvents) :
    ∀ k ∈ checkedKeys t, Before Row t k.2 (organizationReads.map (·.1)) := by
  cases t <;> first | exact absurd rfl ht | decide

section Rows
variable {s : RowStore} {orgId : Uuid}

variable {n : TableName × Uuid} {r : Row}

theorem gone_organizationItems_iff (hn : n.1 ∈ namedTables) (horg : n.1 ≠ .organizations) :
    Gone s.rows (organizationItems orgId) n ↔ n.2 ∈ goneWithOrg s orgId n.1 := by
  obtain ⟨t, i⟩ := n
  unfold Gone
  simp only [organizationItems, List.exists_mem_cons_iff, List.not_mem_nil, false_and, exists_false, or_false]
  simp only [namedTables, List.mem_cons, List.not_mem_nil, or_false] at hn
  rcases hn with rfl | rfl | rfl | rfl | rfl | rfl | rfl | rfl | rfl | rfl | rfl | rfl | rfl | rfl | rfl | rfl
  · exact absurd rfl horg
  all_goals
    simp only [reduceCtorEq, false_and, true_and, false_or, or_false]
    first | rfl | exact iff_of_false id List.not_mem_nil

theorem exists_gone_cascadeRefs {c : ColumnName} {t : TableName} (hkeys : cascadingKeys (tableOf r) = [(c, t)])
    (hnamed : t ∈ namedTables) (horg : t ≠ .organizations) :
    (∃ n ∈ cascadeRefs r, Gone s.rows (organizationItems orgId) n) ↔
      ∃ i, column c r = some i ∧ i ∈ goneWithOrg s orgId t := by
  have hmem : ∀ n, n ∈ cascadeRefs r ↔ n.1 = t ∧ column c r = some n.2 := by
    intro n
    rw [cascadeRefs, mem_named, cascades_eq, hkeys]
    simp only [List.mem_singleton, Prod.mk.injEq]
    constructor
    · rintro ⟨c', ⟨rfl, htable⟩, hi⟩
      exact ⟨htable, hi⟩
    · rintro ⟨htable, hi⟩
      exact ⟨c, ⟨rfl, htable⟩, hi⟩
  constructor
  · rintro ⟨⟨t', i⟩, hn, hgone⟩
    obtain ⟨rfl, hi⟩ := (hmem _).mp hn
    exact ⟨i, hi, (gone_organizationItems_iff hnamed horg).mp hgone⟩
  · rintro ⟨i, hi, hgone⟩
    exact ⟨(t, i), (hmem _).mpr ⟨rfl, hi⟩, (gone_organizationItems_iff hnamed horg).mpr hgone⟩

theorem taken_organizationItems_iff (s : RowStore) (orgId : Uuid) (r : Row) :
    Taken s.rows (organizationItems orgId) r ↔ GoesWithOrg s orgId r := by
  have huntouched : (∀ t ∈ organizationReads.map (·.1), ¬ Touches Row t (tableOf r)) →
      ¬ Taken s.rows (organizationItems orgId) r := fun h => not_taken_of_untouched h
  cases r with
  | approvalTaskLink | taskDependency | taskFingerprint | approval | boardMemory | boardWebhookPayload | boardWebhook
  | boardOnboardingSession | boardGroupMemory =>
    exact (taken_iff_mem rfl rfl rfl rfl).trans Iff.rfl
  | board | boardGroup | gateway | organizationInvite | organizationMember =>
    exact (taken_iff_mem rfl rfl rfl rfl).trans List.mem_singleton
  | task t =>
    refine (taken_iff_of_column (c := .boardId) rfl rfl rfl).trans ?_
    exact exists_congr fun i => and_comm
  | agent a =>
    refine (taken_iff_of_column (c := .boardId) rfl rfl rfl).trans ?_
    exact exists_congr fun i => and_comm
  | organizationBoardAccess a =>
    have hitems : (organizationItems orgId).filter (fun d => decide (d.table = tableOf (Row.organizationBoardAccess a))) =
        [⟨.organizationBoardAccess, [.boardId], orgBoardIds orgId⟩,
         ⟨.organizationBoardAccess, [.organizationMemberId], orgMemberIds orgId⟩] := rfl
    rw [taken_iff_of_plain rfl, hitems]
    simp only [List.exists_mem_cons_iff, List.not_mem_nil, false_and, exists_false,
      or_false, column_eq, Row.column, Option.some.injEq, exists_eq_right', GoesWithOrg, goneWithOrg]
  | organizationInviteBoardAccess a =>
    have hitems : (organizationItems orgId).filter
        (fun d => decide (d.table = tableOf (Row.organizationInviteBoardAccess a))) =
        [⟨.organizationInviteBoardAccess, [.boardId], orgBoardIds orgId⟩,
         ⟨.organizationInviteBoardAccess, [.organizationInviteId], orgInviteIds orgId⟩] := rfl
    rw [taken_iff_of_plain rfl, hitems]
    simp only [List.exists_mem_cons_iff, List.not_mem_nil, false_and, exists_false,
      or_false, column_eq, Row.column, Option.some.injEq, exists_eq_right', GoesWithOrg, goneWithOrg]
  | activityEvent e =>
    have hitems : (organizationItems orgId).filter (fun d => decide (d.table = tableOf (Row.activityEvent e))) =
        [⟨.activityEvents, [.taskId], orgTaskIds orgId⟩, ⟨.activityEvents, [.agentId], orgAgentIds orgId⟩] := rfl
    rw [taken_iff, hitems, exists_gone_cascadeRefs rfl (by decide) (by decide)]
    simp only [List.exists_mem_cons_iff, List.not_mem_nil, false_and, exists_false,
      or_false, column_eq, Row.column, GoesWithOrg, goneWithOrg, or_assoc, and_comm, Option.mem_def]
  | gatewayInstalledSkill i =>
    have hitems : (organizationItems orgId).filter
        (fun d => decide (d.table = tableOf (Row.gatewayInstalledSkill i))) = [] := rfl
    rw [taken_iff, hitems, exists_gone_cascadeRefs rfl (by decide) (by decide)]
    simp only [List.not_mem_nil, false_and, exists_false, false_or, column_eq,
      Row.column, Option.some.injEq, exists_eq_left', GoesWithOrg]
  | _ => exact iff_of_false (huntouched (by simp only [tableOf, key_eq, Row.key]; decide)) id

theorem noLater_event (e : ActivityEventRow) (hn : n ∈ refs (Row.activityEvent e)) :
    NoLater s.rows (organizationItems orgId) (.activityEvent e) n := by
  have hnamed := table_named hn
  obtain ⟨c, hcolumn, htakes⟩ := takes_event hn
  obtain ⟨t, i⟩ := n
  have horg : t ≠ .organizations := by
    rintro rfl
    simp at hcolumn
  by_cases hgone : i ∈ goneWithOrg s orgId t
  · rcases hcolumn with ⟨rfl, rfl⟩ | ⟨rfl, rfl⟩
    · have hitems : organizationItems orgId = [⟨.activityEvents, [.taskId], orgTaskIds orgId⟩] ++
          ⟨.activityEvents, [.agentId], orgAgentIds orgId⟩ :: (organizationItems orgId).tail.tail := rfl
      rw [hitems]
      exact noLater_of_takes (by simp) (htakes _ _ hgone)
    · have hitems : organizationItems orgId = [] ++
          ⟨.activityEvents, [.taskId], orgTaskIds orgId⟩ :: (organizationItems orgId).tail := rfl
      rw [hitems]
      exact noLater_of_takes nofun (htakes _ _ hgone)
  · exact noLater_of_not_gone fun h => hgone ((gone_organizationItems_iff hnamed horg).mp h)

theorem not_gone_organizations (hn : n.1 = .organizations) : ¬ Gone s.rows (organizationItems orgId) n := by
  rintro ⟨d, hd, htable, -⟩
  have htables : (organizationItems orgId).map (·.table) = organizationReads.map (·.1) := rfl
  have hmem := List.mem_map_of_mem (f := (·.table)) hd
  rw [htables, htable, hn] at hmem
  exact absurd hmem (by decide)

/-- The statements go through at a row, and it does not name the organization in the end. -/
def Passes (s : RowStore) (orgId : Uuid) (r : Row) : Prop :=
  (∀ n ∈ refs r, NoLater s.rows (organizationItems orgId) r n) ∧
    (¬ GoesWithOrg s orgId r → tableOf r ≠ .users → (.organizations, orgId) ∉ refs r)

theorem passes_iff (hevent : tableOf r ≠ .activityEvents) (huser : tableOf r ≠ .users) :
    Passes s orgId r ↔ GoesWithOrg s orgId r ∨ ∀ n ∈ refs r, n.2 ∉ goneWithOrg s orgId n.1 := by
  have hone : ∀ n ∈ refs r, NoLater s.rows (organizationItems orgId) r n ↔
      GoesWithOrg s orgId r ∨ ¬ Gone s.rows (organizationItems orgId) n := by
    intro n hn
    obtain ⟨c, hc, -⟩ := mem_named.mp hn
    have hbefore : Before Row (tableOf r) n.1 ((organizationItems orgId).map (·.table)) :=
      before_organizationItems hevent _ hc
    rw [noLater_iff_of_before hbefore, taken_organizationItems_iff]
  rw [Passes, forall₂_congr hone]
  by_cases hgoes : GoesWithOrg s orgId r
  · exact iff_of_true ⟨fun _ _ => .inl hgoes, fun h => absurd hgoes h⟩ (.inl hgoes)
  simp only [hgoes, false_or, not_false_eq_true, forall_const]
  constructor
  · rintro ⟨hstays, horg⟩ ⟨t, i⟩ hn hgone
    by_cases ht : t = .organizations
    · subst ht
      obtain rfl : i = orgId := List.mem_singleton.mp hgone
      exact horg huser hn
    · exact hstays _ hn ((gone_organizationItems_iff (table_named hn) ht).mpr hgone)
  · refine fun h => ⟨fun n hn hgone => ?_, fun _ hn => h _ hn (List.mem_singleton_self orgId)⟩
    by_cases ht : n.1 = .organizations
    · exact not_gone_organizations ht hgone
    · exact h n hn ((gone_organizationItems_iff (table_named hn) ht).mp hgone)

/-! ## Whose the rows are -/

theorem owner_of_ofOrganization (h : OfOrganization s orgId r) :
    r = .organization orgId ∨ ∃ parent ∈ s, ∃ n, owner? r = some n ∧ key parent = (n.1, [n.2]) ∧
      OfOrganization s orgId parent := by
  cases h with
  | organization => exact .inl rfl
  | owned hparent howner hkey h => exact .inr ⟨_, hparent, _, howner, hkey, h⟩

theorem OfOrganization.unique {orgId' : Uuid} (h : OfOrganization s orgId r) (h' : OfOrganization s orgId' r) :
    orgId' = orgId := by
  induction h with
  | organization =>
    rcases owner_of_ofOrganization h' with heq | ⟨_, _, _, howner, _⟩
    · cases heq
      rfl
    · cases howner
  | owned hparent howner hkey _ ih =>
    rcases owner_of_ofOrganization h' with rfl | ⟨parent', hparent', n', howner', hkey', h'⟩
    · cases howner
    · obtain rfl := Option.some.inj (howner.symm.trans howner')
      obtain rfl := Store.eq_of_key_eq hparent hparent' (hkey.trans hkey'.symm)
      exact ih h'

def Owned (s : RowStore) (orgId : Uuid) (table : TableName) (ids : List Uuid) : Prop :=
  ∀ i ∈ ids, ∃ r ∈ s, key r = (table, [i]) ∧ OfOrganization s orgId r

theorem Owned.ofOrganization {table : TableName} {ids : List Uuid} {i : Uuid} (h : Owned s orgId table ids)
    (hi : i ∈ ids) (howner : owner? r = some (table, i)) : OfOrganization s orgId r := by
  obtain ⟨parent, hparent, hkey, hof⟩ := h i hi
  exact .owned hparent howner hkey hof

theorem owned_select {table other : TableName} {c : ColumnName} {of : Ids TableName ColumnName Uuid}
    (hof : Owned s orgId other (of.eval s.rows)) (howner : (ownerColumns table).head? = some (c, other)) :
    Owned s orgId table ((Ids.select table c of).eval s.rows) := by
  intro i hi
  obtain ⟨r, hr, rfl, ⟨j, hj, hcolumn⟩, hid⟩ := Ids.mem_select.mp hi
  refine ⟨r, hr, (key_eq_iff (n := (tableOf r, i))).mpr ⟨rfl, hid⟩, hof.ofOrganization hj ?_⟩
  obtain ⟨rest, hcolumns⟩ := List.head?_eq_some_iff.mp howner
  rw [owner?, hcolumns, List.findSome?_cons, hcolumn]
  rfl

section Owned
variable (horg : .organization orgId ∈ s)
include horg

theorem owned_organization : Owned s orgId .organizations [orgId] := by
  intro i hi
  obtain rfl := List.mem_singleton.mp hi
  exact ⟨_, horg, rfl, .organization⟩

theorem owned_goneWithOrg (table : TableName) : Owned s orgId table (goneWithOrg s orgId table) := by
  have horganization := owned_organization horg
  have hboards : Owned s orgId .boards ((orgBoardIds orgId).eval s.rows) := owned_select horganization rfl
  cases table with
  | organizations => exact horganization
  | boards => exact hboards
  | organizationMembers | organizationInvites | boardGroups | gateways => exact owned_select horganization rfl
  | tasks | agents | approvals | boardWebhooks => exact owned_select hboards rfl
  | _ => exact fun i hi => absurd hi List.not_mem_nil

theorem ofOrganization_of_goes {r : Row} (hgoes : GoesWithOrg s orgId r) (hevent : tableOf r ≠ .activityEvents)
    (haccess : tableOf r ≠ .organizationBoardAccess) (hinvite : tableOf r ≠ .organizationInviteBoardAccess) :
    OfOrganization s orgId r := by
  have howned := owned_goneWithOrg horg
  cases r with
  | activityEvent => exact absurd rfl hevent
  | organizationBoardAccess => exact absurd rfl haccess
  | organizationInviteBoardAccess => exact absurd rfl hinvite
  | taskDependency | taskFingerprint | approval | boardMemory | boardWebhookPayload | boardWebhook
  | boardOnboardingSession => exact (howned .boards).ofOrganization hgoes rfl
  | approvalTaskLink => exact (howned .approvals).ofOrganization hgoes rfl
  | boardGroupMemory => exact (howned .boardGroups).ofOrganization hgoes rfl
  | gatewayInstalledSkill => exact (howned .gateways).ofOrganization hgoes rfl
  | board | boardGroup | gateway | organizationInvite | organizationMember =>
    exact (howned .organizations).ofOrganization (List.mem_singleton.mpr hgoes) rfl
  | task t =>
    obtain ⟨boardId, hboard, hgone⟩ := hgoes
    refine (howned .boards).ofOrganization hgone ?_
    simp [owner?, tableOf, key_eq, Row.key, ownerColumns, column_eq, Row.column, Option.mem_def.mp hboard]
  | agent a =>
    obtain ⟨boardId, hboard, hgone⟩ := hgoes
    refine (howned .boards).ofOrganization hgone ?_
    simp [owner?, tableOf, key_eq, Row.key, ownerColumns, column_eq, Row.column, Option.mem_def.mp hboard]
  | _ => exact hgoes.elim

end Owned

theorem mem_orgBoardIds_of_owner {boardId : Uuid} (hr : r ∈ s) (hnames : (.boards, boardId) ∈ refs r)
    (howner : owner? r = some (.boards, boardId)) (honly : ∀ other, OfOrganization s other r → other = orgId) :
    boardId ∈ goneWithOrg s orgId .boards := by
  obtain ⟨board, hboard, hkey⟩ := s.closed r hr _ (.inl hnames)
  obtain ⟨b, rfl⟩ : ∃ b, board = .board b := by
    cases board <;> first | exact ⟨_, rfl⟩ | cases hkey
  obtain ⟨organization, horganization, horgKey⟩ := s.closed _ hboard (.organizations, b.organizationId) (.inl
    (mem_named.mpr ⟨.organizationId, List.mem_cons_self, rfl⟩))
  obtain ⟨o, rfl⟩ : ∃ o, organization = .organization o := by
    cases organization <;> first | exact ⟨_, rfl⟩ | cases horgKey
  obtain rfl : o = b.organizationId := by
    cases horgKey
    rfl
  have hof : OfOrganization s b.organizationId r :=
    .owned hboard howner hkey (.owned horganization rfl rfl .organization)
  refine Ids.mem_select.mpr ⟨_, hboard, rfl, ⟨orgId, List.mem_singleton_self _, ?_⟩, ?_⟩
  · exact congrArg some (honly _ hof)
  · exact ((key_eq_iff (n := (TableName.boards, boardId))).mp hkey).2

/-- What a row has to meet: the statements go through at it, and it does not go if it is of another organization. -/
def Deletable (s : RowStore) (orgId : Uuid) (r : Row) : Prop :=
  Passes s orgId r ∧ (GoesWithOrg s orgId r → ∀ other, OfOrganization s other r → other = orgId)

theorem orgKeeps_event (horg : .organization orgId ∈ s) (e : ActivityEventRow) :
    Deletable s orgId (.activityEvent e) ↔ OrgKeeps s orgId (.activityEvent e) := by
  have hpasses : Passes s orgId (.activityEvent e) := by
    refine ⟨fun n hn => noLater_event e hn, fun _ _ hn => ?_⟩
    obtain ⟨c, hc, -⟩ := mem_named.mp hn
    have hcolumns : (c, TableName.organizations) ∈ [(ColumnName.agentId, TableName.agents), (.taskId, .tasks)] := hc
    simp at hcolumns
  rw [Deletable, and_iff_right hpasses]
  constructor
  · rintro h (htask | hagent)
    · exact h (.inl htask)
    · exact h (.inr (.inl hagent))
  · rintro h (htask | hagent | ⟨boardId, hboard, hgone⟩)
    · exact h (.inl htask)
    · exact h (.inr hagent)
    · -- an event of a board is of the organization of the board
      have hof : OfOrganization s orgId (.activityEvent e) := by
        refine (owned_goneWithOrg horg .boards).ofOrganization hgone ?_
        simp [owner?, tableOf, key_eq, Row.key, ownerColumns, column_eq, Row.column, Option.mem_def.mp hboard]
      exact fun other hother => hof.unique hother

theorem deletable_of_access (horg : .organization orgId ∈ s) {boardId i : Uuid} {t : TableName} (hr : r ∈ s)
    (hnames : (.boards, boardId) ∈ refs r) (howner : owner? r = some (.boards, boardId)) (hpasses : Passes s orgId r)
    (hgoes : GoesWithOrg s orgId r ↔ boardId ∈ goneWithOrg s orgId .boards ∨ i ∈ goneWithOrg s orgId t) :
    Deletable s orgId r ↔ (i ∈ goneWithOrg s orgId t → boardId ∈ goneWithOrg s orgId .boards) := by
  rw [Deletable, and_iff_right hpasses, hgoes]
  refine ⟨fun h hi => mem_orgBoardIds_of_owner hr hnames howner (h (.inr hi)), fun h hgone other hother => ?_⟩
  have hboard : boardId ∈ goneWithOrg s orgId .boards := hgone.elim id h
  exact ((owned_goneWithOrg horg .boards).ofOrganization hboard howner).unique hother

theorem orgKeeps_iff (horg : .organization orgId ∈ s) (hr : r ∈ s) : Deletable s orgId r ↔ OrgKeeps s orgId r := by
  have hplain : tableOf r ≠ .activityEvents → tableOf r ≠ .users → tableOf r ≠ .organizationBoardAccess →
      tableOf r ≠ .organizationInviteBoardAccess →
        (Deletable s orgId r ↔ GoesWithOrg s orgId r ∨ ∀ n ∈ refs r, n.2 ∉ goneWithOrg s orgId n.1) := by
    intro hevent huser haccess hinvite
    rw [Deletable, passes_iff hevent huser]
    refine and_iff_left fun hgoes other hother => ?_
    exact (ofOrganization_of_goes horg hgoes hevent haccess hinvite).unique hother
  have hgone : goneWithOrg s orgId .organizations = [orgId] ∧ goneWithOrg s orgId .users = [] ∧
      goneWithOrg s orgId .silos = [] ∧ goneWithOrg s orgId .tags = [] ∧
      goneWithOrg s orgId .taskCustomFieldDefinitions = [] ∧ goneWithOrg s orgId .siloRuntimeOperations = [] ∧
      goneWithOrg s orgId .marketplaceSkills = [] := ⟨rfl, rfl, rfl, rfl, rfl, rfl, rfl⟩
  cases r with
  | activityEvent e => exact orgKeeps_event horg e
  | user u =>
    refine iff_of_true ⟨⟨fun n hn => noLater_of_not_gone ?_, fun _ h => absurd rfl h⟩, fun h => h.elim⟩ trivial
    obtain ⟨c, hc, -⟩ := mem_named.mp hn
    have hcolumn : (c, n.1) ∈ [(ColumnName.activeOrganizationId, TableName.organizations)] := hc
    obtain ⟨-, htable⟩ := Prod.mk.injEq .. ▸ List.mem_singleton.mp hcolumn
    exact not_gone_organizations htable
  | organizationBoardAccess a =>
    refine deletable_of_access horg hr (mem_named.mpr ⟨.boardId, List.mem_cons_of_mem _ List.mem_cons_self, rfl⟩) rfl
      ((passes_iff (r := .organizationBoardAccess a) nofun nofun).mpr ?_) Iff.rfl
    rw [forall_refs]
    simp only [tableOf, key_eq, Row.key, foreignKeys_eq, checkedKeys, List.forall_mem_cons, List.not_mem_nil,
      false_implies, implies_true, and_true, column_eq, Row.column, Option.some.injEq, forall_eq', GoesWithOrg]
    tauto
  | organizationInviteBoardAccess a =>
    refine deletable_of_access horg hr (mem_named.mpr ⟨.boardId, List.mem_cons_of_mem _ List.mem_cons_self, rfl⟩) rfl
      ((passes_iff (r := .organizationInviteBoardAccess a) nofun nofun).mpr ?_) Iff.rfl
    rw [forall_refs]
    simp only [tableOf, key_eq, Row.key, foreignKeys_eq, checkedKeys, List.forall_mem_cons, List.not_mem_nil,
      false_implies, implies_true, and_true, column_eq, Row.column, Option.some.injEq, forall_eq', GoesWithOrg]
    tauto
  | _ =>
    rw [hplain nofun nofun nofun nofun, forall_refs]
    simp only [tableOf, key_eq, Row.key, foreignKeys_eq, checkedKeys, List.forall_mem_cons, List.not_mem_nil,
      false_implies, implies_true, and_true, column_eq, Row.column, Option.some.injEq, forall_eq', GoesWithOrg,
      not_false_eq_true, Row.boardItemColumn, Row.organizationColumn, OrgKeeps, hgone, true_and]
    grind [Option.mem_def]

end Rows

/-! ## Complete -/

theorem leaveActive_forgets (orgId : Uuid) : (leaveActive orgId).Forgets := by
  intro r c i hi
  cases r <;> try exact hi
  cases c <;> first | exact hi | cases hi

variable {orgId : Uuid}

theorem apply_leaveActive {r : Row} (hr : tableOf r ≠ .users) : (leaveActive orgId).apply r = r := by
  cases r <;> first | rfl | exact absurd rfl hr

theorem key_apply (u : RowUpdate) (r : Row) : key (u.apply r) = key r := by
  unfold RowUpdate.apply
  split
  · exact u.key_write r
  · rfl

theorem not_names_apply {r : Row} (hr : tableOf r = .users) :
    (.organizations, orgId) ∉ refs ((leaveActive orgId).apply r) := by
  obtain ⟨u, rfl⟩ : ∃ u, r = .user u := by
    cases r <;> first | exact ⟨_, rfl⟩ | cases hr
  intro hn
  obtain ⟨c, hc, hi⟩ := mem_named.mp hn
  by_cases hactive : u.activeOrganizationId = some orgId
  all_goals
    have happly : (leaveActive orgId).apply (.user u) =
        .user { u with activeOrganizationId :=
          if u.activeOrganizationId = some orgId then none else u.activeOrganizationId } := by
      simp [RowUpdate.apply, leaveActive, hactive]
    rw [happly] at hc hi
    have hcolumn : (c, TableName.organizations) ∈ [(ColumnName.activeOrganizationId, TableName.organizations)] := hc
    obtain ⟨rfl, -⟩ := Prod.mk.injEq .. ▸ List.mem_singleton.mp hcolumn
    simp [column_eq, Row.column, hactive] at hi

section Deletion
variable {s : RowStore} {member : OrganizationMember}

def Left (s : RowStore) (orgId : Uuid) (t : RowStore) : Prop :=
  ∀ r, r ∈ t ↔ (∃ r' ∈ s, ¬ GoesWithOrg s orgId r' ∧ (leaveActive orgId).apply r' = r) ∧
    key r ≠ (.organizations, [orgId])

theorem exists_leaveActive {s₁ : RowStore} (h₁ : deleteRows s (organizationItems orgId) = .ok s₁) :
    ∃ s₂, updateRows s₁ [leaveActive orgId] = .ok s₂ ∧
      (∀ r, r ∈ s₂ ↔ ∃ r' ∈ s, ¬ GoesWithOrg s orgId r' ∧ (leaveActive orgId).apply r' = r) ∧
      ((∃ t, deleteRows s₂ [⟨.organizations, [.id], .given [orgId]⟩] = .ok t) ↔
        ∀ r ∈ s, ¬ GoesWithOrg s orgId r → tableOf r ≠ .users → (.organizations, orgId) ∉ refs r) := by
  have hforgets : ∀ u ∈ [leaveActive orgId], u.Forgets := by
    intro u hu
    rw [List.mem_singleton.mp hu]
    exact leaveActive_forgets orgId
  obtain ⟨s₂, h₂, hmem₂⟩ := exists_updateRows (s := s₁) hforgets
  have hmem : ∀ r, r ∈ s₂ ↔ ∃ r' ∈ s, ¬ GoesWithOrg s orgId r' ∧ (leaveActive orgId).apply r' = r := by
    intro r
    rw [hmem₂]
    refine exists_congr fun r' => ?_
    rw [mem_run?_iff (steady_organizationItems orgId) (orFail_eq_ok.mp h₁), taken_organizationItems_iff, and_assoc]
    rfl
  refine ⟨s₂, h₂, hmem, ?_⟩
  rw [exists_deleteRows_one (by decide) (by simp [checkedKeys])]
  constructor
  · intro h r hr hstays huser
    exact h r ((hmem r).mpr ⟨r, hr, hstays, apply_leaveActive huser⟩)
  · intro h r hr
    obtain ⟨r', hr', hstays, rfl⟩ := (hmem r).mp hr
    by_cases huser : tableOf r' = .users
    · exact not_names_apply huser
    · rw [apply_leaveActive huser]
      exact h r' hr' hstays huser

theorem passes_of_deleteMyOrg {t : RowStore} (h : deleteMyOrg s member = .ok t) :
    (∀ r ∈ s, Passes s member.organizationId r) ∧ Left s member.organizationId t := by
  obtain ⟨_, -, h⟩ := bind_eq_ok.mp h
  obtain ⟨_, -, h⟩ := bind_eq_ok.mp h
  obtain ⟨s₁, h₁, h⟩ := bind_eq_ok.mp h
  obtain ⟨s₂, h₂, h⟩ := bind_eq_ok.mp h
  obtain ⟨s₂', h₂', hmem, hlast⟩ := exists_leaveActive h₁
  obtain rfl := Except.ok.inj (h₂.symm.trans h₂')
  have hitems := (exists_deleteRows (steady_organizationItems _)).mp ⟨s₁, h₁⟩
  refine ⟨fun r hr => ⟨hitems r hr, hlast.mp ⟨t, h⟩ r hr⟩, fun r => ?_⟩
  rw [mem_deleteRows_one (by decide) h, hmem]

theorem exists_deleteMyOrg (howner : member.role = .owner) (h : ∀ r ∈ s, Passes s member.organizationId r) :
    ∃ t, deleteMyOrg s member = .ok t := by
  obtain ⟨s₁, h₁⟩ := (exists_deleteRows (steady_organizationItems _)).mpr fun r hr => (h r hr).1
  obtain ⟨s₂, h₂, -, hlast⟩ := exists_leaveActive h₁
  obtain ⟨t, ht⟩ := hlast.mpr fun r hr => (h r hr).2
  have hadmin : isOrgAdmin member = true := by simp [isOrgAdmin, howner]
  exact ⟨t, bind_eq_ok.mpr ⟨(), if_pos hadmin, bind_eq_ok.mpr ⟨(), if_pos howner,
    bind_eq_ok.mpr ⟨s₁, h₁, bind_eq_ok.mpr ⟨s₂, h₂, ht⟩⟩⟩⟩⟩

theorem complete_of_left {t : RowStore} (h : Left s orgId t) :
    (∀ r ∈ t, key r ≠ (.organizations, [orgId])) ∧ ∀ r ∈ t, ∀ n, n ∈ refs r ∨ n ∈ cascadeRefs r →
      ∀ gone ∈ s, (∀ r' ∈ t, key r' ≠ key gone) → key gone ≠ (n.1, [n.2]) := by
  refine ⟨fun r hr => ((h r).mp hr).2, fun r hr n hn gone _ hnot hkey => ?_⟩
  obtain ⟨r', hr', hkey'⟩ := t.closed r hr n hn
  exact hnot r' hr' (hkey'.trans hkey.symm)

theorem unchanged_iff {t : RowStore} (h : Left s orgId t) :
    (∀ other, other ≠ orgId → ∀ r ∈ s, OfOrganization s other r → r ∈ t) ↔
      ∀ r ∈ s, GoesWithOrg s orgId r → ∀ other, OfOrganization s other r → other = orgId := by
  constructor
  · intro hkept r hr hgoes other hof
    by_contra hne
    obtain ⟨⟨r', hr', hstays, happly⟩, -⟩ := (h r).mp (hkept other hne r hr hof)
    -- the row of the same key that stays is the row itself
    have hkey : key r' = key r := by rw [← happly, key_apply]
    obtain rfl := Store.eq_of_key_eq hr' hr hkey
    exact hstays hgoes
  · intro honly other hne r hr hof
    have huser : tableOf r ≠ .users := by
      intro huser
      obtain ⟨u, rfl⟩ : ∃ u, r = .user u := by
        cases r <;> first | exact ⟨_, rfl⟩ | cases huser
      rcases owner_of_ofOrganization hof with heq | ⟨_, _, _, howner, _⟩
      · cases heq
      · cases howner
    refine (h r).mpr ⟨⟨r, hr, fun hgoes => hne (honly r hr hgoes other hof), apply_leaveActive huser⟩, fun hkey => ?_⟩
    obtain ⟨o, rfl⟩ : ∃ o, r = .organization o := by
      cases r <;> first | exact ⟨_, rfl⟩ | cases hkey
    rcases owner_of_ofOrganization hof with heq | ⟨_, _, _, howner, _⟩
    · cases heq
      cases hkey
      exact hne rfl
    · cases howner

/-- **An organization is deleted** completely, and others are left alone, exactly where no row that stays names one that
goes and no row that goes is of another organization. -/
theorem organizationDeleted_iff (hmember : .organizationMember member ∈ s) (howner : member.role = .owner) :
    OrganizationDeleted s member ↔ ∀ r ∈ s, OrgKeeps s member.organizationId r := by
  have horg : .organization member.organizationId ∈ s := by
    obtain ⟨r, hr, hkey⟩ := s.closed _ hmember (.organizations, member.organizationId) (.inl
      (mem_named.mpr ⟨.organizationId, List.mem_cons_self, rfl⟩))
    obtain ⟨o, rfl⟩ : ∃ o, r = .organization o := by
      cases r <;> first | exact ⟨_, rfl⟩ | cases hkey
    cases hkey
    exact hr
  have hrows : (∀ r ∈ s, OrgKeeps s member.organizationId r) ↔ (∀ r ∈ s, Passes s member.organizationId r) ∧
      ∀ r ∈ s, GoesWithOrg s member.organizationId r →
        ∀ other, OfOrganization s other r → other = member.organizationId := by
    rw [← forall₂_and]
    exact forall₂_congr fun r hr => (orgKeeps_iff horg hr).symm
  rw [hrows]
  constructor
  · rintro ⟨t, ht, -, -, hunchanged⟩
    obtain ⟨hpasses, hleft⟩ := passes_of_deleteMyOrg ht
    exact ⟨hpasses, (unchanged_iff hleft).mp hunchanged⟩
  · rintro ⟨hpasses, honly⟩
    obtain ⟨t, ht⟩ := exists_deleteMyOrg howner hpasses
    obtain ⟨-, hleft⟩ := passes_of_deleteMyOrg ht
    obtain ⟨hgone, hcomplete⟩ := complete_of_left hleft
    exact ⟨t, ht, hgone, hcomplete, (unchanged_iff hleft).mpr honly⟩

end Deletion

def twoOrganizations : List Row :=
  [.organization 1, .organization 6, .user { id := 2, activeOrganizationId := some 1 },
   .organizationMember { id := 3, organizationId := 1, userId := 2, role := .owner },
   .board { id := 4, organizationId := 1 }, .task { id := 5, boardId := some 4, title := "Ship" },
   .board { id := 7, organizationId := 6 }]

def ownedStore : RowStore := .ofRows twoOrganizations (by decide) (by decide)

def taggedStore : RowStore :=
  .ofRows (twoOrganizations ++ [.tag { id := 8, organizationId := 1 }])
    (by decide) (by decide)

def soleOwner : OrganizationMember := { id := 3, organizationId := 1, userId := 2, role := .owner }

/-- **An organization with a tag** is not deleted. -/
theorem not_organizationDeleted : ¬ ∀ (s : RowStore) (member : OrganizationMember), .organizationMember member ∈ s →
    member.role = .owner → OrganizationDeleted s member := by
  intro h
  have hmember : Row.organizationMember soleOwner ∈ taggedStore := by
    simp [taggedStore, twoOrganizations, soleOwner, Store.mem_def, Store.ofRows]
  obtain ⟨t, ht, -⟩ := h taggedStore soleOwner hmember rfl
  have htag := (passes_of_deleteMyOrg ht).1 _ (List.mem_append_right _ (List.mem_singleton_self _))
  exact htag.2 id (by rintro ⟨⟩) (mem_named.mpr ⟨.organizationId, List.mem_cons_self, rfl⟩)

theorem organizationDeleted_owned : OrganizationDeleted ownedStore soleOwner := by
  refine (organizationDeleted_iff ?_ rfl).mpr ?_
  · simp [ownedStore, twoOrganizations, soleOwner, Store.mem_def, Store.ofRows]
  · simp [ownedStore, twoOrganizations, soleOwner, Store.mem_def, Store.ofRows, OrgKeeps]

end SiloForge.Cascades
