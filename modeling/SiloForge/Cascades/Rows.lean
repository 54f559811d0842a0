import SiloForge.Activity.Log
import SiloForge.Agents.Rows
import SiloForge.Lib.Relational

/-!
# Rows that name rows

Every table of the database, with the columns that hold ids of rows of other tables. Rows with more columns that some
modelled function uses are those of the tables; of the others the ids are enough.

* `Row`, `TableName`, `ColumnName` : the rows, their tables and the columns that hold ids;
* `foreignKeys`, `cascades` : the foreign keys of the migrations;
* `RowStore` : a state of the database.
-/

namespace SiloForge.Cascades

open Lib

inductive TableName where
  | organizations | users | organizationMembers | organizationInvites | organizationBoardAccess
  | organizationInviteBoardAccess | boardGroups | boardGroupMemory | gateways | boards | agents | tasks
  | taskDependencies | taskFingerprints | taskExecutionRuns | tags | tagAssignments | taskCustomFieldDefinitions
  | boardTaskCustomFields | taskCustomFieldValues | approvals | approvalTaskLinks | activityEvents | boardMemory
  | boardOnboardingSessions | boardWebhooks | boardWebhookPayloads | silos | siloRoles | siloRuntimeOperations
  | siloRuntimeOperationResults | siloSpawnRequests | marketplaceSkills | skillPacks | gatewayInstalledSkills
  deriving DecidableEq

inductive ColumnName where
  | id | organizationId | userId | activeOrganizationId | createdByUserId | acceptedByUserId | organizationMemberId
  | organizationInviteId | boardGroupId | gatewayId | boardId | assignedAgentId | agentId | taskId | dependsOnTaskId
  | siloId | requestedByUserId | requestedByAgentId | tagId | taskCustomFieldDefinitionId | approvalId | webhookId
  | operationId | parentSiloId | sourceTaskId | materializedSiloId | skillId
  deriving DecidableEq

/-! ## Rows -/

structure OrganizationRow where
  id : Uuid
  organizationId : Uuid
  deriving DecidableEq

structure BoardItemRow where
  id : Uuid
  boardId : Uuid
  deriving DecidableEq

structure BoardRefs where
  id : Uuid
  organizationId : Uuid
  gatewayId : Option Uuid := none
  boardGroupId : Option Uuid := none
  deriving DecidableEq

structure BoardGroupMemoryRefs where
  id : Uuid
  boardGroupId : Uuid
  deriving DecidableEq

structure TaskFingerprintRefs where
  id : Uuid
  boardId : Uuid
  taskId : Uuid
  deriving DecidableEq

structure BoardWebhookRefs where
  id : Uuid
  boardId : Uuid
  agentId : Option Uuid := none
  updatedAt : Time := 0
  deriving DecidableEq

structure BoardWebhookPayloadRefs where
  id : Uuid
  boardId : Uuid
  webhookId : Uuid
  deriving DecidableEq

structure SiloRoleRefs where
  id : Uuid
  siloId : Uuid
  gatewayId : Option Uuid := none
  deriving DecidableEq

structure SiloRuntimeOperationRefs where
  id : Uuid
  siloId : Uuid
  deriving DecidableEq

structure SiloRuntimeOperationResultRefs where
  id : Uuid
  operationId : Uuid
  deriving DecidableEq

structure SiloSpawnRequestRefs where
  id : Uuid
  organizationId : Uuid
  boardId : Option Uuid := none
  parentSiloId : Option Uuid := none
  sourceTaskId : Option Uuid := none
  requestedByUserId : Option Uuid := none
  materializedSiloId : Option Uuid := none
  deriving DecidableEq

structure GatewayInstalledSkillRefs where
  id : Uuid
  gatewayId : Uuid
  skillId : Uuid
  deriving DecidableEq

inductive Row where
  | organization (id : Uuid)
  | user (row : User)
  | organizationMember (row : OrganizationMember)
  | organizationInvite (row : OrganizationInvite)
  | organizationBoardAccess (row : OrganizationBoardAccess)
  | organizationInviteBoardAccess (row : OrganizationInviteBoardAccess)
  | boardGroup (row : OrganizationRow)
  | boardGroupMemory (row : BoardGroupMemoryRefs)
  | gateway (row : OrgGateway)
  | board (row : BoardRefs)
  | agent (row : AgentRow)
  | task (row : Task)
  | taskDependency (row : TaskDependency)
  | taskFingerprint (row : TaskFingerprintRefs)
  | taskExecutionRun (row : TaskExecutionRun)
  | tag (row : Tag)
  | tagAssignment (row : TagAssignment)
  | taskCustomFieldDefinition (row : TaskCustomFieldDefinition)
  | boardTaskCustomField (row : BoardTaskCustomField)
  | taskCustomFieldValue (row : TaskCustomFieldValue)
  | approval (row : Approval)
  | approvalTaskLink (row : ApprovalTaskLink)
  | activityEvent (row : ActivityEventRow)
  | boardMemory (row : BoardItemRow)
  | boardOnboardingSession (row : BoardItemRow)
  | boardWebhook (row : BoardWebhookRefs)
  | boardWebhookPayload (row : BoardWebhookPayloadRefs)
  | silo (row : OrganizationRow)
  | siloRole (row : SiloRoleRefs)
  | siloRuntimeOperation (row : SiloRuntimeOperationRefs)
  | siloRuntimeOperationResult (row : SiloRuntimeOperationResultRefs)
  | siloSpawnRequest (row : SiloSpawnRequestRefs)
  | marketplaceSkill (row : OrganizationRow)
  | skillPack (row : OrganizationRow)
  | gatewayInstalledSkill (row : GatewayInstalledSkillRefs)

namespace Row

def key : Row → TableName × List Uuid
  | organization id => (.organizations, [id])
  | user row => (.users, [row.id])
  | organizationMember row => (.organizationMembers, [row.id])
  | organizationInvite row => (.organizationInvites, [row.id])
  | organizationBoardAccess row => (.organizationBoardAccess, [row.organizationMemberId, row.boardId])
  | organizationInviteBoardAccess row => (.organizationInviteBoardAccess, [row.organizationInviteId, row.boardId])
  | boardGroup row => (.boardGroups, [row.id])
  | boardGroupMemory row => (.boardGroupMemory, [row.id])
  | gateway row => (.gateways, [row.id])
  | board row => (.boards, [row.id])
  | agent row => (.agents, [row.id])
  | task row => (.tasks, [row.id])
  | taskDependency row => (.taskDependencies, [row.taskId, row.dependsOnTaskId])
  | taskFingerprint row => (.taskFingerprints, [row.id])
  | taskExecutionRun row => (.taskExecutionRuns, [row.id])
  | tag row => (.tags, [row.id])
  | tagAssignment row => (.tagAssignments, [row.taskId, row.tagId])
  | taskCustomFieldDefinition row => (.taskCustomFieldDefinitions, [row.id])
  | boardTaskCustomField row => (.boardTaskCustomFields, [row.boardId, row.definitionId])
  | taskCustomFieldValue row => (.taskCustomFieldValues, [row.taskId, row.definitionId])
  | approval row => (.approvals, [row.id])
  | approvalTaskLink row => (.approvalTaskLinks, [row.approvalId, row.taskId])
  | activityEvent row => (.activityEvents, [row.id])
  | boardMemory row => (.boardMemory, [row.id])
  | boardOnboardingSession row => (.boardOnboardingSessions, [row.id])
  | boardWebhook row => (.boardWebhooks, [row.id])
  | boardWebhookPayload row => (.boardWebhookPayloads, [row.id])
  | silo row => (.silos, [row.id])
  | siloRole row => (.siloRoles, [row.id])
  | siloRuntimeOperation row => (.siloRuntimeOperations, [row.id])
  | siloRuntimeOperationResult row => (.siloRuntimeOperationResults, [row.id])
  | siloSpawnRequest row => (.siloSpawnRequests, [row.id])
  | marketplaceSkill row => (.marketplaceSkills, [row.id])
  | skillPack row => (.skillPacks, [row.id])
  | gatewayInstalledSkill row => (.gatewayInstalledSkills, [row.id])

def organizationColumn (c : ColumnName) (row : OrganizationRow) : Option Uuid :=
  match c with
  | .id => some row.id
  | .organizationId => some row.organizationId
  | _ => none

def boardItemColumn (c : ColumnName) (row : BoardItemRow) : Option Uuid :=
  match c with
  | .id => some row.id
  | .boardId => some row.boardId
  | _ => none

def column (c : ColumnName) : Row → Option Uuid
  | organization id => if c = .id then some id else none
  | user row =>
    match c with
    | .id => some row.id
    | .activeOrganizationId => row.activeOrganizationId
    | _ => none
  | organizationMember row =>
    match c with
    | .id => some row.id
    | .organizationId => some row.organizationId
    | .userId => some row.userId
    | _ => none
  | organizationInvite row =>
    match c with
    | .id => some row.id
    | .organizationId => some row.organizationId
    | .createdByUserId => row.createdByUserId
    | .acceptedByUserId => row.acceptedByUserId
    | _ => none
  | organizationBoardAccess row =>
    match c with
    | .organizationMemberId => some row.organizationMemberId
    | .boardId => some row.boardId
    | _ => none
  | organizationInviteBoardAccess row =>
    match c with
    | .organizationInviteId => some row.organizationInviteId
    | .boardId => some row.boardId
    | _ => none
  | boardGroup row | silo row | marketplaceSkill row | skillPack row => organizationColumn c row
  | gateway row => organizationColumn c ⟨row.id, row.organizationId⟩
  | boardGroupMemory row =>
    match c with
    | .id => some row.id
    | .boardGroupId => some row.boardGroupId
    | _ => none
  | board row =>
    match c with
    | .id => some row.id
    | .organizationId => some row.organizationId
    | .gatewayId => row.gatewayId
    | .boardGroupId => row.boardGroupId
    | _ => none
  | agent row =>
    match c with
    | .id => some row.id
    | .boardId => row.boardId
    | .gatewayId => some row.gatewayId
    | _ => none
  | task row =>
    match c with
    | .id => some row.id
    | .boardId => row.boardId
    | .createdByUserId => row.createdByUserId
    | .assignedAgentId => row.assignedAgentId
    | _ => none
  | taskDependency row =>
    match c with
    | .boardId => some row.boardId
    | .taskId => some row.taskId
    | .dependsOnTaskId => some row.dependsOnTaskId
    | _ => none
  | taskFingerprint row =>
    match c with
    | .id => some row.id
    | .boardId => some row.boardId
    | .taskId => some row.taskId
    | _ => none
  | taskExecutionRun row =>
    match c with
    | .id => some row.id
    | .organizationId => some row.organizationId
    | .boardId => some row.boardId
    | .taskId => some row.taskId
    | .siloId => some row.siloId
    | .requestedByUserId => row.requestedByUserId
    | .requestedByAgentId => row.requestedByAgentId
    | _ => none
  | tag row =>
    match c with
    | .id => some row.id
    | .organizationId => some row.organizationId
    | _ => none
  | tagAssignment row =>
    match c with
    | .taskId => some row.taskId
    | .tagId => some row.tagId
    | _ => none
  | taskCustomFieldDefinition row =>
    match c with
    | .id => some row.id
    | .organizationId => some row.organizationId
    | _ => none
  | boardTaskCustomField row =>
    match c with
    | .boardId => some row.boardId
    | .taskCustomFieldDefinitionId => some row.definitionId
    | _ => none
  | taskCustomFieldValue row =>
    match c with
    | .taskId => some row.taskId
    | .taskCustomFieldDefinitionId => some row.definitionId
    | _ => none
  | approval row =>
    match c with
    | .id => some row.id
    | .boardId => some row.boardId
    | .taskId => row.taskId
    | .agentId => row.agentId
    | _ => none
  | approvalTaskLink row =>
    match c with
    | .approvalId => some row.approvalId
    | .taskId => some row.taskId
    | _ => none
  | activityEvent row =>
    match c with
    | .id => some row.id
    | .agentId => row.agentId
    | .taskId => row.taskId
    | .boardId => row.boardId
    | _ => none
  | boardMemory row | boardOnboardingSession row => boardItemColumn c row
  | boardWebhook row =>
    match c with
    | .id => some row.id
    | .boardId => some row.boardId
    | .agentId => row.agentId
    | _ => none
  | boardWebhookPayload row =>
    match c with
    | .id => some row.id
    | .boardId => some row.boardId
    | .webhookId => some row.webhookId
    | _ => none
  | siloRole row =>
    match c with
    | .id => some row.id
    | .siloId => some row.siloId
    | .gatewayId => row.gatewayId
    | _ => none
  | siloRuntimeOperation row =>
    match c with
    | .id => some row.id
    | .siloId => some row.siloId
    | _ => none
  | siloRuntimeOperationResult row =>
    match c with
    | .id => some row.id
    | .operationId => some row.operationId
    | _ => none
  | siloSpawnRequest row =>
    match c with
    | .id => some row.id
    | .organizationId => some row.organizationId
    | .boardId => row.boardId
    | .parentSiloId => row.parentSiloId
    | .sourceTaskId => row.sourceTaskId
    | .requestedByUserId => row.requestedByUserId
    | .materializedSiloId => row.materializedSiloId
    | _ => none
  | gatewayInstalledSkill row =>
    match c with
    | .id => some row.id
    | .gatewayId => some row.gatewayId
    | .skillId => some row.skillId
    | _ => none

end Row

/-! ## Foreign keys -/

/-- The foreign keys of a table that are checked. -/
def checkedKeys : TableName → List (ColumnName × TableName)
  | .organizations => []
  | .users => [(.activeOrganizationId, .organizations)]
  | .organizationMembers => [(.organizationId, .organizations), (.userId, .users)]
  | .organizationInvites =>
    [(.organizationId, .organizations), (.createdByUserId, .users), (.acceptedByUserId, .users)]
  | .organizationBoardAccess => [(.organizationMemberId, .organizationMembers), (.boardId, .boards)]
  | .organizationInviteBoardAccess => [(.organizationInviteId, .organizationInvites), (.boardId, .boards)]
  | .boardGroups => [(.organizationId, .organizations)]
  | .boardGroupMemory => [(.boardGroupId, .boardGroups)]
  | .gateways => [(.organizationId, .organizations)]
  | .boards => [(.organizationId, .organizations), (.gatewayId, .gateways), (.boardGroupId, .boardGroups)]
  | .agents => [(.boardId, .boards), (.gatewayId, .gateways)]
  | .tasks => [(.boardId, .boards), (.createdByUserId, .users), (.assignedAgentId, .agents)]
  | .taskDependencies => [(.boardId, .boards), (.taskId, .tasks), (.dependsOnTaskId, .tasks)]
  | .taskFingerprints => [(.boardId, .boards), (.taskId, .tasks)]
  | .taskExecutionRuns =>
    [(.organizationId, .organizations), (.boardId, .boards), (.taskId, .tasks), (.siloId, .silos),
     (.requestedByUserId, .users), (.requestedByAgentId, .agents)]
  | .tags => [(.organizationId, .organizations)]
  | .tagAssignments => [(.taskId, .tasks), (.tagId, .tags)]
  | .taskCustomFieldDefinitions => [(.organizationId, .organizations)]
  | .boardTaskCustomFields => [(.boardId, .boards), (.taskCustomFieldDefinitionId, .taskCustomFieldDefinitions)]
  | .taskCustomFieldValues => [(.taskId, .tasks), (.taskCustomFieldDefinitionId, .taskCustomFieldDefinitions)]
  | .approvals => [(.boardId, .boards), (.taskId, .tasks), (.agentId, .agents)]
  | .approvalTaskLinks => [(.approvalId, .approvals), (.taskId, .tasks)]
  | .activityEvents => [(.agentId, .agents), (.taskId, .tasks)]
  | .boardMemory => [(.boardId, .boards)]
  | .boardOnboardingSessions => [(.boardId, .boards)]
  | .boardWebhooks => [(.boardId, .boards), (.agentId, .agents)]
  | .boardWebhookPayloads => [(.boardId, .boards), (.webhookId, .boardWebhooks)]
  | .silos => [(.organizationId, .organizations)]
  | .siloRoles => [(.siloId, .silos), (.gatewayId, .gateways)]
  | .siloRuntimeOperations => [(.siloId, .silos)]
  | .siloRuntimeOperationResults => [(.operationId, .siloRuntimeOperations)]
  | .siloSpawnRequests =>
    [(.organizationId, .organizations), (.boardId, .boards), (.parentSiloId, .silos), (.sourceTaskId, .tasks),
     (.requestedByUserId, .users), (.materializedSiloId, .silos)]
  | .marketplaceSkills => [(.organizationId, .organizations)]
  | .skillPacks => [(.organizationId, .organizations)]
  | .gatewayInstalledSkills => [(.skillId, .marketplaceSkills)]

/-- The foreign keys with `ondelete="CASCADE"`. -/
def cascadingKeys : TableName → List (ColumnName × TableName)
  | .activityEvents => [(.boardId, .boards)]
  | .gatewayInstalledSkills => [(.gatewayId, .gateways)]
  | _ => []

instance : Relational Row TableName ColumnName Uuid where
  key := Row.key
  column := Row.column
  foreignKeys := checkedKeys
  cascades := cascadingKeys
  cascades_leaf t ht t' c := by
    cases t <;> first | exact absurd rfl ht | (cases t' <;> simp [checkedKeys, cascadingKeys])

theorem key_eq (r : Row) : key r = r.key := rfl

theorem column_eq (c : ColumnName) (r : Row) : column c r = r.column c := rfl

theorem foreignKeys_eq (t : TableName) : foreignKeys Row t = checkedKeys t := rfl

theorem cascades_eq (t : TableName) : cascades Row t = cascadingKeys t := rfl

theorem rowId_eq_column (r : Row) : rowId? r = column .id r := by
  cases r <;> rfl

abbrev RowStore := Store Row

/-- The tables whose rows are named by rows of others. -/
def namedTables : List TableName :=
  [.organizations, .users, .organizationMembers, .organizationInvites, .boardGroups, .gateways, .boards, .agents, .tasks,
   .tags, .taskCustomFieldDefinitions, .approvals, .boardWebhooks, .silos, .siloRuntimeOperations, .marketplaceSkills]

theorem checkedKeys_named (t : TableName) : ∀ k ∈ checkedKeys t, k.2 ∈ namedTables := by
  cases t <;> decide

theorem table_named {r : Row} {n : TableName × Uuid} (h : n ∈ refs r) : n.1 ∈ namedTables := by
  obtain ⟨c, hc, -⟩ := mem_named.mp h
  exact checkedKeys_named (tableOf r) _ hc

/-! ## Statements -/

/-- `crud.delete_where`, one statement after the other. -/
def deleteRows (s : RowStore) (plan : List (Delete TableName ColumnName Uuid)) : Except Failure RowStore :=
  orFail (s.run? plan) .integrityError

variable {rows : List Row} {table : TableName} {s : RowStore} {plan : List (Delete TableName ColumnName Uuid)}

theorem mem_removed_by_id {ids : List Uuid} {i : Uuid} :
    i ∈ (⟨table, [.id], .given ids⟩ : Delete TableName ColumnName Uuid).removed rows ↔
      i ∈ ids ∧ ∃ r ∈ rows, key r = (table, [i]) := by
  rw [Delete.mem_removed]
  constructor
  · rintro ⟨r, hr, hclause, hid⟩
    obtain ⟨htable, c, hc, j, hj, hcolumn⟩ := holds_eq_true.mp hclause
    obtain rfl := List.mem_singleton.mp hc
    rw [rowId_eq_column, hcolumn] at hid
    obtain rfl := Option.some.inj hid
    exact ⟨hj, r, hr, (key_eq_iff (n := (table, j))).mpr ⟨htable, (rowId_eq_column r).trans hcolumn⟩⟩
  · rintro ⟨hi, r, hr, hkey⟩
    obtain ⟨htable, hid⟩ := (key_eq_iff (n := (table, i))).mp hkey
    have hcolumn := (rowId_eq_column r).symm.trans hid
    exact ⟨r, hr, holds_eq_true.mpr ⟨htable, .id, List.mem_cons_self, i, hi, hcolumn⟩, hid⟩

theorem clause_by_id_eq_false {id : Uuid} {r : Row} :
    (⟨table, [.id], .given [id]⟩ : Delete TableName ColumnName Uuid).clause rows r = false ↔ key r ≠ (table, [id]) := by
  unfold Delete.clause
  rw [Ids.eval, holds_singleton_eq_false, ← rowId_eq_column, ne_eq, ne_eq, key_eq_iff (n := (table, id)), not_and]

theorem not_mem_cascadingKeys (hboards : table ≠ .boards) (hgateways : table ≠ .gateways) (t : TableName)
    (c : ColumnName) : (c, table) ∉ cascadingKeys t := by
  cases t <;> simp [cascadingKeys, hboards, hgateways]

theorem takes_iff_clause {d : Delete TableName ColumnName Uuid} {r : Row} (hboards : d.table ≠ .boards)
    (hgateways : d.table ≠ .gateways) : d.Takes rows r ↔ d.clause rows r = true := by
  rw [← Delete.goes_iff, Delete.goes_clause (not_mem_cascadingKeys hboards hgateways)]

theorem takes_event {e : ActivityEventRow} {n : TableName × Uuid} (hn : n ∈ refs (Row.activityEvent e)) :
    ∃ c, (c = .agentId ∧ n.1 = .agents ∨ c = .taskId ∧ n.1 = .tasks) ∧
      ∀ (rows : List Row) (ids : Ids TableName ColumnName Uuid), n.2 ∈ ids.eval rows →
        (⟨.activityEvents, [c], ids⟩ : Delete TableName ColumnName Uuid).Takes rows (.activityEvent e) := by
  obtain ⟨c, hc, hi⟩ := mem_named.mp hn
  have hcolumns : (c, n.1) ∈ [(ColumnName.agentId, TableName.agents), (.taskId, .tasks)] := hc
  simp only [List.mem_cons, List.not_mem_nil, or_false, Prod.mk.injEq] at hcolumns
  exact ⟨c, hcolumns, fun rows ids hmem => .inl (holds_eq_true.mpr ⟨rfl, c, List.mem_singleton_self c, n.2, hmem, hi⟩)⟩

theorem mem_deleteRows {t : RowStore} (hgiven : ∀ d ∈ plan, d.ids.reads = [])
    (hplain : ∀ d ∈ plan, d.table ≠ .boards ∧ d.table ≠ .gateways) (h : deleteRows s plan = .ok t) (r : Row) :
    r ∈ t ↔ r ∈ s ∧ ∀ d ∈ plan, d.clause s.rows r = false := by
  rw [deleteRows, orFail_eq_ok] at h
  rw [mem_of_run? (steady_of_given hgiven) h]
  refine and_congr_right fun _ => forall₂_congr fun d hd => ?_
  rw [Delete.goes_clause (not_mem_cascadingKeys (hplain d hd).1 (hplain d hd).2)]

theorem exists_deleteRows_of_unnamed (hgiven : ∀ d ∈ plan, d.ids.reads = []) (h : ∀ d ∈ plan, d.table ∉ namedTables) :
    ∃ t, deleteRows s plan = .ok t := by
  obtain ⟨t, ht⟩ := exists_run?_of_unnamed (s := s) (steady_of_given hgiven)
    fun d hd table c hc => h d hd (checkedKeys_named table (c, d.table) hc)
  exact ⟨t, orFail_eq_ok.mpr ht⟩

theorem exists_deleteRows (hsteady : Steady Row plan) :
    (∃ t, deleteRows s plan = .ok t) ↔ ∀ r ∈ s, ∀ n ∈ refs r, NoLater s.rows plan r n := by
  rw [← exists_run? hsteady]
  exact exists_congr fun t => orFail_eq_ok

/-- `crud.update_where`. -/
structure RowUpdate where
  selects : Row → Bool
  write : Row → Row
  key_write : ∀ r, key (write r) = key r

namespace RowUpdate

def apply (u : RowUpdate) (r : Row) : Row := if u.selects r then u.write r else r

/-- The update writes no id into a column. -/
def Forgets (u : RowUpdate) : Prop := ∀ r c i, column c (u.write r) = some i → column c r = some i

end RowUpdate

def updateRows (s : RowStore) : List RowUpdate → Except Failure RowStore
  | [] => .ok s
  | u :: us => do
    let s ← orFail (s.updateWhere? u.selects u.write fun r _ => u.key_write r) .integrityError
    updateRows s us

theorem exists_updateRows {updates : List RowUpdate} (h : ∀ u ∈ updates, u.Forgets) :
    ∃ t, updateRows s updates = .ok t ∧
      ∀ r, r ∈ t ↔ ∃ r' ∈ s, updates.foldl (fun r u => u.apply r) r' = r := by
  induction updates generalizing s with
  | nil => exact ⟨s, rfl, fun r => ⟨fun hr => ⟨r, hr, rfl⟩, fun ⟨_, hr, heq⟩ => heq ▸ hr⟩⟩
  | cons u us ih =>
    obtain ⟨s', hs'⟩ : ∃ s', s.updateWhere? u.selects u.write (fun r _ => u.key_write r) = some s' :=
      Store.exists_updateWhere?_of_forgets fun r _ n hn =>
        named_of_columns (u.key_write r) (h u List.mem_cons_self r) hn
    obtain ⟨t, ht, hmem⟩ := ih (s := s') fun u' hu' => h u' (List.mem_cons_of_mem _ hu')
    refine ⟨t, bind_eq_ok.mpr ⟨s', orFail_eq_ok.mpr hs', ht⟩, fun r => ?_⟩
    rw [hmem]
    constructor
    · rintro ⟨r', hr', heq⟩
      obtain ⟨r, hr, rfl⟩ := (Store.mem_of_updateWhere? hs' r').mp hr'
      exact ⟨r, hr, heq⟩
    · rintro ⟨r', hr', heq⟩
      exact ⟨u.apply r', (Store.mem_of_updateWhere? hs' _).mpr ⟨r', hr', rfl⟩, heq⟩

section LastRow
variable {s : RowStore} {items : List (Delete TableName ColumnName Uuid)} {table : TableName} {id : Uuid}

theorem given_concat (hgiven : ∀ d ∈ items, d.ids.reads = []) :
    ∀ d ∈ items ++ [⟨table, [.id], .given [id]⟩], d.ids.reads = [] := by
  intro d hd
  rcases List.mem_append.mp hd with hd | hd
  · exact hgiven d hd
  · rw [List.mem_singleton.mp hd]
    rfl

theorem exists_deleteRows_last (hgiven : ∀ d ∈ items, d.ids.reads = [])
    (hplain : ∀ d ∈ items, d.table ≠ .boards ∧ d.table ≠ .gateways) (hunnamed : ∀ d ∈ items, d.table ∉ namedTables)
    (htable : table ≠ .boards ∧ table ≠ .gateways) (hself : ∀ c, (c, table) ∉ checkedKeys table) :
    (∃ t, deleteRows s (items ++ [⟨table, [.id], .given [id]⟩]) = .ok t) ↔
      ∀ r ∈ s, (table, id) ∈ refs r → ∃ d ∈ items, d.clause s.rows r = true := by
  have hlater : ∀ r : Row, ∀ n ∈ refs r, NoLater s.rows (items ++ [⟨table, [.id], .given [id]⟩]) r n ↔
      Taken s.rows (items ++ [⟨table, [.id], .given [id]⟩]) r ∨
        ¬ Gone s.rows (items ++ [⟨table, [.id], .given [id]⟩]) n := by
    intro r n hn
    exact noLater_iff_of_before (before_concat fun d hd heq => hunnamed d hd (heq ▸ table_named hn))
  rw [exists_deleteRows (steady_of_given (given_concat hgiven))]
  constructor
  · intro h r hr hn
    obtain ⟨named, hnamed, hkey⟩ := s.closed r hr _ (.inl hn)
    rcases (hlater r _ hn).mp (h r hr _ hn) with ⟨d, hd, htakes⟩ | hstays
    · rcases List.mem_append.mp hd with hd | hd
      · exact ⟨d, hd, (takes_iff_clause (hplain d hd).1 (hplain d hd).2).mp htakes⟩
      · -- the row would name one of its own table
        obtain rfl := List.mem_singleton.mp hd
        have hclause := (takes_iff_clause htable.1 htable.2).mp htakes
        obtain ⟨c, hc, -⟩ := mem_named.mp hn
        have hown : tableOf r = table := Delete.clause_table hclause
        rw [hown] at hc
        exact absurd hc (hself c)
    · refine absurd ⟨_, List.mem_append_right _ (List.mem_singleton_self _), rfl, ?_⟩ hstays
      exact mem_removed_by_id.mpr ⟨List.mem_singleton_self id, named, hnamed, hkey⟩
  · intro h r hr n hn
    refine (hlater r n hn).mpr ?_
    by_cases heq : n = (table, id)
    · obtain ⟨d, hd, hclause⟩ := h r hr (heq ▸ hn)
      exact .inl ⟨d, List.mem_append_left _ hd, .inl hclause⟩
    · refine .inr fun ⟨d, hd, htable, hremoved⟩ => heq ?_
      rcases List.mem_append.mp hd with hd | hd
      · exact absurd (htable ▸ table_named hn) (hunnamed d hd)
      · obtain rfl := List.mem_singleton.mp hd
        exact Prod.ext htable.symm (List.mem_singleton.mp (mem_removed_by_id.mp hremoved).1)

theorem gone_of_deleteRows_last {t : RowStore} (hgiven : ∀ d ∈ items, d.ids.reads = [])
    (hplain : ∀ d ∈ items, d.table ≠ .boards ∧ d.table ≠ .gateways) (htable : table ≠ .boards ∧ table ≠ .gateways)
    (h : deleteRows s (items ++ [⟨table, [.id], .given [id]⟩]) = .ok t) :
    (∀ r ∈ t, key r ≠ (table, [id])) ∧ ∀ r ∈ t, (table, id) ∉ refs r ∧ (table, id) ∉ cascadeRefs r := by
  have hplainAll : ∀ d ∈ items ++ [⟨table, [.id], .given [id]⟩], d.table ≠ .boards ∧ d.table ≠ .gateways := by
    intro d hd
    rcases List.mem_append.mp hd with hd | hd
    · exact hplain d hd
    · rw [List.mem_singleton.mp hd]
      exact htable
  have hgone : ∀ r ∈ t, key r ≠ (table, [id]) := by
    intro r hr hkey
    have hclause := ((mem_deleteRows (given_concat hgiven) hplainAll h r).mp hr).2 _
      (List.mem_append_right _ (List.mem_singleton_self _))
    exact clause_by_id_eq_false.mp hclause hkey
  refine ⟨hgone, fun r hr => ⟨fun hn => ?_, fun hn => ?_⟩⟩
  · obtain ⟨named, hnamed, hkey⟩ := t.closed r hr _ (.inl hn)
    exact hgone named hnamed hkey
  · obtain ⟨named, hnamed, hkey⟩ := t.closed r hr _ (.inr hn)
    exact hgone named hnamed hkey

theorem exists_deleteRows_one (htable : table ≠ .boards ∧ table ≠ .gateways) (hself : ∀ c, (c, table) ∉ checkedKeys table) :
    (∃ t, deleteRows s [⟨table, [.id], .given [id]⟩] = .ok t) ↔ ∀ r ∈ s, (table, id) ∉ refs r := by
  have h : (∃ t, deleteRows s ([] ++ [⟨table, [.id], .given [id]⟩]) = .ok t) ↔ ∀ r ∈ s, (table, id) ∈ refs r →
      ∃ d ∈ ([] : List (Delete TableName ColumnName Uuid)), d.clause s.rows r = true :=
    exists_deleteRows_last (List.forall_mem_nil _) (List.forall_mem_nil _) (List.forall_mem_nil _) htable hself
  refine h.trans ?_
  exact forall₂_congr fun r _ => ⟨fun hnames hn => by simpa using hnames hn, fun hnot hn => absurd hn hnot⟩

theorem mem_deleteRows_one {t : RowStore} (htable : table ≠ .boards ∧ table ≠ .gateways)
    (h : deleteRows s [⟨table, [.id], .given [id]⟩] = .ok t) (r : Row) : r ∈ t ↔ r ∈ s ∧ key r ≠ (table, [id]) := by
  rw [mem_deleteRows (by simp [Ids.reads]) (by simpa using htable) h]
  simp only [List.mem_singleton, forall_eq, clause_by_id_eq_false]

end LastRow

end SiloForge.Cascades
