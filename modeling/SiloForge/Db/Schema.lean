import SiloForge.Core.Failure
import SiloForge.Core.Json
import SiloForge.Lib.Table

/-!
# The tables

The rows the board, approval and execution-run code reads and writes, and the database they make up. A row
keeps the columns some modelled function uses. Association rows are keyed by their unique constraint.

A request works on a copy of the database: the copy it ends with is what it commits.
-/

namespace SiloForge

open Lib

/-! ## Boards and their members -/

structure Board where
  id : Uuid
  organizationId : Uuid
  requireApprovalForDone : Bool := true
  requireReviewBeforeDone : Bool := false
  commentRequiredForReview : Bool := false
  blockStatusChangesWithPendingApproval : Bool := false
  onlyLeadCanChangeStatus : Bool := false
  deriving DecidableEq

instance : Keyed Board Uuid := ⟨Board.id⟩

/-- The role of a member: one of the three with a meaning, or any other text. -/
inductive Role where
  | member | admin | owner
  | other (name : String)
  deriving DecidableEq

namespace Role

/-- The role a text of the column stands for. -/
def ofText (text : String) : Role :=
  if text = "member" then .member else if text = "admin" then .admin else if text = "owner" then .owner else .other text

theorem ofText_eq_owner {text : String} : ofText text = .owner ↔ text = "owner" := by
  unfold ofText
  split
  · rename_i h
    simp [h]
  · split
    · rename_i h
      simp [h]
    · split
      · rename_i h
        simp [h]
      · rename_i h
        simp [h]

/-- `ROLE_RANK`. -/
def rank : Role → Nat
  | owner => 2
  | admin => 1
  | member | other _ => 0

theorem rank_le_owner (role : Role) : role.rank ≤ owner.rank := by
  cases role with
  | owner => exact Nat.le_refl 2
  | admin => exact Nat.le_succ 1
  | member | other _ => exact Nat.zero_le 2

end Role

structure OrganizationMember where
  id : Uuid
  organizationId : Uuid
  userId : Uuid
  role : Role := .member
  allBoardsRead : Bool := false
  allBoardsWrite : Bool := false
  createdAt : Time := 0
  updatedAt : Time := 0
  deriving DecidableEq

instance : Keyed OrganizationMember Uuid := ⟨OrganizationMember.id⟩

structure OrganizationBoardAccess where
  organizationMemberId : Uuid
  boardId : Uuid
  canRead : Bool
  canWrite : Bool
  deriving DecidableEq

instance : Keyed OrganizationBoardAccess (Uuid × Uuid) := ⟨fun a => (a.organizationMemberId, a.boardId)⟩

structure User where
  id : Uuid
  email : Option String := none
  activeOrganizationId : Option Uuid := none
  deriving DecidableEq

instance : Keyed User Uuid := ⟨User.id⟩

/-- An invitation into an organization, until it is accepted. -/
structure OrganizationInvite where
  id : Uuid
  organizationId : Uuid
  invitedEmail : String
  token : String
  role : String := "member"
  allBoardsRead : Bool := false
  allBoardsWrite : Bool := false
  createdByUserId : Option Uuid := none
  acceptedByUserId : Option Uuid := none
  acceptedAt : Option Time := none
  createdAt : Time := 0
  updatedAt : Time := 0
  deriving DecidableEq

instance : Keyed OrganizationInvite Uuid := ⟨OrganizationInvite.id⟩

structure OrganizationInviteBoardAccess where
  organizationInviteId : Uuid
  boardId : Uuid
  canRead : Bool
  canWrite : Bool
  deriving DecidableEq

instance : Keyed OrganizationInviteBoardAccess (Uuid × Uuid) := ⟨fun a => (a.organizationInviteId, a.boardId)⟩

/-- An agent; without a board it is the main agent of a gateway. -/
structure Agent where
  id : Uuid
  boardId : Option Uuid
  isBoardLead : Bool := false
  name : String := ""
  createdAt : Time := 0
  deriving DecidableEq

instance : Keyed Agent Uuid := ⟨Agent.id⟩

/-! ## Silos -/

structure Silo where
  id : Uuid
  organizationId : Uuid
  slug : String
  enableSymphony : Bool
  deriving DecidableEq

instance : Keyed Silo Uuid := ⟨Silo.id⟩

structure SiloRole where
  siloId : Uuid
  slug : String
  runtimeKind : String
  createdAt : Time := 0
  deriving DecidableEq

instance : Keyed SiloRole (Uuid × String) := ⟨fun r => (r.siloId, r.slug)⟩

/-! ## Tasks -/

inductive TaskStatus where
  | inbox | inProgress | review | done
  deriving DecidableEq

namespace TaskStatus

def text : TaskStatus → String
  | inbox => "inbox"
  | inProgress => "in_progress"
  | review => "review"
  | done => "done"

/-- How far along a task is. -/
def rank : TaskStatus → Nat
  | inbox => 0
  | inProgress => 1
  | review => 2
  | done => 3

end TaskStatus

structure Task where
  id : Uuid
  boardId : Option Uuid
  title : String
  description : Option String := none
  status : TaskStatus := .inbox
  priority : String := "medium"
  dueAt : Option Time := none
  inProgressAt : Option Time := none
  previousInProgressAt : Option Time := none
  createdByUserId : Option Uuid := none
  assignedAgentId : Option Uuid := none
  autoCreated : Bool := false
  autoReason : Option Uuid := none
  createdAt : Time := 0
  updatedAt : Time := 0
  deriving DecidableEq

instance : Keyed Task Uuid := ⟨Task.id⟩

/-- `taskId` waits for `dependsOnTaskId`. -/
structure TaskDependency where
  boardId : Uuid
  taskId : Uuid
  dependsOnTaskId : Uuid
  deriving DecidableEq

instance : Keyed TaskDependency (Uuid × Uuid) := ⟨fun d => (d.taskId, d.dependsOnTaskId)⟩

structure Tag where
  id : Uuid
  organizationId : Uuid
  name : String := ""
  slug : String := ""
  color : String := ""
  deriving DecidableEq

instance : Keyed Tag Uuid := ⟨Tag.id⟩

structure TagAssignment where
  taskId : Uuid
  tagId : Uuid
  deriving DecidableEq

instance : Keyed TagAssignment (Uuid × Uuid) := ⟨fun a => (a.taskId, a.tagId)⟩

inductive TaskCustomFieldType where
  | text | textLong | integer | decimal | boolean | date | dateTime | url | json
  deriving DecidableEq

structure TaskCustomFieldDefinition where
  id : Uuid
  organizationId : Uuid
  fieldKey : String
  fieldType : TaskCustomFieldType
  validationRegex : Option String := none
  required : Bool := false
  defaultValue : Json := .null

instance : Keyed TaskCustomFieldDefinition Uuid := ⟨TaskCustomFieldDefinition.id⟩

structure BoardTaskCustomField where
  boardId : Uuid
  definitionId : Uuid
  deriving DecidableEq

instance : Keyed BoardTaskCustomField (Uuid × Uuid) := ⟨fun b => (b.boardId, b.definitionId)⟩

structure TaskCustomFieldValue where
  taskId : Uuid
  definitionId : Uuid
  value : Json
  updatedAt : Time

instance : Keyed TaskCustomFieldValue (Uuid × Uuid) := ⟨fun v => (v.taskId, v.definitionId)⟩

/-! ## Approvals -/

inductive ApprovalStatus where
  | pending | approved | rejected
  deriving DecidableEq

structure Approval where
  id : Uuid
  boardId : Uuid
  taskId : Option Uuid := none
  agentId : Option Uuid := none
  actionType : String
  payload : Json := .null
  status : ApprovalStatus := .pending
  createdAt : Time := 0
  resolvedAt : Option Time := none

instance : Keyed Approval Uuid := ⟨Approval.id⟩

structure ApprovalTaskLink where
  approvalId : Uuid
  taskId : Uuid
  deriving DecidableEq

instance : Keyed ApprovalTaskLink (Uuid × Uuid) := ⟨fun l => (l.approvalId, l.taskId)⟩

/-! ## Execution runs -/

inductive ExecutionRunStatus where
  | queued | dispatching | running | succeeded | failed | cancelled | blocked
  deriving DecidableEq

/-- The request a run was created for, as its row stores it. -/
structure DispatchPayload where
  siloSlug : String
  roleSlug : String
  promptOverride : Option String
  branchNameHint : Option String
  inputMetadata : Json

structure TaskExecutionRun where
  id : Uuid
  organizationId : Uuid
  boardId : Uuid
  taskId : Uuid
  siloId : Uuid
  requestedByUserId : Option Uuid := none
  requestedByAgentId : Option Uuid := none
  roleSlug : String
  status : ExecutionRunStatus := .queued
  dispatchPayload : Option DispatchPayload := none
  resultPayload : Option Json := none
  externalRunId : Option String := none
  workspacePath : Option String := none
  branchName : Option String := none
  prUrl : Option String := none
  summary : Option String := none
  errorMessage : Option String := none
  startedAt : Option Time := none
  completedAt : Option Time := none
  createdAt : Time := 0
  updatedAt : Time := 0

instance : Keyed TaskExecutionRun Uuid := ⟨TaskExecutionRun.id⟩

structure SiloSpawnRequest where
  id : Uuid
  sourceTaskId : Option Uuid
  deriving DecidableEq

instance : Keyed SiloSpawnRequest Uuid := ⟨SiloSpawnRequest.id⟩

/-! ## Memory -/

structure BoardMemory where
  id : Uuid
  boardId : Uuid
  content : String
  tags : Option (List String) := none
  isChat : Bool := false
  source : Option String := none
  createdAt : Time := 0
  deriving DecidableEq

instance : Keyed BoardMemory Uuid := ⟨BoardMemory.id⟩

structure BoardGroupMemory where
  id : Uuid
  boardGroupId : Uuid
  content : String
  tags : Option (List String) := none
  isChat : Bool := false
  source : Option String := none
  createdAt : Time := 0
  deriving DecidableEq

instance : Keyed BoardGroupMemory Uuid := ⟨BoardGroupMemory.id⟩

/-! ## Webhooks -/

/-- An inbound endpoint of a board. -/
structure BoardWebhook where
  id : Uuid
  boardId : Uuid
  agentId : Option Uuid := none
  description : String
  enabled : Bool := true
  secret : Option String := none
  signatureHeader : Option String := none
  deriving DecidableEq

instance : Keyed BoardWebhook Uuid := ⟨BoardWebhook.id⟩

structure BoardWebhookPayload where
  id : Uuid
  boardId : Uuid
  webhookId : Uuid
  payload : Json := .null
  headers : Option (List (String × String)) := none
  sourceIp : Option String := none
  contentType : Option String := none
  receivedAt : Time := 0
  deriving DecidableEq

instance : Keyed BoardWebhookPayload Uuid := ⟨BoardWebhookPayload.id⟩

/-! ## Activity -/

inductive EventType where
  | taskCreated | taskUpdated | taskStatusChanged | taskComment
  | runCreated | runDispatched | runRetried | runUpdated | runReport | runAcknowledged | runEscalated
  | agentDeleted
  deriving DecidableEq

structure ActivityEvent where
  eventType : EventType
  message : String
  taskId : Option Uuid
  boardId : Option Uuid
  agentId : Option Uuid
  createdAt : Time
  deriving DecidableEq

/-! ## The database -/

structure Db where
  users : Table User := ∅
  members : Table OrganizationMember := ∅
  boardAccess : Table OrganizationBoardAccess := ∅
  invites : Table OrganizationInvite := ∅
  inviteBoardAccess : Table OrganizationInviteBoardAccess := ∅
  boards : Table Board := ∅
  agents : Table Agent := ∅
  silos : Table Silo := ∅
  siloRoles : Table SiloRole := ∅
  tags : Table Tag := ∅
  customFields : Table TaskCustomFieldDefinition := ∅
  boardCustomFields : Table BoardTaskCustomField := ∅
  spawnRequests : Table SiloSpawnRequest := ∅
  tasks : Table Task := ∅
  dependencies : Table TaskDependency := ∅
  tagAssignments : Table TagAssignment := ∅
  customFieldValues : Table TaskCustomFieldValue := ∅
  approvals : Table Approval := ∅
  approvalTaskLinks : Table ApprovalTaskLink := ∅
  runs : Table TaskExecutionRun := ∅
  events : List ActivityEvent := []

/-! ## Columns of an update -/

/-- A column in an update: written when its value is not the one loaded. -/
def writtenColumn {α : Type} [DecidableEq α] (loaded new current : α) : α := if new = loaded then current else new

@[simp] theorem writtenColumn_self {α : Type} [DecidableEq α] (loaded new : α) :
    writtenColumn loaded new loaded = new := by
  unfold writtenColumn
  split
  · rename_i h
    exact h.symm
  · rfl

@[simp] theorem writtenColumn_unchanged {α : Type} [DecidableEq α] (loaded current : α) :
    writtenColumn loaded loaded current = current := if_pos rfl

theorem writtenColumn_of_ne {α : Type} [DecidableEq α] {loaded new : α} (h : new ≠ loaded) (current : α) :
    writtenColumn loaded new current = new := if_neg h

end SiloForge
