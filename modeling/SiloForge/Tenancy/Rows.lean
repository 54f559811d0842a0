import SiloForge.Agents.Requests
import SiloForge.Boards.Onboarding
import SiloForge.Lib.Parts
import SiloForge.Runs.Service
import SiloForge.Tasks.Lifecycle

/-!
# Rows and the organizations they belong to

The tables the agent API works on, boards and agents with their gateways. A board belongs to its organization, a task
to its board's, a comment to its task's; an agent to the organization of its board, or of its gateway when it has no
board.

* `TenantDb` : the tables; `TenantDb.db`, `TenantDb.placement` : what the endpoints of tasks and of agents see of them;
* `Db.without`, `TenantDb.without`, `TenantDb.hide` : the database without the rows of other organizations;
* `TenantDb.SameFor` : two states differ only in rows of other organizations;
* `TenantDb.rest` : the boards, agents, tasks and comments an organization does not own.
-/

namespace SiloForge

open Lib

/-! ## Rows -/

structure TenantAgent extends PlacedAgent where
  soulTemplate : Option String := none
  deriving DecidableEq

instance : Keyed TenantAgent Uuid := ⟨fun a => a.id⟩

/-- The database of all organizations. The boards and agents of `rows` are not read: `boards` and `agents` hold them
with all their columns. -/
structure TenantDb where
  gateways : Table OrgGateway := ∅
  boards : Table BoardRow := ∅
  agents : Table TenantAgent := ∅
  memory : Table BoardMemory := ∅
  webhookPayloads : Table BoardWebhookPayload := ∅
  onboardingSessions : Table BoardOnboardingSession := ∅
  rows : Db := {}

namespace TenantDb

def db (s : TenantDb) : Db :=
  { s.rows with
    boards := s.boards.view BoardRow.toBoard fun _ => rfl
    agents := s.agents.view (fun a => a.toAgent) fun _ => rfl }

def placement (s : TenantDb) : AgentDb where
  members := s.rows.members
  boardAccess := s.rows.boardAccess
  gateways := s.gateways
  boards := s.boards
  agents := s.agents.view TenantAgent.toPlacedAgent fun _ => rfl

/-! ## Owners -/

def boardOrganization (s : TenantDb) (boardId : Uuid) : Option Uuid := (s.boards.get? boardId).map (·.organizationId)

def gatewayOrganization (s : TenantDb) (gatewayId : Uuid) : Option Uuid :=
  (s.gateways.get? gatewayId).map (·.organizationId)

def agentOrganization (s : TenantDb) (agent : PlacedAgent) : Option Uuid :=
  match agent.boardId with
  | some boardId => s.boardOrganization boardId
  | none => s.gatewayOrganization agent.gatewayId

def agentIdOrganization (s : TenantDb) (agentId : Uuid) : Option Uuid :=
  (s.agents.get? agentId).bind fun a => s.agentOrganization a.toPlacedAgent

def taskOrganization (s : TenantDb) (task : Task) : Option Uuid := task.boardId.bind s.boardOrganization

def taskIdOrganization (s : TenantDb) (taskId : Uuid) : Option Uuid :=
  (s.rows.tasks.get? taskId).bind s.taskOrganization

def approvalIdOrganization (s : TenantDb) (approvalId : Uuid) : Option Uuid :=
  (s.rows.approvals.get? approvalId).bind fun a => s.boardOrganization a.boardId

/-- An activity row belongs with its task, one about no task with its board. -/
def eventOrganization (s : TenantDb) (event : ActivityEvent) : Option Uuid :=
  match event.taskId with
  | some taskId => s.taskIdOrganization taskId
  | none => event.boardId.bind s.boardOrganization

end TenantDb

/-! ## Rows of other organizations -/

/-- Which boards, agents, tasks, approvals and silos belong to another organization than the given one. -/
structure Others where
  organizationId : Uuid
  board : Uuid → Bool
  agent : Uuid → Bool
  task : Uuid → Bool
  approval : Uuid → Bool
  silo : Uuid → Bool

/-- An activity row goes with its task, one about no task with its board. -/
def Others.event (o : Others) (e : ActivityEvent) : Bool :=
  match e.taskId with
  | some taskId => o.task taskId
  | none => e.boardId.any o.board

def Db.without (db : Db) (others : Others) : Db where
  users := db.users
  members := db.members.deleteWhere fun m => m.organizationId ≠ others.organizationId
  boardAccess := db.boardAccess.deleteWhere fun a => others.board a.boardId
  invites := db.invites.deleteWhere fun i => i.organizationId ≠ others.organizationId
  inviteBoardAccess := db.inviteBoardAccess.deleteWhere fun a => others.board a.boardId
  boards := db.boards.deleteWhere fun b => b.organizationId ≠ others.organizationId
  agents := db.agents.deleteWhere fun a => others.agent a.id
  silos := db.silos.deleteWhere fun s => s.organizationId ≠ others.organizationId
  siloRoles := db.siloRoles.deleteWhere fun r => others.silo r.siloId
  tags := db.tags.deleteWhere fun t => t.organizationId ≠ others.organizationId
  customFields := db.customFields.deleteWhere fun d => d.organizationId ≠ others.organizationId
  boardCustomFields := db.boardCustomFields.deleteWhere fun b => others.board b.boardId
  spawnRequests := db.spawnRequests.deleteWhere fun r => r.sourceTaskId.any others.task
  tasks := db.tasks.deleteWhere fun t => t.boardId.any others.board
  dependencies := db.dependencies.deleteWhere fun d => others.board d.boardId && others.task d.taskId
  tagAssignments := db.tagAssignments.deleteWhere fun a => others.task a.taskId
  customFieldValues := db.customFieldValues.deleteWhere fun v => others.task v.taskId
  approvals := db.approvals.deleteWhere fun a => others.board a.boardId
  approvalTaskLinks := db.approvalTaskLinks.deleteWhere fun l => others.approval l.approvalId && others.task l.taskId
  runs := db.runs.deleteWhere fun r => others.task r.taskId
  events := db.events.filter fun e => !others.event e

/-- The board, agent, task and approval an id stands for are others' as the rows say. -/
structure Others.Fits (o : Others) (db : Db) : Prop where
  boards : ∀ b ∈ db.boards, o.board b.id = decide (b.organizationId ≠ o.organizationId)
  agents : ∀ a ∈ db.agents, ∀ boardId, a.boardId = some boardId → o.agent a.id = o.board boardId
  tasks : ∀ t ∈ db.tasks, o.task t.id = t.boardId.any o.board
  approvals : ∀ a ∈ db.approvals, o.approval a.id = o.board a.boardId

theorem Others.Fits.task_of_boardId {o : Others} {db : Db} {boardId : Uuid} (h : o.Fits db)
    (hboard : o.board boardId = false) {t : Task} (ht : t ∈ db.tasks) (hon : t.boardId = some boardId) :
    o.task t.id = false := by
  rw [h.tasks t ht, hon, Option.any_some, hboard]

/-- A task has the tags of its organization. -/
def Others.TagsApart (o : Others) (db : Db) : Prop :=
  ∀ a ∈ db.tagAssignments, ∀ t ∈ db.tags, a.tagId = t.id → o.task a.taskId = decide (t.organizationId ≠ o.organizationId)

/-- Rows about tasks and agents name others' rows exactly when they are others' themselves. -/
structure Others.Apart (o : Others) (db : Db) : Prop where
  tags : o.TagsApart db
  links : ∀ l ∈ db.approvalTaskLinks, o.approval l.approvalId = o.task l.taskId
  approvals : ∀ a ∈ db.approvals, ∀ taskId ∈ a.taskId, o.approval a.id = o.task taskId
  runs : ∀ r ∈ db.runs, ∀ agentId ∈ r.requestedByAgentId, o.task r.taskId = o.agent agentId

namespace TenantDb

def others (s : TenantDb) (organizationId : Uuid) : Others where
  organizationId
  board id := (s.boardOrganization id).any (· ≠ organizationId)
  agent id := (s.agentIdOrganization id).any (· ≠ organizationId)
  task id := (s.taskIdOrganization id).any (· ≠ organizationId)
  approval id := (s.approvalIdOrganization id).any (· ≠ organizationId)
  silo id := ((s.rows.silos.get? id).map (·.organizationId)).any (· ≠ organizationId)

def without (s : TenantDb) (others : Others) : TenantDb where
  gateways := s.gateways.deleteWhere fun g => g.organizationId ≠ others.organizationId
  boards := s.boards.deleteWhere fun b => b.organizationId ≠ others.organizationId
  agents := s.agents.deleteWhere fun a => others.agent a.id
  memory := s.memory.deleteWhere fun m => others.board m.boardId
  webhookPayloads := s.webhookPayloads.deleteWhere fun p => others.board p.boardId
  onboardingSessions := s.onboardingSessions.deleteWhere fun o => others.board o.boardId
  rows := s.db.without others

def hide (s : TenantDb) (organizationId : Uuid) : TenantDb := s.without (s.others organizationId)

def SameFor (organizationId : Uuid) (s s' : TenantDb) : Prop := s.hide organizationId = s'.hide organizationId

/-- The boards, agents, tasks and comments of a state that the organization does not own, as ownership is in `s`. -/
structure Rest where
  boards : Table BoardRow
  agents : Table TenantAgent
  tasks : Table Task
  comments : List ActivityEvent

def rest (s : TenantDb) (organizationId : Uuid) (t : TenantDb) : Rest where
  boards := t.boards.deleteWhere fun b => b.organizationId = organizationId
  agents := t.agents.deleteWhere fun a => s.agentOrganization a.toPlacedAgent = some organizationId
  tasks := t.rows.tasks.deleteWhere fun task => s.taskOrganization task = some organizationId
  comments := t.rows.events.filter fun e =>
    e.eventType = .taskComment ∧ s.eventOrganization e ≠ some organizationId

end TenantDb

end SiloForge
