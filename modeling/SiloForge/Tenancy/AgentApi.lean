import SiloForge.Approvals.Readers
import SiloForge.Boards.TaskReads
import SiloForge.Tenancy.Rows

/-!
# The agent API

What an agent can ask for with its token. Endpoints about a board look it up by the id in their path; an agent without
a board, the main agent of a gateway, passes the guards of every board. The times of an agent's own liveness, which its
calls move on, and the rows of the activity log that calls about agents add are left out.

* `guardBoardAccess`, `guardTaskAccess`, `boardAgentOr404` : the guards;
* `AgentCall`, `callAgentApi` : a call and what becomes of it;
* `tenantMachine` : calls between other changes of the database.
-/

namespace SiloForge

open Lib

/-! ## What is sent back -/

/-- What became of the message to the lead of a board; a lead is sent as its id and its name. -/
structure LeadResult where
  boardId : Uuid
  lead : Except Failure (PlacedAgent × Bool)

inductive AgentAnswer where
  | ok
  | agents (agents : List TenantAgent)
  | boards (boards : List BoardRow)
  | tasks (tasks : List TaskRead)
  | comments (comments : List ActivityEvent)
  | tags (tags : List Tag)
  | webhookPayload (payload : BoardWebhookPayload)
  | memory (memory : List BoardMemory)
  | approvals (approvals : List ApprovalRead)
  | onboarding (session : BoardOnboardingSession)
  | soul (content : String)
  | mainAgent (boardId : Uuid) (agent : Option PlacedAgent)
  | leads (results : List LeadResult)

/-- The states a call commits, and its answer. -/
structure TenantResponse where
  commits : List TenantDb
  answer : Except Failure AgentAnswer

namespace TenantResponse

def read (answer : Except Failure AgentAnswer) : TenantResponse := { commits := [], answer }

def changed {α : Type} (x : Except Failure (TenantDb × α)) (answer : α → AgentAnswer) : TenantResponse :=
  match x with
  | .error e => read (.error e)
  | .ok (t, row) => { commits := [t], answer := .ok (answer row) }

def stored (s : TenantDb) (commits : Except Failure (List Db)) (answer : Db → Except Failure AgentAnswer) :
    TenantResponse :=
  match commits with
  | .error e => read (.error e)
  | .ok commits =>
    { commits := commits.map fun t => { s with rows := t }
      answer := answer (commits.getLastD s.db) }

end TenantResponse

/-! ## Guards -/

/-- `get_agent_auth_context`, for the agent the token belongs to. -/
def agentAuthContext (s : TenantDb) (agentId : Uuid) : Except Failure TenantAgent :=
  orFail (s.agents.get? agentId) (.status 401)

def requireBoardWriteAccess (allowed : Bool) : Except Failure Unit := require (allowed = true) (.status 403)

def guardBoardAccess (agent : TenantAgent) (board : BoardRow) : Except Failure Unit :=
  requireBoardWriteAccess !(agent.boardId.any (· ≠ board.id))

def guardTaskAccess (agent : TenantAgent) (task : Task) : Except Failure Unit :=
  requireBoardWriteAccess !(agent.boardId.any fun boardId => task.boardId.any (boardId ≠ ·))

def boardOfPath (s : TenantDb) (agent : TenantAgent) (boardId : Uuid) : Except Failure BoardRow := do
  let board ← orFail (s.boards.get? boardId) (.status 404)
  guardBoardAccess agent board
  return board

def taskOfPath (s : TenantDb) (agent : TenantAgent) (boardId taskId : Uuid) : Except Failure Task := do
  let board ← getBoardForActorRead s.db boardId (.agent agent.toAgent)
  let task ← getTaskOr404 s.db board taskId
  guardTaskAccess agent task
  return task

/-- `_board_agent_or_404` : an agent without a board is on every board. -/
def boardAgentOr404 (s : TenantDb) (board : BoardRow) (agentId : Uuid) : Except Failure TenantAgent := do
  let target ← orFail (s.agents.get? agentId) (.status 404)
  require (target.boardId.all (· = board.id)) (.status 404)
  return target

/-- `gateway_client_config`. -/
def requireClientConfig (gateway : OrgGateway) : Except Failure OrgGateway := do
  require (strip gateway.url ≠ "") (.text 422 "Gateway url is required")
  return gateway

def requireGatewayConfigForBoard (s : TenantDb) (board : BoardRow) : Except Failure OrgGateway := do
  require board.gatewayId.isSome boardGatewayRequired
  let gateway ← orFail (getGatewayForBoard s.placement board) (.text 422 "Board gateway_id is invalid")
  requireClientConfig gateway

def requireGatewayMainActorBinding (agent : TenantAgent) (gateway : Option OrgGateway) : Except Failure OrgGateway := do
  require (agent.boardId = none) (.status 403)
  let gateway ← orFail gateway (.text 403 "Only the dedicated gateway agent may call this endpoint.")
  require (agent.openclawSessionId = some (gatewaySessionKey gateway.id))
    (.text 403 "Only the dedicated gateway agent may call this endpoint.")
  return gateway

def requireGatewayMainActor (s : TenantDb) (agent : TenantAgent) : Except Failure OrgGateway := do
  let gateway ← requireGatewayMainActorBinding agent (s.gateways.get? agent.gatewayId)
  requireClientConfig gateway

def requireGatewayBoard (s : TenantDb) (gateway : OrgGateway) (boardId : Uuid) : Except Failure BoardRow := do
  let board ← orFail (s.boards.get? boardId) (.text 404 "Board not found")
  require (board.gatewayId = some gateway.id) (.status 403)
  return board

/-! ## Reading -/

def newestFirst {α : Type} (createdAt : α → Time) (rows : List α) : List α :=
  rows.mergeSort fun a b => createdAt b ≤ createdAt a

/-- The boards of a main agent are those of the organization of its gateway. -/
def listBoards (s : TenantDb) (agent : TenantAgent) : Except Failure AgentAnswer :=
  match agent.boardId with
  | some boardId => .ok (.boards (s.boards.rows.filter fun b => b.id = boardId))
  | none => do
    let gateway ← orFail (s.gateways.get? agent.gatewayId)
      (.text 403 "Agent gateway not found; cannot determine organization scope.")
    return .boards (s.boards.rows.filter fun b => b.organizationId = gateway.organizationId)

/-- The agents of the caller's board; a main agent gets those of any board, or all. -/
def listAgents (s : TenantDb) (agent : TenantAgent) (boardId : Option Uuid) : Except Failure AgentAnswer := do
  let selected : TenantAgent → Bool ← match agent.boardId, boardId with
    | some ownBoardId, boardId => do
      requireBoardWriteAccess (boardId.all (· = ownBoardId))
      pure fun a => a.boardId = some ownBoardId
    | none, some boardId => pure fun a => a.boardId = some boardId
    | none, none => pure fun _ => true
  return .agents (newestFirst (fun a => a.createdAt) (s.agents.rows.filter selected))

def taskReadResponse (db : Db) (boardId : Uuid) (task : Task) : Except Failure TaskRead := do
  let definitions ← organizationCustomFieldDefinitionsForBoard db boardId
  return readTask db boardId definitions task

/-- The status a text stands for, among the allowed ones. -/
def TaskStatus.ofText? (text : String) : Option TaskStatus :=
  [TaskStatus.inbox, .inProgress, .review, .done].find? fun status => status.text = text

def statusValues (statusFilter : Option String) : Except Failure (List TaskStatus) :=
  match statusFilter with
  | none => .ok []
  | some text =>
    orFail (((text.splitOn ",").map strip).filter (· ≠ "") |>.mapM TaskStatus.ofText?)
      (.text 422 "Unsupported task status filter.")

structure AgentTaskListFilters where
  statusFilter : Option String := none
  assignedAgentId : Option Uuid := none
  unassigned : Option Bool := none

def agentListTasks (db : Db) (boardId : Uuid) (filters : AgentTaskListFilters) : Except Failure (List TaskRead) := do
  let statuses ← statusValues filters.statusFilter
  listTasks db boardId
    { statuses, assignedAgentId := filters.assignedAgentId, unassigned := filters.unassigned = some true
      rank := fun _ => 0, limit := db.tasks.rows.length }

def listTaskComments (db : Db) (taskId : Uuid) : List ActivityEvent :=
  (db.events.filter fun e => e.taskId = some taskId ∧ e.eventType = .taskComment).mergeSort
    fun a b => a.createdAt ≤ b.createdAt

def agentListApprovals (db : Db) (boardId : Uuid) (status : Option ApprovalStatus) : List ApprovalRead :=
  listApprovals db boardId status (fun _ => 0) 0 db.approvals.rows.length

def getWebhookPayload (s : TenantDb) (boardId webhookId payloadId : Uuid) : Except Failure BoardWebhookPayload :=
  orFail ((s.webhookPayloads.get? payloadId).filter fun p => p.boardId = boardId ∧ p.webhookId = webhookId)
    (.status 404)

/-- The entries of a board's memory that are more than spaces. -/
def listBoardMemory (s : TenantDb) (boardId : Uuid) (isChat : Option Bool) : List BoardMemory :=
  newestFirst (fun m => m.createdAt)
    (s.memory.rows.filter fun m => m.boardId = boardId && m.content.toList.any (· ≠ ' ') && isChat.all (m.isChat = ·))

/-! ## Board memory and onboarding -/

structure BoardMemoryCreate where
  content : String
  tags : Option (List String) := none
  source : Option String := none

/-- A chat entry without a source is signed with the agent's name. -/
def createBoardMemory (s : TenantDb) (now : Time) (boardId memoryId : Uuid) (agent : TenantAgent)
    (payload : BoardMemoryCreate) : Except Failure (TenantDb × BoardMemory) := do
  let isChat := payload.tags.any ("chat" ∈ ·)
  let source := if isChat && (payload.source.all (· = "")) then some agent.name else payload.source
  let entry : BoardMemory :=
    { id := memoryId, boardId, content := payload.content, tags := payload.tags, isChat, source, createdAt := now }
  let memory ← orFail (s.memory.insert? entry) .integrityError
  return ({ s with memory }, entry)

/-- `agent_onboarding_update` : a board whose gateway is found is for the main agent of that gateway. -/
def agentOnboardingUpdate (s : TenantDb) (now : Time) (board : BoardRow) (agent : TenantAgent)
    (payload : BoardOnboardingAgentUpdate) : Except Failure (TenantDb × BoardOnboardingSession) := do
  require (agent.boardId = none) (.status 403)
  match getGatewayForBoard s.placement board with
  | none => pure ()
  | some gateway => do
    let _gateway ← requireGatewayMainActorBinding agent (some gateway)
    pure ()
  let onboarding ← orFail (latestOnboarding s.onboardingSessions board.id) (.status 404)
  require (onboarding.status ≠ "confirmed") (.status 409)
  let updated := onboarding.updated now now payload
  return ({ s with onboardingSessions := s.onboardingSessions.put updated }, updated)

/-! ## Agents -/

/-- What the gateways answer while a call runs. -/
structure GatewayAnswers where
  /-- A message to a session. -/
  send : OrgGateway → String → Except Failure Unit
  readSoul : OrgGateway → PlacedAgent → Except Failure String
  writeSoul : OrgGateway → PlacedAgent → String → Except Failure Unit
  /-- A lifecycle run: whether it comes as far as the session key, and how it ends. -/
  provision : OrgGateway → PlacedAgent → Bool × Except Failure Unit
  cleanup : OrgGateway → PlacedAgent → Except Failure Unit

def TenantDb.applyWrite (s : TenantDb) : AgentWrite → Except Failure TenantDb
  | .insert agent => do
    let agents ← orFail (s.agents.insert? { toPlacedAgent := agent }) .integrityError
    return { s with agents }
  | .update loaded new => do
    let current ← orFail (s.agents.get? loaded.id) (.status 500)
    return { s with
      agents := s.agents.put { current with toPlacedAgent := new.writtenOver loaded current.toPlacedAgent } }
  | .delete agentId => .ok { s with agents := s.agents.deleteWhere fun a => a.id = agentId }
  | .updateBoard loaded new => do
    let current ← orFail (s.boards.get? loaded.id) (.status 500)
    return { s with boards := s.boards.put (new.writtenOver loaded current) }

/-- The commits of a request about agents, up to the first that fails. -/
def TenantDb.applyWrites (s : TenantDb) : List AgentWrite → List TenantDb × Except Failure TenantDb
  | [] => ([], .ok s)
  | write :: writes =>
    match s.applyWrite write with
    | .error e => ([], .error e)
    | .ok t =>
      let (commits, last) := t.applyWrites writes
      (t :: commits, last)

/-- `create_agent` : a lead creates a worker on its own board. -/
def createBoardAgent (casing : LetterCase) (gateways : GatewayAnswers) (s : TenantDb) (agent : TenantAgent)
    (agentId : Uuid) (payload : AgentCreate) : TenantResponse :=
  let checked : Except Failure (List AgentWrite × Except Failure Unit) := do
    requireBoardLeadActor agent.toAgent
    let payload := { payload with boardId := agent.boardId }
    let board ← requireBoard s.placement agent.boardId none false
    let run : Bool × Except Failure Unit := match getGatewayForBoard s.placement board with
      | none => (false, .ok ())
      | some gateway => gateways.provision gateway (newWorker agentId board gateway payload.name)
    let writes ← createAgent casing s.placement agentId (.agent agent.id) payload run.1
    return (writes, run.2)
  match checked with
  | .error e => .read (.error e)
  | .ok (writes, provisioned) =>
    let (commits, last) := s.applyWrites writes
    { commits
      answer := do
        let t ← last
        provisioned
        let created ← orFail (t.agents.get? agentId) (.status 500)
        return .agents [created] }

def nudgeBoardAgent (gateways : GatewayAnswers) (s : TenantDb) (board : BoardRow) (agentId : Uuid) :
    Except Failure Unit := do
  let target ← boardAgentOr404 s board agentId
  let sessionKey ← orFail (target.openclawSessionId.filter (· ≠ "")) (.text 422 "Target agent has no session key")
  let gateway ← requireGatewayConfigForBoard s board
  gateways.send gateway sessionKey

/-- `get_agent_soul`, for a lead or the agent itself. -/
def getAgentSoul (gateways : GatewayAnswers) (s : TenantDb) (agent : TenantAgent) (board : BoardRow) (agentId : Uuid) :
    Except Failure String := do
  require (agent.isBoardLead = true ∨ agent.id = agentId) (.status 403)
  let target ← boardAgentOr404 s board agentId
  let gateway ← requireGatewayConfigForBoard s board
  gateways.readSoul gateway target.toPlacedAgent

/-- `update_agent_soul` : the template is committed before the gateway is asked for. -/
def updateAgentSoul (gateways : GatewayAnswers) (s : TenantDb) (board : BoardRow) (agentId : Uuid)
    (content : String) : TenantResponse :=
  let checked : Except Failure TenantAgent := do
    let target ← boardAgentOr404 s board agentId
    require (strip content ≠ "") (.text 422 "content is required")
    return target
  match checked with
  | .error e => .read (.error e)
  | .ok target =>
    { commits := [{ s with agents := s.agents.put { target with soulTemplate := some (strip content) } }]
      answer := do
        let gateway ← requireGatewayConfigForBoard s board
        gateways.writeSoul gateway target.toPlacedAgent (strip content)
        return .ok }

/-- `delete_agent_as_lead` : an agent that is gone is deleted. -/
def deleteBoardAgent (gateways : GatewayAnswers) (s : TenantDb) (now : Time) (agent : TenantAgent) (agentId : Uuid) :
    TenantResponse :=
  let checked : Except Failure (Option Db) := do
    let writes ← deleteAgentAsLead s.placement agentId agent.id
    if writes.isEmpty then return none
    else
      let target ← orFail (s.agents.get? agentId) (.status 404)
      let board ← requireBoard s.placement target.boardId none false
      let gateway ← requireGateway s.placement board
      gateways.cleanup gateway target.toPlacedAgent
      let t ← deleteAgentRecord s.db now agentId
      return some t
  match checked with
  | .error e => .read (.error e)
  | .ok none => .read (.ok .ok)
  | .ok (some t) =>
    { commits := [{ s with rows := t, agents := s.agents.deleteWhere fun a => a.id = agentId }], answer := .ok .ok }

def askUserViaGatewayMain (gateways : GatewayAnswers) (s : TenantDb) (board : BoardRow) :
    Except Failure AgentAnswer := do
  let gateway ← requireGatewayConfigForBoard s board
  gateways.send gateway (gatewaySessionKey gateway.id)
  let mainAgent := s.placement.agents.rows.find? fun a => a.gatewayId = gateway.id ∧ a.boardId = none
  return .mainAgent board.id mainAgent

/-- `_ensure_and_message_board_lead` : the commits, and the lead with whether it is new. -/
def ensureAndMessageBoardLead (gateways : GatewayAnswers) (s : TenantDb) (gateway : OrgGateway) (board : BoardRow)
    (newId : Uuid) : List TenantDb × Except Failure (PlacedAgent × Bool) :=
  let existing := (s.placement.leads board.id).head?
  let run : Bool × Except Failure Unit := match existing with
    | some _ => (true, .ok ())
    | none => gateways.provision gateway (newLead newId board gateway (desiredLeadName none))
  let (commits, last) := s.applyWrites (ensureBoardLeadAgent s.placement board gateway none newId run.1)
  (commits, do
    let t ← last
    run.2
    let lead ← orFail (t.agents.get? ((existing.map (·.id)).getD newId)) (.status 500)
    let sessionKey ← orFail (lead.openclawSessionId.filter (· ≠ "")) (.text 422 "Lead agent has no session key")
    gateways.send gateway sessionKey
    return (lead.toPlacedAgent, existing.isNone))

def messageGatewayBoardLead (gateways : GatewayAnswers) (s : TenantDb) (agent : TenantAgent) (boardId newId : Uuid) :
    TenantResponse :=
  let checked : Except Failure (OrgGateway × BoardRow) := do
    let gateway ← requireGatewayMainActor s agent
    let board ← requireGatewayBoard s gateway boardId
    return (gateway, board)
  match checked with
  | .error e => .read (.error e)
  | .ok (gateway, board) =>
    let (commits, messaged) := ensureAndMessageBoardLead gateways s gateway board newId
    { commits, answer := messaged.map fun lead => .leads [{ boardId := board.id, lead := .ok lead }] }

/-- The message to the lead of one board after the other; a board whose lead is not reached does not stop the rest. -/
def messageEachLead (gateways : GatewayAnswers) (gateway : OrgGateway) (newIds : Uuid → Uuid) :
    TenantDb → List BoardRow → List TenantDb × List LeadResult
  | _, [] => ([], [])
  | s, board :: boards =>
    let (commits, lead) := ensureAndMessageBoardLead gateways s gateway board (newIds board.id)
    let (rest, results) := messageEachLead gateways gateway newIds (commits.getLastD s) boards
    (commits ++ rest, { boardId := board.id, lead } :: results)

def broadcastGatewayLeadMessage (gateways : GatewayAnswers) (s : TenantDb) (agent : TenantAgent) (boardIds : List Uuid)
    (newIds : Uuid → Uuid) : TenantResponse :=
  match requireGatewayMainActor s agent with
  | .error e => .read (.error e)
  | .ok gateway =>
    let boards := s.boards.rows.filter fun b => b.gatewayId = some gateway.id && (boardIds = [] || b.id ∈ boardIds)
    let (commits, results) := messageEachLead gateways gateway newIds s boards
    { commits, answer := .ok (.leads results) }

/-! ## Calls -/

inductive AgentCall where
  | healthz
  | listBoards
  | getBoard (boardId : Uuid)
  | listAgents (boardId : Option Uuid)
  | listTasks (boardId : Uuid) (filters : AgentTaskListFilters)
  | listTags (boardId : Uuid)
  | getWebhookPayload (boardId webhookId payloadId : Uuid)
  | createTask (boardId taskId : Uuid) (payload : TaskCreate)
  | updateTask (boardId taskId : Uuid) (payload : TaskUpdate)
  | deleteTask (boardId taskId : Uuid)
  | listTaskComments (boardId taskId : Uuid)
  | createTaskComment (boardId taskId : Uuid) (message : String)
  | listBoardMemory (boardId : Uuid) (isChat : Option Bool)
  | createBoardMemory (boardId memoryId : Uuid) (payload : BoardMemoryCreate)
  | listApprovals (boardId : Uuid) (status : Option ApprovalStatus)
  | createApproval (boardId approvalId : Uuid) (payload : ApprovalCreate)
  | updateOnboarding (boardId : Uuid) (payload : BoardOnboardingAgentUpdate)
  | createAgent (agentId : Uuid) (payload : AgentCreate)
  | nudgeAgent (boardId agentId : Uuid)
  | agentHeartbeat
  | getAgentSoul (boardId agentId : Uuid)
  | updateAgentSoul (boardId agentId : Uuid) (content : String)
  | deleteBoardAgent (boardId agentId : Uuid)
  | askUserViaGatewayMain (boardId : Uuid)
  | messageGatewayBoardLead (boardId newId : Uuid)
  | broadcastGatewayLeadMessage (boardIds : List Uuid) (newIds : Uuid → Uuid)

structure TenantEnv where
  texts : Texts
  casing : LetterCase

def boardOfLead (s : TenantDb) (agent : TenantAgent) (boardId : Uuid) : Except Failure BoardRow := do
  let board ← boardOfPath s agent boardId
  requireBoardLeadActor agent.toAgent
  return board

def committedTask (boardId taskId : Uuid) (db : Db) : Except Failure AgentAnswer := do
  let task ← orFail (db.tasks.get? taskId) (.status 404)
  let read ← taskReadResponse db boardId task
  return .tasks [read]

def committedComment (db : Db) : Except Failure AgentAnswer := .ok (.comments (db.events.getLast?).toList)

/-- The approval a commit holds, with the tasks of the request. -/
def committedApproval (approvalId : Uuid) (payload : ApprovalCreate) (db : Db) : Except Failure AgentAnswer := do
  let approval ← orFail (db.approvals.get? approvalId) (.status 404)
  let payload ← payload.normalizeTaskLinks.validateLeadReasoning
  let taskIds := normalizeTaskIds payload.taskId payload.taskIds payload.payload
  return .approvals [approvalToRead approval taskIds (taskIds.filterMap fun id => (db.tasks.get? id).map (·.title))]

def callEndpoint (env : TenantEnv) (gateways : GatewayAnswers) (s : TenantDb) (now : Time) (agent : TenantAgent) :
    AgentCall → TenantResponse
  | .healthz | .agentHeartbeat => .read (.ok (.agents [agent]))
  | .listBoards => .read (listBoards s agent)
  | .getBoard boardId => .read do
    let board ← boardOfPath s agent boardId
    return .boards [board]
  | .listAgents boardId => .read (listAgents s agent boardId)
  | .listTasks boardId filters => .read do
    let board ← boardOfPath s agent boardId
    let tasks ← agentListTasks s.db board.id filters
    return .tasks tasks
  | .listTags boardId => .read do
    let board ← boardOfPath s agent boardId
    return .tags (s.rows.tags.rows.filter fun t => t.organizationId = board.organizationId)
  | .getWebhookPayload boardId webhookId payloadId => .read do
    let board ← boardOfPath s agent boardId
    let payload ← getWebhookPayload s board.id webhookId payloadId
    return .webhookPayload payload
  | .createTask boardId taskId payload =>
    .stored s (createTaskAsLead env.texts s.db now boardId taskId agent.id payload) (committedTask boardId taskId)
  | .updateTask boardId taskId payload =>
    .stored s (do
      let _task ← taskOfPath s agent boardId taskId
      updateTask env.texts s.db now boardId taskId (.agent agent.id) payload) (committedTask boardId taskId)
  | .deleteTask boardId taskId =>
    .stored s (do
      let _task ← taskOfPath s agent boardId taskId
      let t ← deleteTask s.db boardId taskId (.agent agent.id)
      return [t]) fun _ => .ok .ok
  | .listTaskComments boardId taskId => .read do
    let task ← taskOfPath s agent boardId taskId
    return .comments (listTaskComments s.db task.id)
  | .createTaskComment boardId taskId message =>
    .stored s (do
      let _task ← taskOfPath s agent boardId taskId
      let t ← createTaskComment env.texts s.db now boardId taskId (.agent agent.id) message
      return [t]) committedComment
  | .listBoardMemory boardId isChat => .read do
    let board ← boardOfPath s agent boardId
    return .memory (listBoardMemory s board.id isChat)
  | .createBoardMemory boardId memoryId payload =>
    .changed (do
      let board ← boardOfPath s agent boardId
      createBoardMemory s now board.id memoryId agent payload) fun entry => .memory [entry]
  | .listApprovals boardId status => .read do
    let board ← boardOfPath s agent boardId
    return .approvals (agentListApprovals s.db board.id status)
  | .createApproval boardId approvalId payload =>
    .stored s (do
      let _board ← boardOfPath s agent boardId
      let t ← createApproval s.db now boardId approvalId (.agent agent.id) payload
      return [t]) (committedApproval approvalId payload)
  | .updateOnboarding boardId payload =>
    .changed (do
      let board ← boardOfPath s agent boardId
      agentOnboardingUpdate s now board agent payload) .onboarding
  | .createAgent agentId payload => createBoardAgent env.casing gateways s agent agentId payload
  | .nudgeAgent boardId agentId => .read do
    let board ← boardOfLead s agent boardId
    nudgeBoardAgent gateways s board agentId
    return .ok
  | .getAgentSoul boardId agentId => .read do
    let board ← boardOfPath s agent boardId
    let content ← getAgentSoul gateways s agent board agentId
    return .soul content
  | .updateAgentSoul boardId agentId content =>
    match boardOfLead s agent boardId with
    | .error e => .read (.error e)
    | .ok board => updateAgentSoul gateways s board agentId content
  | .deleteBoardAgent boardId agentId =>
    match boardOfLead s agent boardId with
    | .error e => .read (.error e)
    | .ok _ => deleteBoardAgent gateways s now agent agentId
  | .askUserViaGatewayMain boardId => .read do
    let board ← boardOfLead s agent boardId
    askUserViaGatewayMain gateways s board
  | .messageGatewayBoardLead boardId newId => messageGatewayBoardLead gateways s agent boardId newId
  | .broadcastGatewayLeadMessage boardIds newIds => broadcastGatewayLeadMessage gateways s agent boardIds newIds

def callAgentApi (env : TenantEnv) (gateways : GatewayAnswers) (s : TenantDb) (now : Time) (agentId : Uuid)
    (call : AgentCall) : TenantResponse :=
  match agentAuthContext s agentId with
  | .error e => .read (.error e)
  | .ok agent => callEndpoint env gateways s now agent call

/-- What happens to the database: a call of an agent, or any change by users, workers and gateways. -/
inductive TenantStep where
  | call (gateways : GatewayAnswers) (now : Time) (agentId : Uuid) (call : AgentCall)
  | other (t : TenantDb)

/-- The states each step commits. -/
def tenantMachine (env : TenantEnv) : Machine TenantDb TenantStep where
  commits s step :=
    match step with
    | .call gateways now agentId call => (callAgentApi env gateways s now agentId call).commits
    | .other t => [t]

end SiloForge
