import SiloForge.Agents.Rows
import SiloForge.Lib.Machine

/-!
# Requests about agents

Each request reads and checks committed rows and then writes, often in several commits: the row, its token, and what
the lifecycle run makes of it. A request that fails on the way leaves what it has committed.

* `AgentWrite` : one commit; an update writes the columns that are not as they were loaded;
* `createAgent`, `heartbeatOrCreateAgent`, `updatePlacedAgent`, `ensureBoardLeadAgent`, `upsertMainAgentRecord`,
  `deleteAgent`, `updateBoard` : the commits a request is to make, from the rows it reads.
-/

namespace SiloForge

open Lib

/-! ## Commits -/

inductive AgentWrite where
  | insert (agent : PlacedAgent)
  | update (loaded new : PlacedAgent)
  | delete (agentId : Uuid)
  | updateBoard (loaded new : BoardRow)

/-- The row as it is now, with the columns of a copy that are not as they were loaded. -/
def PlacedAgent.writtenOver (new loaded current : PlacedAgent) : PlacedAgent :=
  { current with
    boardId := writtenColumn loaded.boardId new.boardId current.boardId
    isBoardLead := writtenColumn loaded.isBoardLead new.isBoardLead current.isBoardLead
    name := writtenColumn loaded.name new.name current.name
    gatewayId := writtenColumn loaded.gatewayId new.gatewayId current.gatewayId
    openclawSessionId := writtenColumn loaded.openclawSessionId new.openclawSessionId current.openclawSessionId
    hasToken := writtenColumn loaded.hasToken new.hasToken current.hasToken }

def BoardRow.writtenOver (new loaded current : BoardRow) : BoardRow :=
  { current with
    gatewayId := writtenColumn loaded.gatewayId new.gatewayId current.gatewayId
    maxAgents := writtenColumn loaded.maxAgents new.maxAgents current.maxAgents }

def AgentWrite.apply (s : AgentDb) : AgentWrite → Except Failure AgentDb
  | .insert agent => do
    let agents ← orFail (s.agents.insert? agent) .integrityError
    return { s with agents }
  | .update loaded new => do
    let current ← orFail (s.agents.get? loaded.id) (.status 500)
    return { s with agents := s.agents.put (new.writtenOver loaded current) }
  | .delete agentId => .ok { s with agents := s.agents.deleteWhere fun a => a.id = agentId }
  | .updateBoard loaded new => do
    let current ← orFail (s.boards.get? loaded.id) (.status 500)
    return { s with boards := s.boards.put (new.writtenOver loaded current) }

def commitWrites (s : AgentDb) : List AgentWrite → List AgentDb
  | [] => []
  | write :: writes =>
    match write.apply s with
    | .error _ => []
    | .ok t => t :: commitWrites t writes

/-! ## Creating an agent -/

structure AgentCreate where
  boardId : Option Uuid := none
  name : String

/-- `coerce_agent_create_payload`: for administrators, and for leads on their own board. -/
def coerceAgentCreatePayload (s : AgentDb) (payload : AgentCreate) : AgentActor → Except Failure AgentCreate
  | .user member => do
    require (isOrgAdmin member) (.status 403)
    return payload
  | .agent agentId => do
    let agent ← orFail (s.agents.get? agentId) (.status 401)
    require agent.isBoardLead (.text 403 "Only board leads can create agents")
    let leadBoardId ← orFail agent.boardId (.text 403 "Board lead must be assigned to a board")
    require (payload.boardId.all (· = leadBoardId))
      (.text 403 "Board leads can only create agents in their own board")
    return { payload with boardId := some leadBoardId }

def newWorker (agentId : Uuid) (board : BoardRow) (gateway : OrgGateway) (name : String) : PlacedAgent :=
  { id := agentId, boardId := some board.id, name, gatewayId := gateway.id, hasToken := true }

def persistNewAgent (agentId : Uuid) (board : BoardRow) (gateway : OrgGateway) (name : String) :
    Except Failure PlacedAgent := do
  let agent := newWorker agentId board gateway name
  let sessionKey ← resolveSessionKey agent
  return { agent with openclawSessionId := some sessionKey }

def newLead (agentId : Uuid) (board : BoardRow) (gateway : OrgGateway) (name : String) : PlacedAgent :=
  { id := agentId, boardId := some board.id, isBoardLead := true, name, gatewayId := gateway.id
    openclawSessionId := some (boardLeadSessionKey board.id), hasToken := true }

def newAgentWrites (agent : PlacedAgent) (board : BoardRow) (gateway : OrgGateway) (reached : Bool) : List AgentWrite :=
  [.insert agent, .update agent (agent.provisioned (.board board gateway) reached)]

def createAgent (casing : LetterCase) (s : AgentDb) (agentId : Uuid) (actor : AgentActor) (payload : AgentCreate)
    (reached : Bool) : Except Failure (List AgentWrite) := do
  let payload ← coerceAgentCreatePayload s payload actor
  let board ← requireBoard s payload.boardId actor.user? (!actor.isAgent)
  enforceBoardSpawnLimitForLead s board actor
  let gateway ← requireGateway s board
  ensureUniqueAgentName casing s board gateway (strip payload.name)
  let agent ← persistNewAgent agentId board gateway payload.name
  return newAgentWrites agent board gateway reached

/-! ## Heartbeats -/

structure AgentHeartbeatCreate where
  name : String
  boardId : Option Uuid := none

/-- `heartbeat_lookup_statement`: by name, and by board where one is given. -/
def heartbeatLookup (s : AgentDb) (payload : AgentHeartbeatCreate) : Option PlacedAgent :=
  s.agents.rows.find? fun a => a.name = payload.name ∧ (payload.boardId.isSome → a.boardId = payload.boardId)

def createAgentFromHeartbeat (s : AgentDb) (agentId : Uuid) (member : OrganizationMember)
    (payload : AgentHeartbeatCreate) (reached : Bool) : Except Failure (List AgentWrite) := do
  require (isOrgAdmin member) (.status 403)
  let board ← requireBoard s payload.boardId (some member.userId) true
  let gateway ← requireGateway s board
  let agent ← persistNewAgent agentId board gateway payload.name
  return newAgentWrites agent board gateway reached

/-- `ensure_heartbeat_session_key`: the update it makes, if any. -/
def ensureHeartbeatSessionKey (agent : PlacedAgent) : Except Failure (List AgentWrite) :=
  match agent.boardId with
  | none => .ok []
  | some _ => do
    let desired ← resolveSessionKey agent
    if strip (agent.openclawSessionId.getD "") = desired then return []
    else return [.update agent { agent with openclawSessionId := some desired }]

/-- `handle_existing_user_heartbeat_agent`: an agent without a token gets one and is provisioned. The row it leaves,
with the commits up to it; `none` where it fails after a commit. -/
def handleExistingUserHeartbeatAgent (s : AgentDb) (agent : PlacedAgent) (member : OrganizationMember)
    (reached : Bool) : Except Failure (List AgentWrite × Option PlacedAgent) := do
  requireAgentAccess s agent member true
  if agent.hasToken then return ([], some agent)
  else
    let minted := { agent with hasToken := true }
    let target : Except Failure UpdateTarget := do
      let board ← requireBoard s agent.boardId (some member.userId) true
      let gateway ← requireGateway s board
      return .board board gateway
    match target with
    | .error _ => return ([.update agent minted], none)
    | .ok target =>
      let provisioned := minted.provisioned target reached
      -- a run that does not come as far as the key raises; one that raises later leaves the key in place
      return ([.update agent minted, .update minted provisioned], if reached then some provisioned else none)

/-- A heartbeat with a name: an agent's own heartbeat changes none of these rows. -/
def heartbeatOrCreateAgent (s : AgentDb) (agentId : Uuid) (payload : AgentHeartbeatCreate) (reached : Bool) :
    AgentActor → Except Failure (List AgentWrite)
  | .agent actorId => do
    let _agent ← orFail (s.agents.get? actorId) (.status 404)
    return []
  | .user member =>
    match heartbeatLookup s payload with
    | none => createAgentFromHeartbeat s agentId member payload reached
    | some agent => do
      match ← handleExistingUserHeartbeatAgent s agent member reached with
      | (writes, none) => return writes
      | (writes, some agent) =>
        let ensured ← ensureHeartbeatSessionKey agent
        return writes ++ ensured

/-! ## Updating an agent -/

/-- The fields of a PATCH; one that was left out is `none`. -/
structure AgentUpdate where
  boardId : Option (Option Uuid) := none
  isGatewayMain : Option Bool := none
  name : Option (Option String) := none
  status : Option (Option String) := none
  otherFields : Bool := false

namespace AgentUpdate

def givesFields (payload : AgentUpdate) : Bool :=
  payload.boardId.isSome || payload.name.isSome || payload.status.isSome || payload.otherFields

end AgentUpdate

def validateAgentUpdateInputs (s : AgentDb) (member : OrganizationMember) (payload : AgentUpdate) :
    Except Failure Unit := do
  require (payload.isGatewayMain = some true → isOrgAdmin member) (.status 403)
  require payload.status.isNone (.text 403 "status is controlled by agent heartbeat")
  match payload.boardId.join with
  | none => return ()
  | some boardId =>
    let board ← requireBoard s (some boardId) none false
    require (board.organizationId = member.organizationId) (.status 404)
    require (hasBoardAccess s.access member board.toBoard true) (.status 403)

def boardGatewayRequired : Failure := .text 422 "Board gateway_id is required"

/-- The copy an update is to write, and the gateways it found on the way: the one of the main agent, and the one the
agent becomes the main agent of. -/
structure AgentMutation where
  agent : PlacedAgent
  mainGateway : Option OrgGateway
  gatewayForMain : Option OrgGateway

def movedAgent (s : AgentDb) (agent : PlacedAgent) : Option (Option Uuid) → Except Failure PlacedAgent
  | none => .ok agent
  | some boardId => do
    let board ← requireBoard s boardId none false
    let gatewayId ← orFail board.gatewayId boardGatewayRequired
    return { agent with boardId := some board.id, gatewayId }

def placedByUpdate (s : AgentDb) (agent : PlacedAgent) (payload : AgentUpdate) : Except Failure AgentMutation :=
  let mainGateway := getMainAgentGateway s agent
  match payload.isGatewayMain with
  | some true => do
    let board ← requireBoard s (payload.boardId.join.or agent.boardId) none false
    let gateway ← requireGateway s board
    return {
      agent := { agent with
        boardId := none, gatewayId := gateway.id, isBoardLead := false
        openclawSessionId := some (gatewaySessionKey gateway.id) }
      mainGateway := some gateway
      gatewayForMain := some gateway }
  | some false => do
    let boardId ← orFail payload.boardId.join
      (.text 422 "board_id is required when converting a gateway-main agent to board scope")
    let board ← requireBoard s (some boardId) none false
    let gatewayId ← orFail board.gatewayId boardGatewayRequired
    -- The lead flag stays as it is.
    return {
      agent := { agent with boardId := some board.id, gatewayId, openclawSessionId := none }
      mainGateway, gatewayForMain := none }
  | none => do
    let moved ← movedAgent s agent payload.boardId
    return {
      agent := match mainGateway with
        | some gateway => { moved with boardId := none, gatewayId := gateway.id, isBoardLead := false }
        | none => moved
      mainGateway, gatewayForMain := none }

def namedByUpdate (agent : PlacedAgent) (payload : AgentUpdate) : Except Failure String :=
  match payload.name with
  | none => .ok agent.name
  | some name => orFail name .integrityError

/-- `apply_agent_update_mutations`, up to its commit. -/
def applyAgentUpdateMutations (s : AgentDb) (agent : PlacedAgent) (payload : AgentUpdate) :
    Except Failure AgentMutation := do
  let mutation ← placedByUpdate s agent payload
  let name ← namedByUpdate agent payload
  return { mutation with agent := { mutation.agent with name } }

/-- `resolve_agent_update_target`, for the row that was committed. -/
def resolveAgentUpdateTarget (s : AgentDb) (mutation : AgentMutation) (payload : AgentUpdate) :
    Except Failure UpdateTarget :=
  match payload.isGatewayMain, mutation.agent.boardId, mutation.mainGateway with
  | some true, _, _ => do
    let gateway ← orFail mutation.gatewayForMain (.text 422 "Gateway agent requires a gateway configuration")
    return .main gateway
  | none, none, some gateway => .ok (.main gateway)
  | _, none, _ => .error (.text 422 "board_id is required for non-main agents")
  | _, some boardId, _ => do
    let board ← requireBoard s (some boardId) none false
    let gateway ← requireGateway s board
    return .board board gateway

/-- `update_agent`: the commits of the agent's row, of its new token, and of what the lifecycle run makes of it. -/
def updatePlacedAgent (s : AgentDb) (agentId : Uuid) (member : OrganizationMember) (payload : AgentUpdate)
    (force reached : Bool) : Except Failure (List AgentWrite) := do
  let agent ← orFail (s.agents.get? agentId) (.status 404)
  requireAgentAccess s agent member true
  validateAgentUpdateInputs s member payload
  if !payload.givesFields && !force && payload.isGatewayMain.isNone then return []
  else
    let mutation ← applyAgentUpdateMutations s agent payload
    match resolveAgentUpdateTarget s mutation payload with
    | .error _ => return [.update agent mutation.agent]
    | .ok target =>
      let minted := { mutation.agent with hasToken := true }
      return [.update agent mutation.agent, .update mutation.agent minted,
        .update minted (minted.provisioned target reached)]

/-! ## Leads and main agents -/

def desiredLeadName (agentName : Option String) : String := (agentName.filter (· ≠ "")).getD "Lead Agent"

/-- `ensure_board_lead_agent`, for the row of the board's gateway. -/
def ensureBoardLeadAgent (s : AgentDb) (board : BoardRow) (gateway : OrgGateway) (agentName : Option String)
    (agentId : Uuid) (reached : Bool) : List AgentWrite :=
  let desiredName := desiredLeadName agentName
  match (s.leads board.id).head? with
  | some existing =>
    let desired := { existing with
      name := desiredName, gatewayId := gateway.id, openclawSessionId := some (boardLeadSessionKey board.id) }
    if desired = existing then [] else [.update existing desired]
  | none =>
    newAgentWrites (newLead agentId board gateway desiredName) board gateway reached

/-- A board and the row of its gateway, which both callers of `ensure_board_lead_agent` look up. -/
def boardWithGateway (s : AgentDb) (boardId : Uuid) : Except Failure (BoardRow × OrgGateway) := do
  let board ← requireBoard s (some boardId) none false
  let gateway ← orFail (board.gatewayId.bind s.gateways.get?) boardGatewayRequired
  return (board, gateway)

def newMainAgent (agentId : Uuid) (gateway : OrgGateway) (name : String) : PlacedAgent :=
  { id := agentId, boardId := none, name, gatewayId := gateway.id
    openclawSessionId := some (gatewaySessionKey gateway.id) }

/-- `upsert_main_agent_record`, with the commit of its callers. -/
def upsertMainAgentRecord (s : AgentDb) (gatewayId agentId : Uuid) (mainAgentName : String) :
    Except Failure (List AgentWrite) := do
  let gateway ← orFail (s.gateways.get? gatewayId) (.text 404 "Gateway not found")
  match s.agents.rows.find? fun a => a.gatewayId = gateway.id ∧ a.boardId = none with
  | none =>
    return [.insert (newMainAgent agentId gateway mainAgentName)]
  | some agent =>
    return [.update agent
      { agent with
        isBoardLead := false, name := mainAgentName, openclawSessionId := some (gatewaySessionKey gateway.id) }]

def deleteAgent (s : AgentDb) (agentId : Uuid) (member : OrganizationMember) : Except Failure (List AgentWrite) :=
  match s.agents.get? agentId with
  | none => .ok []
  | some agent => do
    requireAgentAccess s agent member true
    return [.delete agent.id]

def deleteAgentAsLead (s : AgentDb) (agentId leadId : Uuid) : Except Failure (List AgentWrite) := do
  let lead ← orFail (s.agents.get? leadId) (.status 401)
  require lead.isBoardLead (.text 403 "Only board leads can delete agents")
  require lead.boardId.isSome (.text 403 "Board lead must be assigned to a board")
  match s.agents.get? agentId with
  | none => return []
  | some agent =>
    require agent.boardId.isSome (.text 403 "Board leads cannot delete gateway main agents")
    let board ← requireBoard s lead.boardId none false
    require (agent.boardId = some board.id) (.status 404)
    require (agent.isBoardLead = false) (.text 403 "Board leads cannot delete lead agents")
    return [.delete agent.id]

/-! ## Updating a board -/

structure BoardUpdate where
  gatewayId : Option Uuid := none
  maxAgents : Option (Option Int) := none

/-- `_require_gateway`: a gateway of the organization that has a main agent. -/
def requireOrgGateway (s : AgentDb) (gatewayId organizationId : Uuid) : Except Failure OrgGateway := do
  let gateway ← orFail ((s.gateways.get? gatewayId).filter (·.organizationId = organizationId))
    (.text 422 "gateway_id is invalid")
  require (s.agents.rows.any fun a => a.gatewayId = gateway.id && a.boardId = none)
    (.text 422 "gateway must have a gateway main agent before boards can be created or updated")
  return gateway

/-- `_apply_board_update`, for those who may write the board. -/
def updateBoard (s : AgentDb) (boardId userId : Uuid) (payload : BoardUpdate) : Except Failure (List AgentWrite) := do
  let board ← orFail (s.boards.get? boardId) (.status 404)
  requireBoardAccess s.access userId board.toBoard true
  let gatewayId ← orFail (payload.gatewayId.or board.gatewayId) (.text 422 "gateway_id is required")
  let _gateway ← requireOrgGateway s gatewayId board.organizationId
  let maxAgents ← match payload.maxAgents with
    | none => pure board.maxAgents
    | some maxAgents => orFail maxAgents .integrityError
  return [.updateBoard board { board with gatewayId := some gatewayId, maxAgents }]

/-! ## The system -/

/-- A request; `reached` says whether its lifecycle run comes as far as the session key. -/
inductive AgentRequest where
  | createAgent (agentId : Uuid) (actor : AgentActor) (payload : AgentCreate) (reached : Bool)
  | heartbeatOrCreateAgent (agentId : Uuid) (actor : AgentActor) (payload : AgentHeartbeatCreate) (reached : Bool)
  | updateAgent (agentId : Uuid) (member : OrganizationMember) (payload : AgentUpdate) (force reached : Bool)
  | ensureBoardLeadAgent (boardId agentId : Uuid) (agentName : Option String) (reached : Bool)
  | upsertMainAgentRecord (gatewayId agentId : Uuid) (mainAgentName : String)
  | deleteAgent (agentId : Uuid) (member : OrganizationMember)
  | deleteAgentAsLead (agentId leadId : Uuid)
  | updateBoard (boardId userId : Uuid) (payload : BoardUpdate)

/-- The commits a request is to make, from the rows it reads. -/
def checkAgentRequest (casing : LetterCase) (s : AgentDb) : AgentRequest → Except Failure (List AgentWrite)
  | .createAgent agentId actor payload reached => createAgent casing s agentId actor payload reached
  | .heartbeatOrCreateAgent agentId actor payload reached => heartbeatOrCreateAgent s agentId payload reached actor
  | .updateAgent agentId member payload force reached => updatePlacedAgent s agentId member payload force reached
  | .ensureBoardLeadAgent boardId agentId agentName reached => do
    let (board, gateway) ← boardWithGateway s boardId
    return ensureBoardLeadAgent s board gateway agentName agentId reached
  | .upsertMainAgentRecord gatewayId agentId mainAgentName => upsertMainAgentRecord s gatewayId agentId mainAgentName
  | .deleteAgent agentId member => deleteAgent s agentId member
  | .deleteAgentAsLead agentId leadId => deleteAgentAsLead s agentId leadId
  | .updateBoard boardId userId payload => updateBoard s boardId userId payload

/-- The states a request commits when no other runs beside it. -/
def respondAgents (casing : LetterCase) (s : AgentDb) (request : AgentRequest) : List AgentDb :=
  match checkAgentRequest casing s request with
  | .error _ => []
  | .ok writes => commitWrites s writes

def agentMachine (casing : LetterCase) : Machine AgentDb AgentRequest where
  commits := respondAgents casing

end SiloForge
