import SiloForge.Lib.Like
import SiloForge.Openclaw.Provisioning
import SiloForge.Organizations.Access

/-!
# Agents and where they live

An agent lives on a board, or is the main agent of a gateway. Its row repeats the gateway of its board and keeps the
key of its session there.

* `PlacedAgent`, `BoardRow`, `OrgGateway`, `AgentDb` : the rows;
* `requireBoard`, `requireGateway`, `requireAgentAccess` : what the requests look up first.
-/

namespace SiloForge

open Lib

/-! ## Rows -/

structure BoardRow extends Board where
  name : String := ""
  gatewayId : Option Uuid := none
  maxAgents : Int := 1
  deriving DecidableEq

instance : Keyed BoardRow Uuid := ⟨fun b => b.id⟩

structure OrgGateway extends GatewayRow where
  organizationId : Uuid

instance : Keyed OrgGateway Uuid := ⟨fun g => g.id⟩

structure PlacedAgent extends Agent where
  gatewayId : Uuid
  openclawSessionId : Option String := none
  hasToken : Bool := false
  deriving DecidableEq

instance : Keyed PlacedAgent Uuid := ⟨fun a => a.id⟩

structure AgentDb where
  members : Table OrganizationMember := ∅
  boardAccess : Table OrganizationBoardAccess := ∅
  gateways : Table OrgGateway := ∅
  boards : Table BoardRow := ∅
  agents : Table PlacedAgent := ∅

namespace AgentDb

def access (s : AgentDb) : Db := { members := s.members, boardAccess := s.boardAccess }

def onBoard (s : AgentDb) (boardId : Uuid) : List PlacedAgent :=
  s.agents.rows.filter fun a => a.boardId = some boardId

def onGatewayBoards (s : AgentDb) (gatewayId : Uuid) : List PlacedAgent :=
  s.agents.rows.filter fun a => a.boardId.any fun boardId =>
    (s.boards.get? boardId).any fun board => board.gatewayId = some gatewayId

def leads (s : AgentDb) (boardId : Uuid) : List PlacedAgent := (s.onBoard boardId).filter (·.isBoardLead)

end AgentDb

/-! ## Session keys -/

def resolveSessionKey (agent : PlacedAgent) : Except Failure String :=
  match agent.boardId with
  | none =>
    let existing := strip (agent.openclawSessionId.getD "")
    if existing ≠ "" then .ok existing
    else .error (.text 422 "Gateway main agent session key is required")
  | some boardId => .ok (if agent.isBoardLead then boardLeadSessionKey boardId else boardAgentSessionKey agent.id)

theorem strip_sessionKeyOf (agentId : String) : strip (sessionKeyOf agentId) = sessionKeyOf agentId := by
  have hstart : "agent:".toList = 'a' :: "gent:".toList := rfl
  have hend : ":main".toList = ":mai".toList ++ ['n'] := rfl
  have hblank : isSpace 'a' = false ∧ isSpace 'n' = false := by decide
  have htext : (sessionKeyOf agentId).toList = 'a' :: ("gent:".toList ++ agentId.toList ++ ":mai".toList ++ ['n']) := by
    simp only [sessionKeyOf, String.toList_append, hstart, hend, List.cons_append, List.append_assoc]
  have hfront : (sessionKeyOf agentId).toList.dropWhile isSpace = (sessionKeyOf agentId).toList := by
    rw [htext, List.dropWhile_cons_of_neg (by simp [hblank.1])]
  have hback : (sessionKeyOf agentId).toList.reverse.dropWhile isSpace = (sessionKeyOf agentId).toList.reverse := by
    rw [htext, ← List.cons_append, List.reverse_append, List.reverse_singleton, List.singleton_append,
      List.dropWhile_cons_of_neg (by simp [hblank.2])]
  rw [strip, hfront, hback, List.reverse_reverse, String.ofList_toList]

inductive UpdateTarget where
  | board (board : BoardRow) (gateway : OrgGateway)
  | main (gateway : OrgGateway)

/-- The key a lifecycle run gives the agent: `_session_key` on a board, else the one it has. -/
def runSessionKey (agent : PlacedAgent) : UpdateTarget → String
  | .board .. =>
    match agent.boardId with
    | some boardId => if agent.isBoardLead then boardLeadSessionKey boardId else boardAgentSessionKey agent.id
    | none => boardAgentSessionKey agent.id
  | .main gateway => strip ((agent.openclawSessionId.filter (· ≠ "")).getD (gatewaySessionKey gateway.id))

/-- The row a lifecycle run leaves, where it came as far as the key. -/
def PlacedAgent.provisioned (agent : PlacedAgent) (target : UpdateTarget) (reached : Bool) : PlacedAgent :=
  if reached then { agent with openclawSessionId := some (runSessionKey agent target) } else agent

/-! ## Looking up -/

/-- `require_board`, with the access of a user where one asks. -/
def requireBoard (s : AgentDb) (boardId : Option Uuid) (user : Option Uuid) (write : Bool) :
    Except Failure BoardRow := do
  let boardId ← orFail boardId (.text 422 "board_id is required")
  let board ← orFail (s.boards.get? boardId) (.text 404 "Board not found")
  match user with
  | none => return board
  | some userId =>
    requireBoardAccess s.access userId board.toBoard write
    return board

/-- `get_gateway_for_board`, among these gateways: one of another organization does not count. -/
def gatewayOfBoard (gateways : Uuid → Option OrgGateway) (organizationId : Uuid) (gatewayId : Option Uuid) :
    Option OrgGateway :=
  (gatewayId.bind gateways).filter fun gateway => gateway.organizationId = organizationId

def readyGateway (found : Option OrgGateway) : Except Failure OrgGateway := do
  let gateway ← orFail found (.text 422 "Board gateway_id is invalid")
  require (strip gateway.workspaceRoot ≠ "") (.text 422 "Gateway workspace_root is required")
  require (strip gateway.url ≠ "") (.text 422 "Gateway url is required")
  return gateway

def getGatewayForBoard (s : AgentDb) (board : BoardRow) : Option OrgGateway :=
  gatewayOfBoard s.gateways.get? board.organizationId board.gatewayId

def requireGateway (s : AgentDb) (board : BoardRow) : Except Failure OrgGateway := do
  require board.gatewayId.isSome (.text 422 "Board gateway_id is required")
  readyGateway (getGatewayForBoard s board)

def getMainAgentGateway (s : AgentDb) (agent : PlacedAgent) : Option OrgGateway :=
  match agent.boardId with
  | some _ => none
  | none => s.gateways.get? agent.gatewayId

/-- `require_agent_access`: a main agent is for the administrators of its gateway's organization, another one for
those who may write, or read, its board. -/
def requireAgentAccess (s : AgentDb) (agent : PlacedAgent) (member : OrganizationMember) (write : Bool) :
    Except Failure Unit :=
  match agent.boardId with
  | none => do
    require (isOrgAdmin member) (.status 403)
    require ((getMainAgentGateway s agent).any (·.organizationId = member.organizationId)) (.status 404)
  | some boardId => do
    let board ← orFail ((s.boards.get? boardId).filter (·.organizationId = member.organizationId)) (.status 404)
    require (hasBoardAccess s.access member board.toBoard write) (.status 403)

/-! ## A new agent -/

/-- Whom a request about agents is authenticated as: a user with the active membership, or an agent. -/
inductive AgentActor where
  | user (member : OrganizationMember)
  | agent (agentId : Uuid)

namespace AgentActor

def isAgent : AgentActor → Bool
  | user _ => false
  | agent _ => true

/-- The user, where access is checked. -/
def user? : AgentActor → Option Uuid
  | user member => some member.userId
  | agent _ => none

end AgentActor

def countNonLeadAgentsForBoard (s : AgentDb) (boardId : Uuid) : Nat :=
  ((s.onBoard boardId).filter fun a => !a.isBoardLead).length

def spawnLimitError (maxAgents : Int) : Failure :=
  let noun := if maxAgents = 1 then "agent" else "agents"
  .text 409 ("Board worker-agent limit reached: max_agents=" ++ toString maxAgents ++
    " (excluding the lead); cannot create more than " ++ toString maxAgents ++ " " ++ noun ++ ".")

/-- The cap on a board's workers, for leads only. -/
def enforceBoardSpawnLimitForLead (s : AgentDb) (board : BoardRow) : AgentActor → Except Failure Unit
  | .user _ => .ok ()
  | .agent agentId =>
    if (s.agents.get? agentId).any (·.isBoardLead) then
      require ((countNonLeadAgentsForBoard s board.id : Int) < board.maxAgents) (spawnLimitError board.maxAgents)
    else .ok ()

/-- The letter case of the database: characters without one, as the wildcards, are only their own. -/
structure LetterCase where
  lower : Char → Char
  lower_lower : ∀ c, lower (lower c) = lower c
  wildcards : ∀ w ∈ likeWildcards, ∀ c, lower c = w ↔ c = w

namespace LetterCase

theorem id_lower (c : Char) : id (id c) = id c := rfl

theorem id_wildcards : ∀ w ∈ likeWildcards, ∀ c : Char, id c = w ↔ c = w := fun _ _ _ => Iff.rfl

/-- `lower`, as `ILIKE` uses it. -/
def lowerText (casing : LetterCase) (text : String) : List Char := text.toList.map casing.lower

/-- Two names are equal up to letter case. -/
def SameName (casing : LetterCase) (a b : String) : Prop := casing.lowerText a = casing.lowerText b

instance (casing : LetterCase) (a b : String) : Decidable (casing.SameName a b) :=
  inferInstanceAs (Decidable (_ = _))

/-- `text ILIKE pattern`. -/
def ilike (casing : LetterCase) (pattern text : String) : Option Bool :=
  like (casing.lowerText pattern) (casing.lowerText text)

end LetterCase

/-- The query for an agent whose name is `ILIKE` the pattern: a pattern that fails on a row fails the query. -/
def anyNameLike (casing : LetterCase) (agents : List PlacedAgent) (pattern : String) : Except Failure Bool :=
  if agents.any fun a => casing.ilike pattern a.name = none then .error (.status 500)
  else .ok (agents.any fun a => casing.ilike pattern a.name = some true)

/-- `ensure_unique_agent_name`: on the board, and on the boards of its gateway. -/
def ensureUniqueAgentName (casing : LetterCase) (s : AgentDb) (board : BoardRow) (gateway : OrgGateway)
    (requestedName : String) : Except Failure Unit :=
  if requestedName = "" then .ok ()
  else do
    let existing ← anyNameLike casing (s.onBoard board.id) requestedName
    require (existing = false) (.text 409 "An agent with this name already exists on this board.")
    let existingGateway ← anyNameLike casing (s.onGatewayBoards gateway.id) requestedName
    require (existingGateway = false) (.text 409 "An agent with this name already exists in this gateway workspace.")

end SiloForge
