import SiloForge.Db.Schema

/-!
# Who may act on a board

The actor of a request is a user or an agent. A user acts on a board through the membership in the board's
organization; an agent through its own board, or through any board when it has none.

* `requireBoardAccess` : the membership check of a user;
* `getBoardForActorRead`, `getBoardForActorWrite`, `getTaskOr404` : the dependencies of the endpoints;
* `requireOrgAdmin` : the check in front of the run endpoints.
-/

namespace SiloForge

open Lib

inductive Actor where
  | user (userId : Uuid)
  | agent (agentId : Uuid)
  deriving DecidableEq

def Actor.isUser : Actor → Bool
  | user _ => true
  | agent _ => false

/-- The authenticated actor, an agent with its row. -/
inductive ActorContext where
  | user (userId : Uuid)
  | agent (agent : Agent)
  deriving DecidableEq

namespace ActorContext

def agent? : ActorContext → Option Agent
  | .user _ => none
  | .agent a => some a

def isUser : ActorContext → Bool
  | .user _ => true
  | .agent _ => false

end ActorContext

def requireUserOrAgent (db : Db) : Actor → Except Failure ActorContext
  | .user userId => .ok (.user userId)
  | .agent agentId => do
    let agent ← orFail (db.agents.get? agentId) (.status 401)
    return .agent agent

variable {db : Db} {board : Board}

theorem isUser_of_requireUserOrAgent {actor : Actor} {ctx : ActorContext} (h : requireUserOrAgent db actor = .ok ctx) :
    ctx.isUser = actor.isUser := by
  cases actor with
  | user userId => exact Except.ok.inj h ▸ rfl
  | agent agentId =>
    obtain ⟨agent, -, hctx⟩ := bind_eq_ok.mp h
    exact pure_eq_ok.mp hctx ▸ rfl

/-! ## Members -/

def getMember (db : Db) (userId organizationId : Uuid) : Option OrganizationMember :=
  db.members.rows.find? fun m => m.userId = userId ∧ m.organizationId = organizationId

def isOrgAdmin (member : OrganizationMember) : Bool := member.role = .owner || member.role = .admin

def memberAllBoardsRead (member : OrganizationMember) : Bool := member.allBoardsRead || member.allBoardsWrite

def memberAllBoardsWrite (member : OrganizationMember) : Bool := member.allBoardsWrite

def hasBoardAccess (db : Db) (member : OrganizationMember) (board : Board) (write : Bool) : Bool :=
  if member.organizationId ≠ board.organizationId then false
  else if write && memberAllBoardsWrite member then true
  else if !write && memberAllBoardsRead member then true
  else match db.boardAccess.get? (member.id, board.id) with
    | none => false
    | some access => if write then access.canWrite else access.canRead || access.canWrite

def requireBoardAccess (db : Db) (userId : Uuid) (board : Board) (write : Bool) : Except Failure Unit := do
  let member ← orFail (getMember db userId board.organizationId) (.text 403 "No org access")
  require (hasBoardAccess db member board write) (.text 403 "Board access denied")

/-- The organization an administrator acts in: a membership of the user with an admin role. -/
def requireOrgAdmin (db : Db) (userId organizationId : Uuid) : Except Failure Unit := do
  let member ← orFail (getMember db userId organizationId) (.status 403)
  require (isOrgAdmin member) (.status 403)

/-! ## Agents -/

/-- Whether an agent is kept off a board: it has a board of its own, another one. -/
def boardMismatch (agent : Agent) (boardId : Uuid) : Bool :=
  agent.boardId.any (· ≠ boardId)

def boardLead (db : Db) (boardId : Uuid) : Option Agent :=
  firstBy (fun a b => a.createdAt < b.createdAt)
    (db.agents.rows.filter fun a => a.boardId = some boardId ∧ a.isBoardLead)

def requireBoardLeadActor (agent : Agent) : Except Failure Unit := do
  require agent.isBoardLead (.text 403 "Only board leads can perform this action")
  require agent.boardId.isSome (.text 403 "Board lead must be assigned to a board")

/-! ## The dependencies of the endpoints -/

def getBoardOr404 (db : Db) (boardId : Uuid) : Except Failure Board :=
  orFail (db.boards.get? boardId) (.status 404)

def getBoardForActor (write : Bool) (db : Db) (boardId : Uuid) (actor : ActorContext) :
    Except Failure Board := do
  let board ← getBoardOr404 db boardId
  match actor with
  | .agent agent => require (boardMismatch agent board.id = false) (.status 403)
  | .user userId => requireBoardAccess db userId board write
  return board

def getBoardForActorRead := getBoardForActor false

def getBoardForActorWrite := getBoardForActor true

def getBoardForUserWrite (db : Db) (boardId userId : Uuid) : Except Failure Board := do
  let board ← getBoardOr404 db boardId
  requireBoardAccess db userId board true
  return board

def getTaskOr404 (db : Db) (board : Board) (taskId : Uuid) : Except Failure Task := do
  let task ← orFail (db.tasks.get? taskId) (.status 404)
  require (task.boardId = some board.id) (.status 404)
  return task

/-! ## What the dependencies establish -/

theorem getBoardOr404_eq_ok {boardId : Uuid} (h : getBoardOr404 db boardId = .ok board) :
    db.boards.get? boardId = some board ∧ board.id = boardId := by
  have hboard := orFail_eq_ok.mp h
  exact ⟨hboard, Table.key_of_get? hboard⟩

theorem getBoardForActor_eq_ok {write : Bool} {boardId : Uuid} {actor : ActorContext}
    (h : getBoardForActor write db boardId actor = .ok board) :
    db.boards.get? boardId = some board ∧ board.id = boardId := by
  simp only [getBoardForActor, bind_eq_ok] at h
  obtain ⟨board', hboard, h⟩ := h
  cases actor <;> simp only [bind_eq_ok, pure_eq_ok] at h <;> obtain ⟨_, _, rfl⟩ := h <;>
    exact getBoardOr404_eq_ok hboard

theorem getBoardForUserWrite_eq_ok {boardId userId : Uuid} (h : getBoardForUserWrite db boardId userId = .ok board) :
    db.boards.get? boardId = some board ∧ board.id = boardId := by
  simp only [getBoardForUserWrite, bind_eq_ok, pure_eq_ok] at h
  obtain ⟨_, hboard, _, _, rfl⟩ := h
  exact getBoardOr404_eq_ok hboard

theorem getTaskOr404_eq_ok {taskId : Uuid} {task : Task} (h : getTaskOr404 db board taskId = .ok task) :
    db.tasks.get? taskId = some task ∧ task.id = taskId ∧ task.boardId = some board.id := by
  simp only [getTaskOr404, bind_eq_ok, orFail_eq_ok, require_eq_ok, pure_eq_ok] at h
  obtain ⟨_, htask, _, hboard, rfl⟩ := h
  exact ⟨htask, Table.key_of_get? htask, hboard⟩

end SiloForge
