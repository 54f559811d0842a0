import SiloForge.Agents.Requests

/-!
# What a request about agents leaves

With no other request beside it, every commit of a request writes the row of one agent, deletes one, or writes the row
of a board.

* `Wrote s agent t` : `t` is `s` with the row of one agent written (`Wrote.mem`, `Wrote.trans`);
* `Planned`, `planned_of_ok` : the commits a request is to make;
* `AgentOutcome`, `outcome_of_mem` : what a request alone leaves.
-/

namespace SiloForge

open Lib

/-! ## One row written -/

structure Wrote (s : AgentDb) (agent : PlacedAgent) (t : AgentDb) : Prop where
  boards : t.boards = s.boards
  gateways : t.gateways = s.gateways
  get? : ∀ id, t.agents.get? id = if id = agent.id then some agent else s.agents.get? id

namespace Wrote

variable {s t u : AgentDb} {agent next : PlacedAgent}

theorem self (h : Wrote s agent t) : t.agents.get? agent.id = some agent := by rw [h.get?, if_pos rfl]

theorem mem (h : Wrote s agent t) {a : PlacedAgent} :
    a ∈ t.agents ↔ a = agent ∨ a ∈ s.agents ∧ a.id ≠ agent.id := by
  constructor
  · intro ha
    have hget : t.agents.get? a.id = some a := Table.get?_key ha
    rw [h.get?] at hget
    split at hget
    · exact .inl (Option.some.inj hget).symm
    · rename_i hne
      exact .inr ⟨Table.mem_of_get? hget, hne⟩
  · rintro (rfl | ⟨ha, hne⟩)
    · exact Table.mem_of_get? h.self
    · have hget : t.agents.get? a.id = some a := by rw [h.get?, if_neg hne]; exact Table.get?_key ha
      exact Table.mem_of_get? hget

theorem trans (h : Wrote s agent t) (h' : Wrote t next u) (hid : next.id = agent.id) : Wrote s next u where
  boards := h'.boards.trans h.boards
  gateways := h'.gateways.trans h.gateways
  get? id := by
    rw [h'.get?, h.get?, hid]
    split <;> rfl

end Wrote

/-- A row with the columns no request writes as they were. -/
def PlacedAgent.Rewrites (new loaded : PlacedAgent) : Prop := new.id = loaded.id ∧ new.createdAt = loaded.createdAt

theorem PlacedAgent.writtenOver_self {new loaded : PlacedAgent} (h : new.Rewrites loaded) :
    new.writtenOver loaded loaded = new := by
  obtain ⟨hid, hcreated⟩ := h
  unfold writtenOver
  simp only [writtenColumn_self, ← hid, ← hcreated]

variable {s t : AgentDb} {writes : List AgentWrite} {agent : PlacedAgent} {board : BoardRow} {gateway : OrgGateway}
  {reached : Bool} {actor : AgentActor} {payload : AgentUpdate} {casing : LetterCase} {agentId : Uuid}
  {member : OrganizationMember}

theorem mem_commitWrites_update {loaded new : PlacedAgent} (hloaded : s.agents.get? loaded.id = some loaded)
    (hnew : new.Rewrites loaded) (ht : t ∈ commitWrites s (.update loaded new :: writes)) :
    Wrote s new t ∨ ∃ u, Wrote s new u ∧ t ∈ commitWrites u writes := by
  have hwrote : Wrote s new { s with agents := s.agents.put new } :=
    { boards := rfl
      gateways := rfl
      get? := fun id => by
        rw [Table.get?_put, show key new = new.id from rfl]
        split
        · rename_i hid
          rw [hid, hnew.1, hloaded]
          rfl
        · rfl }
  have happly : (AgentWrite.update loaded new).apply s = .ok { s with agents := s.agents.put new } := by
    simp only [AgentWrite.apply, bind_eq_ok, orFail_eq_ok, pure_eq_ok]
    exact ⟨loaded, hloaded, by rw [PlacedAgent.writtenOver_self hnew]⟩
  rw [commitWrites, happly] at ht
  rcases List.mem_cons.mp ht with rfl | ht
  · exact .inl hwrote
  · exact .inr ⟨_, hwrote, ht⟩

/-- The commits write the row of one agent again and again, each from the copy before it. -/
def Updates (P : PlacedAgent → Prop) : PlacedAgent → List AgentWrite → Prop
  | _, [] => True
  | agent, .update loaded new :: writes => loaded = agent ∧ new.Rewrites agent ∧ P new ∧ Updates P new writes
  | _, _ :: _ => False

theorem wrote_of_updates {P : PlacedAgent → Prop} (hfound : s.agents.get? agent.id = some agent)
    (h : Updates P agent writes) (ht : t ∈ commitWrites s writes) :
    ∃ row, row.id = agent.id ∧ P row ∧ Wrote s row t := by
  induction writes generalizing s agent with
  | nil => cases ht
  | cons write writes ih =>
    cases write with
    | update loaded new =>
      obtain ⟨rfl, hnew, hP, hrest⟩ := h
      rcases mem_commitWrites_update hfound hnew ht with hwrote | ⟨u, hwrote, ht⟩
      · exact ⟨new, hnew.1, hP, hwrote⟩
      · obtain ⟨row, hid, hrow, hlast⟩ := ih hwrote.self hrest ht
        exact ⟨row, hid.trans hnew.1, hrow, hwrote.trans hlast hid⟩
    | insert agent => exact h.elim
    | delete agentId => exact h.elim
    | updateBoard loaded new => exact h.elim

theorem PlacedAgent.provisioned_eq_self {target : UpdateTarget}
    (hkey : agent.openclawSessionId = some (runSessionKey agent target)) (reached : Bool) :
    agent.provisioned target reached = agent := by
  unfold provisioned
  split
  · rw [← hkey]
  · rfl

theorem wrote_newAgent (hkey : agent.openclawSessionId = some (runSessionKey agent (.board board gateway)))
    (ht : t ∈ commitWrites s (newAgentWrites agent board gateway reached)) :
    s.agents.get? agent.id = none ∧ Wrote s agent t := by
  rw [newAgentWrites, PlacedAgent.provisioned_eq_self hkey, commitWrites] at ht
  split at ht
  · cases ht
  · rename_i u happly
    obtain ⟨agents, hinsert, hu⟩ : ∃ agents, s.agents.insert? agent = some agents ∧ { s with agents } = u := by
      simpa only [AgentWrite.apply, bind_eq_ok, orFail_eq_ok, pure_eq_ok] using happly
    have hwrote : Wrote s agent u := by
      subst hu
      exact ⟨rfl, rfl, fun id => Table.get?_insert? hinsert id⟩
    refine ⟨(Table.insert?_eq_some hinsert).2, ?_⟩
    rcases List.mem_cons.mp ht with rfl | ht
    · exact hwrote
    · rcases mem_commitWrites_update hwrote.self ⟨rfl, rfl⟩ ht with hlast | ⟨v, -, ht⟩
      · exact hwrote.trans hlast rfl
      · cases ht

/-! ## What the requests look up -/

def persistedWorker (agentId : Uuid) (board : BoardRow) (gateway : OrgGateway) (name : String) : PlacedAgent :=
  { newWorker agentId board gateway name with openclawSessionId := some (boardAgentSessionKey agentId) }

theorem persistNewAgent_eq (agentId : Uuid) (board : BoardRow) (gateway : OrgGateway) (name : String) :
    persistNewAgent agentId board gateway name = .ok (persistedWorker agentId board gateway name) := rfl

structure GatewayOf (s : AgentDb) (board : BoardRow) (gateway : OrgGateway) : Prop where
  found : s.boards.get? board.id = some board
  gatewayId : board.gatewayId = some gateway.id
  gateway : s.gateways.get? gateway.id = some gateway

theorem requireBoard_eq_ok {boardId user : Option Uuid} {write : Bool}
    (h : requireBoard s boardId user write = .ok board) :
    boardId = some board.id ∧ s.boards.get? board.id = some board := by
  obtain ⟨id, hid, found, hfound, hrest⟩ : ∃ id, boardId = some id ∧ ∃ found, s.boards.get? id = some found ∧
      _ = Except.ok board := by
    simpa only [requireBoard, bind_eq_ok, orFail_eq_ok] using h
  have hsame : found = board := by
    cases user with
    | none => exact pure_eq_ok.mp hrest
    | some userId =>
      obtain ⟨_, -, hlast⟩ := bind_eq_ok.mp hrest
      exact pure_eq_ok.mp hlast
  subst hsame
  obtain rfl : found.id = id := Table.key_of_get? hfound
  exact ⟨hid, hfound⟩

theorem requireGateway_eq_ok (hboard : s.boards.get? board.id = some board) (h : requireGateway s board = .ok gateway) :
    GatewayOf s board gateway := by
  obtain ⟨_, -, found, hfound, _, -, _, -, rfl⟩ : ∃ _, _ ∧ ∃ found, getGatewayForBoard s board = some found ∧
      ∃ _, _ ∧ ∃ _, _ ∧ found = gateway := by
    simpa only [requireGateway, readyGateway, bind_eq_ok, orFail_eq_ok, pure_eq_ok] using h
  obtain ⟨hbind, -⟩ := Option.filter_eq_some_iff.mp hfound
  obtain ⟨gatewayId, hgatewayId, hget⟩ := Option.bind_eq_some_iff.mp hbind
  obtain rfl : found.id = gatewayId := Table.key_of_get? hget
  exact ⟨hboard, hgatewayId, hget⟩

theorem boardWithGateway_eq_ok {boardId : Uuid} (h : boardWithGateway s boardId = .ok (board, gateway)) :
    boardId = board.id ∧ GatewayOf s board gateway := by
  obtain ⟨found, hfound, gateway', hgateway, heq⟩ : ∃ found, requireBoard s (some boardId) none false = .ok found ∧
      ∃ gateway', found.gatewayId.bind s.gateways.get? = some gateway' ∧ (found, gateway') = (board, gateway) := by
    simpa only [boardWithGateway, bind_eq_ok, orFail_eq_ok, pure_eq_ok] using h
  cases heq
  obtain ⟨hid, hboard⟩ := requireBoard_eq_ok hfound
  obtain ⟨gatewayId, hgatewayId, hget⟩ := Option.bind_eq_some_iff.mp hgateway
  obtain rfl : gateway.id = gatewayId := Table.key_of_get? hget
  exact ⟨Option.some.inj hid, hboard, hgatewayId, hget⟩

def createdBoardId (s : AgentDb) (payload : AgentCreate) : AgentActor → Option Uuid
  | .user _ => payload.boardId
  | .agent agentId => (s.agents.get? agentId).bind (·.boardId)

theorem coerceAgentCreatePayload_eq_ok {payload coerced : AgentCreate}
    (h : coerceAgentCreatePayload s payload actor = .ok coerced) :
    coerced.name = payload.name ∧ coerced.boardId = createdBoardId s payload actor ∧
      ∀ agentId, actor = .agent agentId → (s.agents.get? agentId).any (·.isBoardLead) = true := by
  cases actor with
  | user member =>
    obtain ⟨_, -, hsame⟩ := bind_eq_ok.mp h
    obtain rfl := pure_eq_ok.mp hsame
    exact ⟨rfl, rfl, nofun⟩
  | agent actorId =>
    obtain ⟨lead, hfound, h⟩ := bind_eq_ok.mp h
    obtain ⟨_, hlead, h⟩ := bind_eq_ok.mp h
    obtain ⟨leadBoardId, hon, h⟩ := bind_eq_ok.mp h
    obtain ⟨_, -, hsame⟩ := bind_eq_ok.mp h
    obtain rfl := pure_eq_ok.mp hsame
    rw [orFail_eq_ok] at hfound hon
    rw [require_eq_ok] at hlead
    refine ⟨rfl, ?_, fun agentId hagent => ?_⟩
    · rw [createdBoardId, hfound, Option.bind_some, hon]
    · cases hagent
      rw [hfound]
      exact hlead

/-! ## The rows of a PATCH -/

def AgentUpdate.nameOf (payload : AgentUpdate) (agent : PlacedAgent) : String := payload.name.join.getD agent.name

inductive AgentMutated (s : AgentDb) (agent : PlacedAgent) (payload : AgentUpdate) : PlacedAgent → Prop
  | madeMain (board : BoardRow) (gateway : OrgGateway) (requested : payload.isGatewayMain = some true)
      (place : GatewayOf s board gateway) :
      AgentMutated s agent payload
        { agent with
          boardId := none, gatewayId := gateway.id, isBoardLead := false
          openclawSessionId := some (gatewaySessionKey gateway.id), name := payload.nameOf agent }
  | unmadeMain (board : BoardRow) (gatewayId : Uuid) (requested : payload.isGatewayMain = some false)
      (given : payload.boardId = some (some board.id)) (found : s.boards.get? board.id = some board)
      (gateway : board.gatewayId = some gatewayId) :
      AgentMutated s agent payload
        { agent with boardId := some board.id, gatewayId, openclawSessionId := none, name := payload.nameOf agent }
  | stayedMain (gateway : OrgGateway) (requested : payload.isGatewayMain = none) (main : agent.boardId = none)
      (found : s.gateways.get? agent.gatewayId = some gateway) :
      AgentMutated s agent payload { agent with isBoardLead := false, name := payload.nameOf agent }
  | moved (board : BoardRow) (gatewayId : Uuid) (requested : payload.isGatewayMain = none)
      (main : getMainAgentGateway s agent = none) (given : payload.boardId = some (some board.id))
      (found : s.boards.get? board.id = some board) (gateway : board.gatewayId = some gatewayId) :
      AgentMutated s agent payload
        { agent with boardId := some board.id, gatewayId, name := payload.nameOf agent }
  | renamed (requested : payload.isGatewayMain = none) (main : getMainAgentGateway s agent = none)
      (given : payload.boardId = none) :
      AgentMutated s agent payload { agent with name := payload.nameOf agent }

theorem namedByUpdate_eq_ok {name : String} (h : namedByUpdate agent payload = .ok name) :
    payload.name ≠ some none ∧ name = payload.nameOf agent := by
  unfold namedByUpdate at h
  unfold AgentUpdate.nameOf
  split at h
  · rename_i hname
    rw [hname]
    exact ⟨nofun, (Except.ok.inj h).symm⟩
  · rename_i given hname
    rw [orFail_eq_ok] at h
    rw [hname, h]
    exact ⟨nofun, rfl⟩

theorem movedAgent_eq_ok {moved : PlacedAgent} {boardId : Option (Option Uuid)}
    (h : movedAgent s agent boardId = .ok moved) :
    boardId = none ∧ moved = agent ∨ ∃ board gatewayId, boardId = some (some board.id) ∧
      s.boards.get? board.id = some board ∧ board.gatewayId = some gatewayId ∧
      moved = { agent with boardId := some board.id, gatewayId } := by
  cases boardId with
  | none => exact .inl ⟨rfl, (Except.ok.inj h).symm⟩
  | some boardId =>
    obtain ⟨board, hboard, gatewayId, hgateway, hmoved⟩ : ∃ board, requireBoard s boardId none false = .ok board ∧
        ∃ gatewayId, board.gatewayId = some gatewayId ∧
          ({ agent with boardId := some board.id, gatewayId } : PlacedAgent) = moved := by
      simpa only [movedAgent, bind_eq_ok, orFail_eq_ok, pure_eq_ok] using h
    obtain ⟨rfl, hfound⟩ := requireBoard_eq_ok hboard
    exact .inr ⟨board, gatewayId, rfl, hfound, hgateway, hmoved.symm⟩

theorem getMainAgentGateway_eq_some (h : getMainAgentGateway s agent = some gateway) :
    agent.boardId = none ∧ s.gateways.get? agent.gatewayId = some gateway ∧ gateway.id = agent.gatewayId := by
  unfold getMainAgentGateway at h
  split at h
  · cases h
  · exact ⟨‹_›, h, Table.key_of_get? h⟩

theorem mutated_of_ok {mutation : AgentMutation} (h : applyAgentUpdateMutations s agent payload = .ok mutation) :
    payload.name ≠ some none ∧ AgentMutated s agent payload mutation.agent := by
  obtain ⟨placed, hplaced, name, hname, rfl⟩ : ∃ placed, placedByUpdate s agent payload = .ok placed ∧
      ∃ name, namedByUpdate agent payload = .ok name ∧
        ({ placed with agent := { placed.agent with name } } : AgentMutation) = mutation := by
    simpa only [applyAgentUpdateMutations, bind_eq_ok, pure_eq_ok] using h
  obtain ⟨hgiven, rfl⟩ := namedByUpdate_eq_ok hname
  refine ⟨hgiven, ?_⟩
  unfold placedByUpdate at hplaced
  dsimp only at hplaced
  split at hplaced
  · rename_i hrequested
    obtain ⟨board, hboard, hplaced⟩ := bind_eq_ok.mp hplaced
    obtain ⟨gateway, hgateway, hplaced⟩ := bind_eq_ok.mp hplaced
    obtain rfl := pure_eq_ok.mp hplaced
    exact .madeMain board gateway hrequested (requireGateway_eq_ok (requireBoard_eq_ok hboard).2 hgateway)
  · rename_i hrequested
    obtain ⟨boardId, hboardId, hplaced⟩ := bind_eq_ok.mp hplaced
    obtain ⟨board, hboard, hplaced⟩ := bind_eq_ok.mp hplaced
    obtain ⟨gatewayId, hgateway, hplaced⟩ := bind_eq_ok.mp hplaced
    obtain rfl := pure_eq_ok.mp hplaced
    obtain ⟨hid, hfound⟩ := requireBoard_eq_ok hboard
    rw [orFail_eq_ok, hid, Option.join_eq_some_iff] at hboardId
    exact .unmadeMain board gatewayId hrequested hboardId hfound (orFail_eq_ok.mp hgateway)
  · rename_i hrequested
    obtain ⟨moved, hmoved, hplaced⟩ := bind_eq_ok.mp hplaced
    obtain rfl := pure_eq_ok.mp hplaced
    cases hmain : getMainAgentGateway s agent with
    | some gateway =>
      obtain ⟨hboardless, hfound, hid⟩ := getMainAgentGateway_eq_some hmain
      have hrow : ({ moved with boardId := none, gatewayId := gateway.id, isBoardLead := false
                                name := payload.nameOf agent } : PlacedAgent) =
          { agent with isBoardLead := false, name := payload.nameOf agent } := by
        rcases movedAgent_eq_ok hmoved with ⟨-, rfl⟩ | ⟨_, _, -, -, -, rfl⟩ <;>
          rw [hid, ← hboardless]
      dsimp only
      rw [hrow]
      exact .stayedMain gateway hrequested hboardless hfound
    | none =>
      dsimp only
      rcases movedAgent_eq_ok hmoved with ⟨hgiven, rfl⟩ | ⟨board, gatewayId, hgiven, hfound, hgateway, rfl⟩
      · exact .renamed hrequested hmain hgiven
      · exact .moved board gatewayId hrequested hmain hgiven hfound hgateway

/-! ## Provisioned rows -/

inductive RunKey (agent : PlacedAgent) : Option String → Prop
  | kept : RunKey agent agent.openclawSessionId
  | onBoard (boardId : Uuid) (on : agent.boardId = some boardId) : RunKey agent (resolveSessionKey agent).toOption
  | asMain (gateway : OrgGateway) (main : agent.boardId = none) :
      RunKey agent (some (runSessionKey agent (.main gateway)))

/-- What tokens and lifecycle runs make of a row. -/
structure ProvisionedAs (agent row : PlacedAgent) : Prop where
  same : row = { agent with hasToken := row.hasToken, openclawSessionId := row.openclawSessionId }
  key : RunKey agent row.openclawSessionId

def UpdateTarget.Fits (agent : PlacedAgent) : UpdateTarget → Prop
  | .board b _ => agent.boardId = some b.id
  | .main _ => agent.boardId = none

namespace ProvisionedAs

variable {agent row : PlacedAgent}

theorem refl (agent : PlacedAgent) : ProvisionedAs agent agent := ⟨rfl, .kept⟩

theorem boardId (h : ProvisionedAs agent row) : row.boardId = agent.boardId := by rw [h.same]

theorem isBoardLead (h : ProvisionedAs agent row) : row.isBoardLead = agent.isBoardLead := by rw [h.same]

theorem name (h : ProvisionedAs agent row) : row.name = agent.name := by rw [h.same]

theorem gatewayId (h : ProvisionedAs agent row) : row.gatewayId = agent.gatewayId := by rw [h.same]

theorem rewrites (h : ProvisionedAs agent row) : row.Rewrites agent := by rw [h.same]; exact ⟨rfl, rfl⟩

theorem minted (agent : PlacedAgent) : ProvisionedAs agent { agent with hasToken := true } := ⟨rfl, .kept⟩

theorem provisioned {target : UpdateTarget} (hfits : target.Fits agent) (reached : Bool) :
    ProvisionedAs agent (({ agent with hasToken := true } : PlacedAgent).provisioned target reached) := by
  unfold PlacedAgent.provisioned
  split
  · refine ⟨rfl, ?_⟩
    cases target with
    | board board gateway =>
      have hkey : some (runSessionKey { agent with hasToken := true } (.board board gateway)) =
          (resolveSessionKey agent).toOption := by
        have hon : agent.boardId = some board.id := hfits
        simp only [runSessionKey, resolveSessionKey, hon]
        rfl
      show RunKey agent (some _)
      rw [hkey]
      exact .onBoard board.id hfits
    | main gateway => exact .asMain gateway hfits
  · exact minted agent

theorem resolved (h : ProvisionedAs agent row) {boardId : Uuid} {key : String} (on : row.boardId = some boardId)
    (hkey : resolveSessionKey row = .ok key) : ProvisionedAs agent { row with openclawSessionId := some key } := by
  refine ⟨by rw [h.same], ?_⟩
  have hon : agent.boardId = some boardId := h.boardId.symm.trans on
  have hresolved : (resolveSessionKey agent).toOption = some key := by
    have hsame : resolveSessionKey agent = resolveSessionKey row := by
      rw [h.same]
      simp only [resolveSessionKey, hon]
    rw [hsame, hkey]
    rfl
  show RunKey agent (some key)
  rw [← hresolved]
  exact .onBoard boardId hon

end ProvisionedAs

inductive Planned (casing : LetterCase) (s : AgentDb) : AgentRequest → List AgentWrite → Prop
  | nothing {request : AgentRequest} : Planned casing s request []
  | created {agentId : Uuid} {actor : AgentActor} {payload : AgentCreate} {reached : Bool}
      (board : BoardRow) (gateway : OrgGateway) (place : GatewayOf s board gateway)
      (on : createdBoardId s payload actor = some board.id)
      (lead : ∀ leadId, actor = .agent leadId → (s.agents.get? leadId).any (·.isBoardLead) = true)
      (limit : enforceBoardSpawnLimitForLead s board actor = .ok ())
      (unique : ensureUniqueAgentName casing s board gateway (strip payload.name) = .ok ()) :
      Planned casing s (.createAgent agentId actor payload reached)
        (newAgentWrites (persistedWorker agentId board gateway payload.name) board gateway reached)
  | heartbeatCreated {agentId : Uuid} {member : OrganizationMember} {payload : AgentHeartbeatCreate} {reached : Bool}
      (board : BoardRow) (gateway : OrgGateway) (place : GatewayOf s board gateway)
      (given : payload.boardId = some board.id) (unknown : heartbeatLookup s payload = none) :
      Planned casing s (.heartbeatOrCreateAgent agentId (.user member) payload reached)
        (newAgentWrites (persistedWorker agentId board gateway payload.name) board gateway reached)
  | reprovisioned {agentId : Uuid} {member : OrganizationMember} {payload : AgentHeartbeatCreate} {reached : Bool}
      {writes : List AgentWrite} (agent : PlacedAgent) (found : s.agents.get? agent.id = some agent)
      (updates : Updates (ProvisionedAs agent) agent writes) :
      Planned casing s (.heartbeatOrCreateAgent agentId (.user member) payload reached) writes
  | patched {agentId : Uuid} {member : OrganizationMember} {payload : AgentUpdate} {force reached : Bool}
      {writes : List AgentWrite} (agent mutated : PlacedAgent) (found : s.agents.get? agentId = some agent)
      (access : requireAgentAccess s agent member true = .ok ())
      (valid : validateAgentUpdateInputs s member payload = .ok ()) (named : payload.name ≠ some none)
      (mutation : AgentMutated s agent payload mutated) (updates : Updates (ProvisionedAs mutated) agent writes) :
      Planned casing s (.updateAgent agentId member payload force reached) writes
  | leadFound {boardId agentId : Uuid} {agentName : Option String} {reached : Bool} (board : BoardRow)
      (gateway : OrgGateway) (place : GatewayOf s board gateway) (id : boardId = board.id) (agent : PlacedAgent)
      (found : (s.leads board.id).head? = some agent) :
      Planned casing s (.ensureBoardLeadAgent boardId agentId agentName reached)
        [.update agent { agent with
          name := desiredLeadName agentName, gatewayId := gateway.id
          openclawSessionId := some (boardLeadSessionKey board.id) }]
  | leadCreated {boardId agentId : Uuid} {agentName : Option String} {reached : Bool} (board : BoardRow)
      (gateway : OrgGateway) (place : GatewayOf s board gateway) (id : boardId = board.id)
      (leaderless : s.leads board.id = []) :
      Planned casing s (.ensureBoardLeadAgent boardId agentId agentName reached)
        (newAgentWrites (newLead agentId board gateway (desiredLeadName agentName)) board gateway reached)
  | mainCreated {gatewayId agentId : Uuid} {mainAgentName : String} (gateway : OrgGateway)
      (found : s.gateways.get? gateway.id = some gateway) :
      Planned casing s (.upsertMainAgentRecord gatewayId agentId mainAgentName)
        [.insert (newMainAgent agentId gateway mainAgentName)]
  | mainFound {gatewayId agentId : Uuid} {mainAgentName : String} (gateway : OrgGateway)
      (found : s.gateways.get? gateway.id = some gateway) (agent : PlacedAgent) (mem : agent ∈ s.agents)
      (onGateway : agent.gatewayId = gateway.id) (main : agent.boardId = none) :
      Planned casing s (.upsertMainAgentRecord gatewayId agentId mainAgentName)
        [.update agent { agent with
          isBoardLead := false, name := mainAgentName, openclawSessionId := some (gatewaySessionKey gateway.id) }]
  | deleted {request : AgentRequest} (agentId : Uuid) : Planned casing s request [.delete agentId]
  | boardUpdated {boardId userId : Uuid} {payload : BoardUpdate} (board : BoardRow) (gatewayId : Uuid)
      (maxAgents : Int) (found : s.boards.get? boardId = some board)
      (access : requireBoardAccess s.access userId board.toBoard true = .ok ())
      (given : payload.gatewayId.or board.gatewayId = some gatewayId)
      (ready : ∃ gateway, requireOrgGateway s gatewayId board.organizationId = .ok gateway)
      (bounded : payload.maxAgents ≠ some none) :
      Planned casing s (.updateBoard boardId userId payload)
        [.updateBoard board { board with gatewayId := some gatewayId, maxAgents }]

/-! ## Every request is planned -/

theorem createAgent_eq_ok {payload : AgentCreate} (h : createAgent casing s agentId actor payload reached = .ok writes) :
    ∃ board gateway, createdBoardId s payload actor = some board.id ∧ GatewayOf s board gateway ∧
      (∀ leadId, actor = .agent leadId → (s.agents.get? leadId).any (·.isBoardLead) = true) ∧
      enforceBoardSpawnLimitForLead s board actor = .ok () ∧
      ensureUniqueAgentName casing s board gateway (strip payload.name) = .ok () ∧
      writes = newAgentWrites (persistedWorker agentId board gateway payload.name) board gateway reached := by
  unfold createAgent at h
  obtain ⟨coerced, hcoerced, h⟩ := bind_eq_ok.mp h
  obtain ⟨board, hboard, h⟩ := bind_eq_ok.mp h
  obtain ⟨_, hlimit, h⟩ := bind_eq_ok.mp h
  obtain ⟨gateway, hgateway, h⟩ := bind_eq_ok.mp h
  obtain ⟨_, hunique, h⟩ := bind_eq_ok.mp h
  obtain ⟨hon, hfound⟩ := requireBoard_eq_ok hboard
  obtain ⟨hname, hboardId, hlead⟩ := coerceAgentCreatePayload_eq_ok hcoerced
  rw [hname, persistNewAgent_eq] at h
  rw [hname] at hunique
  exact ⟨board, gateway, hboardId.symm.trans hon, requireGateway_eq_ok hfound hgateway, hlead, hlimit, hunique,
    (pure_eq_ok.mp h).symm⟩

theorem persistedWorker_key (agentId : Uuid) (board : BoardRow) (gateway : OrgGateway) (name : String) :
    (persistedWorker agentId board gateway name).openclawSessionId =
      some (runSessionKey (persistedWorker agentId board gateway name) (.board board gateway)) := rfl

theorem newLead_key (agentId : Uuid) (board : BoardRow) (gateway : OrgGateway) (name : String) :
    (newLead agentId board gateway name).openclawSessionId =
      some (runSessionKey (newLead agentId board gateway name) (.board board gateway)) := rfl

theorem createAgentFromHeartbeat_eq_ok {payload : AgentHeartbeatCreate}
    (h : createAgentFromHeartbeat s agentId member payload reached = .ok writes) :
    ∃ board gateway, GatewayOf s board gateway ∧ payload.boardId = some board.id ∧
      writes = newAgentWrites (persistedWorker agentId board gateway payload.name) board gateway reached := by
  unfold createAgentFromHeartbeat at h
  obtain ⟨_, -, h⟩ := bind_eq_ok.mp h
  obtain ⟨board, hboard, h⟩ := bind_eq_ok.mp h
  obtain ⟨gateway, hgateway, h⟩ := bind_eq_ok.mp h
  rw [persistNewAgent_eq] at h
  obtain ⟨hon, hfound⟩ := requireBoard_eq_ok hboard
  exact ⟨board, gateway, requireGateway_eq_ok hfound hgateway, hon, (pure_eq_ok.mp h).symm⟩

theorem updates_of_handled {last : Option PlacedAgent}
    (h : handleExistingUserHeartbeatAgent s agent member reached = .ok (writes, last)) :
    Updates (ProvisionedAs agent) agent writes ∧ ∀ row, last = some row → ProvisionedAs agent row ∧
      ∀ rest, Updates (ProvisionedAs agent) row rest → Updates (ProvisionedAs agent) agent (writes ++ rest) := by
  unfold handleExistingUserHeartbeatAgent at h
  obtain ⟨_, -, h⟩ := bind_eq_ok.mp h
  dsimp only at h
  split at h
  · cases pure_eq_ok.mp h
    refine ⟨trivial, fun row hrow => ?_⟩
    cases hrow
    exact ⟨.refl agent, fun rest hrest => hrest⟩
  · split at h
    · cases pure_eq_ok.mp h
      exact ⟨⟨rfl, ⟨rfl, rfl⟩, .minted agent, trivial⟩, fun row hrow => nomatch hrow⟩
    · rename_i target htarget
      cases pure_eq_ok.mp h
      obtain ⟨board, hboard, htarget⟩ := bind_eq_ok.mp htarget
      obtain ⟨gateway, -, htarget⟩ := bind_eq_ok.mp htarget
      obtain rfl := pure_eq_ok.mp htarget
      have hfits : UpdateTarget.Fits agent (.board board gateway) := (requireBoard_eq_ok hboard).1
      have hrow := ProvisionedAs.provisioned hfits reached
      refine ⟨⟨rfl, ⟨rfl, rfl⟩, .minted agent, rfl, hrow.rewrites, hrow, trivial⟩, fun row hlast => ?_⟩
      cases reached with
      | false => cases hlast
      | true =>
        cases hlast
        exact ⟨hrow, fun rest hrest => ⟨rfl, ⟨rfl, rfl⟩, .minted agent, rfl, hrow.rewrites, hrow, hrest⟩⟩

theorem updates_of_ensured {row : PlacedAgent} (hrow : ProvisionedAs agent row)
    (h : ensureHeartbeatSessionKey row = .ok writes) : Updates (ProvisionedAs agent) row writes := by
  unfold ensureHeartbeatSessionKey at h
  split at h
  · cases h
    trivial
  · rename_i boardId hon
    obtain ⟨desired, hdesired, h⟩ := bind_eq_ok.mp h
    split at h
    · cases pure_eq_ok.mp h
      trivial
    · cases pure_eq_ok.mp h
      exact ⟨rfl, ⟨rfl, rfl⟩, hrow.resolved hon hdesired, trivial⟩

theorem fits_of_resolved {mutation : AgentMutation} {target : UpdateTarget}
    (hmutated : AgentMutated s agent payload mutation.agent)
    (h : resolveAgentUpdateTarget s mutation payload = .ok target) : target.Fits mutation.agent := by
  unfold resolveAgentUpdateTarget at h
  split at h
  · rename_i hrequested
    obtain ⟨gateway, -, h⟩ := bind_eq_ok.mp h
    obtain rfl := pure_eq_ok.mp h
    show mutation.agent.boardId = none
    generalize mutation.agent = new at hmutated
    cases hmutated <;> simp_all
  · rename_i hmain _
    cases h
    exact hmain
  · cases h
  · rename_i boardId _ hon _
    obtain ⟨board, hboard, h⟩ := bind_eq_ok.mp h
    obtain ⟨gateway, -, h⟩ := bind_eq_ok.mp h
    obtain rfl := pure_eq_ok.mp h
    exact hon.trans (requireBoard_eq_ok hboard).1

theorem updates_of_patched {force : Bool} (h : updatePlacedAgent s agentId member payload force reached = .ok writes) :
    writes = [] ∨ ∃ agent mutated, s.agents.get? agentId = some agent ∧
      requireAgentAccess s agent member true = .ok () ∧ validateAgentUpdateInputs s member payload = .ok () ∧
      payload.name ≠ some none ∧ AgentMutated s agent payload mutated ∧
      Updates (ProvisionedAs mutated) agent writes := by
  unfold updatePlacedAgent at h
  obtain ⟨agent, hfound, h⟩ := bind_eq_ok.mp h
  obtain ⟨_, haccess, h⟩ := bind_eq_ok.mp h
  obtain ⟨_, hvalid, h⟩ := bind_eq_ok.mp h
  rw [orFail_eq_ok] at hfound
  dsimp only at h
  split at h
  · exact .inl (pure_eq_ok.mp h).symm
  · right
    obtain ⟨mutation, hmutation, h⟩ := bind_eq_ok.mp h
    obtain ⟨hnamed, hmutated⟩ := mutated_of_ok hmutation
    have hrewrites : mutation.agent.Rewrites agent := by
      generalize mutation.agent = new at hmutated
      cases hmutated <;> exact ⟨rfl, rfl⟩
    refine ⟨agent, mutation.agent, hfound, haccess, hvalid, hnamed, hmutated, ?_⟩
    split at h
    · cases pure_eq_ok.mp h
      exact ⟨rfl, hrewrites, .refl _, trivial⟩
    · rename_i target htarget
      cases pure_eq_ok.mp h
      have hrow := ProvisionedAs.provisioned (fits_of_resolved hmutated htarget) reached
      exact ⟨rfl, hrewrites, .refl _, rfl, ⟨rfl, rfl⟩, .minted _, rfl, hrow.rewrites, hrow, trivial⟩

theorem planned_of_heartbeat {payload : AgentHeartbeatCreate}
    (h : heartbeatOrCreateAgent s agentId payload reached actor = .ok writes) :
    Planned casing s (.heartbeatOrCreateAgent agentId actor payload reached) writes := by
  unfold heartbeatOrCreateAgent at h
  split at h
  · obtain ⟨_, -, h⟩ := bind_eq_ok.mp h
    cases pure_eq_ok.mp h
    exact .nothing
  · split at h
    · rename_i hunknown
      obtain ⟨board, gateway, place, hgiven, rfl⟩ := createAgentFromHeartbeat_eq_ok h
      exact .heartbeatCreated board gateway place hgiven hunknown
    · rename_i agent hknown
      refine .reprovisioned agent (Table.get?_key (List.mem_of_find?_eq_some hknown)) ?_
      obtain ⟨⟨first, last⟩, hhandled, h⟩ := bind_eq_ok.mp h
      obtain ⟨hfirst, hlast⟩ := updates_of_handled hhandled
      split at h
      · rename_i heq
        cases heq
        cases pure_eq_ok.mp h
        exact hfirst
      · rename_i row heq
        cases heq
        obtain ⟨ensured, hensured, h⟩ := bind_eq_ok.mp h
        cases pure_eq_ok.mp h
        obtain ⟨hrow, happend⟩ := hlast row rfl
        exact happend _ (updates_of_ensured hrow hensured)

theorem planned_of_updateBoard {boardId userId : Uuid} {payload : BoardUpdate}
    (h : updateBoard s boardId userId payload = .ok writes) :
    Planned casing s (.updateBoard boardId userId payload) writes := by
  unfold updateBoard at h
  obtain ⟨board, hboard, h⟩ := bind_eq_ok.mp h
  obtain ⟨_, haccess, h⟩ := bind_eq_ok.mp h
  obtain ⟨gatewayId, hgiven, h⟩ := bind_eq_ok.mp h
  obtain ⟨gateway, hready, h⟩ := bind_eq_ok.mp h
  rw [orFail_eq_ok] at hboard hgiven
  split at h
  · rename_i hnone
    cases pure_eq_ok.mp h
    exact .boardUpdated board gatewayId _ hboard haccess hgiven ⟨gateway, hready⟩ (by simp [hnone])
  · rename_i given hsome
    obtain ⟨maxAgents, hmax, h⟩ := bind_eq_ok.mp h
    cases pure_eq_ok.mp h
    rw [orFail_eq_ok] at hmax
    exact .boardUpdated board gatewayId _ hboard haccess hgiven ⟨gateway, hready⟩ (by simp [hsome, hmax])

/-- **What a request plans**, from the rows it read. -/
theorem planned_of_ok {request : AgentRequest} (h : checkAgentRequest casing s request = .ok writes) :
    Planned casing s request writes := by
  cases request with
  | createAgent agentId actor payload reached =>
    obtain ⟨board, gateway, hon, place, hlead, hlimit, hunique, rfl⟩ := createAgent_eq_ok h
    exact .created board gateway place hon hlead hlimit hunique
  | heartbeatOrCreateAgent agentId actor payload reached => exact planned_of_heartbeat h
  | updateAgent agentId member payload force reached =>
    rcases updates_of_patched h with rfl | ⟨agent, mutated, hfound, haccess, hvalid, hnamed, hmutated, hupdates⟩
    · exact .nothing
    · exact .patched agent mutated hfound haccess hvalid hnamed hmutated hupdates
  | ensureBoardLeadAgent boardId agentId agentName reached =>
    obtain ⟨⟨board, gateway⟩, hboard, h⟩ := bind_eq_ok.mp h
    obtain ⟨hid, place⟩ := boardWithGateway_eq_ok hboard
    cases pure_eq_ok.mp h
    unfold ensureBoardLeadAgent
    dsimp only
    split
    · rename_i existing hlead
      split
      · exact .nothing
      · exact .leadFound board gateway place hid existing hlead
    · rename_i hlead
      exact .leadCreated board gateway place hid (List.head?_eq_none_iff.mp hlead)
  | upsertMainAgentRecord gatewayId agentId mainAgentName =>
    obtain ⟨gateway, hgateway, h⟩ := bind_eq_ok.mp h
    rw [orFail_eq_ok] at hgateway
    have hgateway : s.gateways.get? gateway.id = some gateway := Table.get?_key (Table.mem_of_get? hgateway)
    split at h
    · cases pure_eq_ok.mp h
      exact .mainCreated gateway hgateway
    · rename_i agent hfind
      cases pure_eq_ok.mp h
      obtain ⟨honGateway, hmain⟩ : agent.gatewayId = gateway.id ∧ agent.boardId = none := by
        simpa using List.find?_some hfind
      exact .mainFound gateway hgateway agent (List.mem_of_find?_eq_some hfind) honGateway hmain
  | deleteAgent agentId member =>
    simp only [checkAgentRequest, deleteAgent] at h
    split at h
    · cases h
      exact .nothing
    · rename_i agent _
      obtain ⟨_, -, h⟩ := bind_eq_ok.mp h
      cases pure_eq_ok.mp h
      exact .deleted agent.id
  | deleteAgentAsLead agentId leadId =>
    simp only [checkAgentRequest, deleteAgentAsLead] at h
    obtain ⟨_, -, h⟩ := bind_eq_ok.mp h
    obtain ⟨_, -, h⟩ := bind_eq_ok.mp h
    obtain ⟨_, -, h⟩ := bind_eq_ok.mp h
    split at h
    · cases pure_eq_ok.mp h
      exact .nothing
    · rename_i agent _
      obtain ⟨_, -, h⟩ := bind_eq_ok.mp h
      obtain ⟨_, -, h⟩ := bind_eq_ok.mp h
      obtain ⟨_, -, h⟩ := bind_eq_ok.mp h
      obtain ⟨_, -, h⟩ := bind_eq_ok.mp h
      cases pure_eq_ok.mp h
      exact .deleted agent.id
  | updateBoard boardId userId payload => exact planned_of_updateBoard h

/-! ## What a request leaves -/

inductive AgentOutcome (casing : LetterCase) (s : AgentDb) : AgentRequest → AgentDb → Prop
  | created {agentId : Uuid} {actor : AgentActor} {payload : AgentCreate} {reached : Bool} {t : AgentDb}
      (board : BoardRow) (gateway : OrgGateway) (place : GatewayOf s board gateway)
      (on : createdBoardId s payload actor = some board.id)
      (unique : ensureUniqueAgentName casing s board gateway (strip payload.name) = .ok ())
      (fresh : s.agents.get? agentId = none) (wrote : Wrote s (persistedWorker agentId board gateway payload.name) t) :
      AgentOutcome casing s (.createAgent agentId actor payload reached) t
  | heartbeatCreated {agentId : Uuid} {member : OrganizationMember} {payload : AgentHeartbeatCreate} {reached : Bool}
      {t : AgentDb} (board : BoardRow) (gateway : OrgGateway) (place : GatewayOf s board gateway)
      (given : payload.boardId = some board.id) (unknown : heartbeatLookup s payload = none)
      (fresh : s.agents.get? agentId = none) (wrote : Wrote s (persistedWorker agentId board gateway payload.name) t) :
      AgentOutcome casing s (.heartbeatOrCreateAgent agentId (.user member) payload reached) t
  | reprovisioned {agentId : Uuid} {member : OrganizationMember} {payload : AgentHeartbeatCreate} {reached : Bool}
      {t : AgentDb} (agent row : PlacedAgent) (found : s.agents.get? agent.id = some agent)
      (kept : ProvisionedAs agent row) (wrote : Wrote s row t) :
      AgentOutcome casing s (.heartbeatOrCreateAgent agentId (.user member) payload reached) t
  | patched {agentId : Uuid} {member : OrganizationMember} {payload : AgentUpdate} {force reached : Bool} {t : AgentDb}
      (agent mutated row : PlacedAgent) (found : s.agents.get? agentId = some agent)
      (access : requireAgentAccess s agent member true = .ok ())
      (valid : validateAgentUpdateInputs s member payload = .ok ()) (named : payload.name ≠ some none)
      (mutation : AgentMutated s agent payload mutated) (kept : ProvisionedAs mutated row) (wrote : Wrote s row t) :
      AgentOutcome casing s (.updateAgent agentId member payload force reached) t
  | leadFound {boardId agentId : Uuid} {agentName : Option String} {reached : Bool} {t : AgentDb}
      (board : BoardRow) (gateway : OrgGateway) (place : GatewayOf s board gateway) (id : boardId = board.id)
      (agent : PlacedAgent) (found : (s.leads board.id).head? = some agent)
      (wrote : Wrote s { agent with
        name := desiredLeadName agentName, gatewayId := gateway.id
        openclawSessionId := some (boardLeadSessionKey board.id) } t) :
      AgentOutcome casing s (.ensureBoardLeadAgent boardId agentId agentName reached) t
  | leadCreated {boardId agentId : Uuid} {agentName : Option String} {reached : Bool} {t : AgentDb}
      (board : BoardRow) (gateway : OrgGateway) (place : GatewayOf s board gateway) (id : boardId = board.id)
      (leaderless : s.leads board.id = []) (fresh : s.agents.get? agentId = none)
      (wrote : Wrote s (newLead agentId board gateway (desiredLeadName agentName)) t) :
      AgentOutcome casing s (.ensureBoardLeadAgent boardId agentId agentName reached) t
  | mainCreated {gatewayId agentId : Uuid} {mainAgentName : String} {t : AgentDb} (gateway : OrgGateway)
      (found : s.gateways.get? gateway.id = some gateway)
      (fresh : s.agents.get? agentId = none) (wrote : Wrote s (newMainAgent agentId gateway mainAgentName) t) :
      AgentOutcome casing s (.upsertMainAgentRecord gatewayId agentId mainAgentName) t
  | mainFound {gatewayId agentId : Uuid} {mainAgentName : String} {t : AgentDb} (gateway : OrgGateway)
      (found : s.gateways.get? gateway.id = some gateway) (agent : PlacedAgent) (mem : agent ∈ s.agents)
      (onGateway : agent.gatewayId = gateway.id) (main : agent.boardId = none)
      (wrote : Wrote s { agent with
        isBoardLead := false, name := mainAgentName, openclawSessionId := some (gatewaySessionKey gateway.id) } t) :
      AgentOutcome casing s (.upsertMainAgentRecord gatewayId agentId mainAgentName) t
  | deleted {request : AgentRequest} {agentId : Uuid} :
      AgentOutcome casing s request { s with agents := s.agents.deleteWhere fun a => a.id = agentId }
  | boardUpdated {boardId userId : Uuid} {payload : BoardUpdate} (board : BoardRow) (gatewayId : Uuid)
      (maxAgents : Int) (found : s.boards.get? boardId = some board)
      (access : requireBoardAccess s.access userId board.toBoard true = .ok ())
      (given : payload.gatewayId.or board.gatewayId = some gatewayId)
      (ready : ∃ gateway, requireOrgGateway s gatewayId board.organizationId = .ok gateway)
      (bounded : payload.maxAgents ≠ some none) :
      AgentOutcome casing s (.updateBoard boardId userId payload)
        { s with boards := s.boards.put { board with gatewayId := some gatewayId, maxAgents } }

theorem wrote_of_update {row : PlacedAgent} (hfound : s.agents.get? agent.id = some agent) (hrow : row.Rewrites agent)
    (ht : t ∈ commitWrites s [.update agent row]) : Wrote s row t := by
  rcases mem_commitWrites_update hfound hrow ht with hwrote | ⟨u, -, ht⟩
  · exact hwrote
  · cases ht

theorem wrote_of_insert (ht : t ∈ commitWrites s [.insert agent]) :
    s.agents.get? agent.id = none ∧ Wrote s agent t := by
  rw [commitWrites] at ht
  split at ht
  · cases ht
  · rename_i u happly
    obtain rfl : t = u := List.mem_singleton.mp ht
    obtain ⟨agents, hinsert, rfl⟩ : ∃ agents, s.agents.insert? agent = some agents ∧ { s with agents } = t := by
      simpa only [AgentWrite.apply, bind_eq_ok, orFail_eq_ok, pure_eq_ok] using happly
    exact ⟨(Table.insert?_eq_some hinsert).2, rfl, rfl, fun id => Table.get?_insert? hinsert id⟩

/-- **What a request leaves**: every commit of a request alone is one of its outcomes. -/
theorem outcome_of_mem {request : AgentRequest} (ht : t ∈ respondAgents casing s request) :
    AgentOutcome casing s request t := by
  unfold respondAgents at ht
  split at ht
  · cases ht
  · rename_i writes h
    cases planned_of_ok h with
    | nothing => cases ht
    | @created agentId actor payload reached board gateway place on lead limit unique =>
      obtain ⟨hfresh, hwrote⟩ := wrote_newAgent (persistedWorker_key agentId board gateway payload.name) ht
      exact .created board gateway place on unique hfresh hwrote
    | @heartbeatCreated agentId member payload reached board gateway place given unknown =>
      obtain ⟨hfresh, hwrote⟩ := wrote_newAgent (persistedWorker_key agentId board gateway payload.name) ht
      exact .heartbeatCreated board gateway place given unknown hfresh hwrote
    | reprovisioned agent found updates =>
      obtain ⟨row, -, hrow, hwrote⟩ := wrote_of_updates found updates ht
      exact .reprovisioned agent row found hrow hwrote
    | patched agent mutated found access valid named mutation updates =>
      have hagent : s.agents.get? agent.id = some agent := Table.get?_key (Table.mem_of_get? found)
      obtain ⟨row, -, hrow, hwrote⟩ := wrote_of_updates hagent updates ht
      exact .patched agent mutated row found access valid named mutation hrow hwrote
    | leadFound board gateway place id agent found =>
      have hagent : s.agents.get? agent.id = some agent :=
        Table.get?_key (List.mem_filter.mp (List.mem_filter.mp (List.mem_of_mem_head? found)).1).1
      exact .leadFound board gateway place id agent found (wrote_of_update hagent ⟨rfl, rfl⟩ ht)
    | @leadCreated boardId agentId agentName reached board gateway place id leaderless =>
      obtain ⟨hfresh, hwrote⟩ := wrote_newAgent (newLead_key agentId board gateway (desiredLeadName agentName)) ht
      exact .leadCreated board gateway place id leaderless hfresh hwrote
    | mainCreated gateway found =>
      obtain ⟨hfresh, hwrote⟩ := wrote_of_insert ht
      exact .mainCreated gateway found hfresh hwrote
    | mainFound gateway found agent mem onGateway main =>
      exact .mainFound gateway found agent mem onGateway main (wrote_of_update (Table.get?_key mem) ⟨rfl, rfl⟩ ht)
    | deleted agentId =>
      rw [commitWrites] at ht
      obtain rfl : t = _ := List.mem_singleton.mp ht
      exact .deleted
    | boardUpdated board gatewayId maxAgents found access given ready bounded =>
      have hfound : s.boards.get? board.id = some board := Table.get?_key (Table.mem_of_get? found)
      rw [commitWrites] at ht
      split at ht
      · cases ht
      · rename_i u happly
        obtain rfl : t = u := List.mem_singleton.mp ht
        obtain ⟨current, hcurrent, rfl⟩ : ∃ current, s.boards.get? board.id = some current ∧ _ = t := by
          simpa only [AgentWrite.apply, bind_eq_ok, orFail_eq_ok, pure_eq_ok] using happly
        obtain rfl := Option.some.inj (hfound.symm.trans hcurrent)
        simp only [BoardRow.writtenOver, writtenColumn_self]
        exact .boardUpdated board gatewayId maxAgents found access given ready bounded

end SiloForge
