import SiloForge.Agents.Outcomes
import SiloForge.Tenancy.AgentApi

/-!
# Agents without those of other organizations

A request about the agents of a board reads the board, its agents, its gateway and the agents on the boards of that
gateway. All of them are of the board's organization.

* `AgentDb.without` : what requests about agents see of `TenantDb.without`; `placement_without`;
* `Others.FitsPlacement` : agents and gateways are others' as their boards are;
* `createAgent_without`, `ensureBoardLeadAgent_without`, `deleteAgentAsLead_without` : the requests.
-/

namespace SiloForge

open Lib

/-! ## The rows -/

def AgentDb.without (s : AgentDb) (others : Others) : AgentDb where
  members := s.members.deleteWhere fun m => m.organizationId ≠ others.organizationId
  boardAccess := s.boardAccess.deleteWhere fun a => others.board a.boardId
  gateways := s.gateways.deleteWhere fun g => g.organizationId ≠ others.organizationId
  boards := s.boards.deleteWhere fun b => b.organizationId ≠ others.organizationId
  agents := s.agents.deleteWhere fun a => others.agent a.id

theorem db_without (s : TenantDb) (o : Others) : (s.without o).db = s.db.without o := by
  have hboards : ((s.without o).boards.view BoardRow.toBoard fun _ => rfl) =
      (s.boards.view BoardRow.toBoard fun _ => rfl).deleteWhere fun b => b.organizationId ≠ o.organizationId :=
    Table.view_part fun b : Board => b.organizationId ≠ o.organizationId
  have hagents : ((s.without o).agents.view (fun a => a.toAgent) fun _ => rfl) =
      (s.agents.view (fun a => a.toAgent) fun _ => rfl).deleteWhere fun a => o.agent a.id :=
    Table.view_part fun a : Agent => o.agent a.id
  unfold TenantDb.db
  rw [hboards, hagents]
  rfl

theorem placement_without (s : TenantDb) (o : Others) : (s.without o).placement = s.placement.without o := by
  have hagents : ((s.without o).agents.view TenantAgent.toPlacedAgent fun _ => rfl) =
      (s.agents.view TenantAgent.toPlacedAgent fun _ => rfl).deleteWhere fun a => o.agent a.id :=
    Table.view_part fun a : PlacedAgent => o.agent a.id
  unfold TenantDb.placement
  rw [hagents]
  rfl

/-- The agents of a board are others' as the board is, and a board and its gateway are of one organization. -/
structure Others.FitsPlacement (o : Others) (s : AgentDb) : Prop where
  boards : ∀ b ∈ s.boards, o.board b.id = decide (b.organizationId ≠ o.organizationId)
  agents : ∀ a ∈ s.agents, ∀ boardId, a.boardId = some boardId → o.agent a.id = o.board boardId
  gateways : ∀ b ∈ s.boards, ∀ g ∈ s.gateways, b.gatewayId = some g.id → g.organizationId = b.organizationId

variable {agentId : Uuid}

namespace AgentDb

variable {o : Others} {s : AgentDb}

/-! ## Looking up -/

theorem agents_get?_without (hagent : o.agent agentId = false) :
    (s.without o).agents.get? agentId = s.agents.get? agentId := by
  apply Table.get?_part
  rintro a _ rfl
  exact hagent

section Board
variable (hfits : o.FitsPlacement s)
include hfits

variable {boardId : Uuid}

theorem boards_get?_without (hboard : o.board boardId = false) :
    (s.without o).boards.get? boardId = s.boards.get? boardId := by
  apply Table.get?_part
  rintro b hb rfl
  exact (hfits.boards b hb).symm.trans hboard

theorem organizationId_of_boards_get? (hboard : o.board boardId = false) {board : BoardRow}
    (h : s.boards.get? boardId = some board) : board.organizationId = o.organizationId := by
  have hforeign := hfits.boards board (Table.mem_of_get? h)
  rw [show board.id = boardId from Table.key_of_get? h, hboard] at hforeign
  simpa using hforeign.symm

theorem requireBoard_without {boardId : Option Uuid} (hboard : ∀ id ∈ boardId, o.board id = false) :
    requireBoard (s.without o) boardId none false = requireBoard s boardId none false := by
  cases boardId with
  | none => rfl
  | some id =>
    unfold requireBoard
    apply bind_congr_ok rfl
    intro id' hid
    obtain rfl := Except.ok.inj hid
    rw [boards_get?_without hfits (hboard id rfl)]

theorem onBoard_without (hboard : o.board boardId = false) : (s.without o).onBoard boardId = s.onBoard boardId := by
  apply Table.filter_part
  intro a ha hsel
  rw [hfits.agents a ha boardId (of_decide_eq_true hsel), hboard]

theorem leads_without (hboard : o.board boardId = false) : (s.without o).leads boardId = s.leads boardId := by
  unfold leads
  rw [onBoard_without hfits hboard]

end Board

theorem getGatewayForBoard_without {board : BoardRow} (horg : board.organizationId = o.organizationId) :
    getGatewayForBoard (s.without o) board = getGatewayForBoard s board := by
  unfold getGatewayForBoard
  cases board.gatewayId with
  | none => rfl
  | some gatewayId =>
    show ((s.gateways.deleteWhere _).get? gatewayId).filter _ = (s.gateways.get? gatewayId).filter _
    rw [Table.get?_deleteWhere, Option.filter_filter]
    congr 1
    funext g
    by_cases hown : g.organizationId = board.organizationId
    · simp [hown, horg]
    · simp [hown]

theorem requireGateway_without {board : BoardRow} (horg : board.organizationId = o.organizationId) :
    requireGateway (s.without o) board = requireGateway s board := by
  unfold requireGateway
  rw [getGatewayForBoard_without horg]

theorem onGatewayBoards_without (hfits : o.FitsPlacement s) {gateway : OrgGateway} (hgateway : gateway ∈ s.gateways)
    (horg : gateway.organizationId = o.organizationId) :
    (s.without o).onGatewayBoards gateway.id = s.onGatewayBoards gateway.id := by
  have hown : ∀ boardId board, s.boards.get? boardId = some board → board.gatewayId = some gateway.id →
      o.board boardId = false := by
    intro boardId board hget hhas
    have hmem := Table.mem_of_get? hget
    obtain rfl : board.id = boardId := Table.key_of_get? hget
    rw [hfits.boards board hmem, ← hfits.gateways board hmem gateway hgateway hhas, horg]
    simp
  have hselected : ∀ boardId : Uuid, ((s.without o).boards.get? boardId).any (fun b => b.gatewayId = some gateway.id) =
      (s.boards.get? boardId).any fun b => b.gatewayId = some gateway.id := by
    intro boardId
    by_cases hboard : o.board boardId = false
    · rw [boards_get?_without hfits hboard]
    · cases hget : s.boards.get? boardId with
      | none =>
        show ((s.boards.deleteWhere _).get? boardId).any _ = _
        rw [Table.get?_deleteWhere, hget]
        rfl
      | some board =>
        have hnot : board.gatewayId ≠ some gateway.id := fun hhas => hboard (hown boardId board hget hhas)
        show ((s.boards.deleteWhere _).get? boardId).any _ = _
        rw [Table.get?_deleteWhere, hget, Option.filter_some]
        split <;> simp [hnot]
  unfold onGatewayBoards
  simp only [hselected]
  apply Table.filter_part
  intro a ha hsel
  obtain ⟨boardId, hon, hhas⟩ := (Option.any_eq_true _ _).mp hsel
  obtain ⟨board, hget, hhas⟩ := (Option.any_eq_true _ _).mp hhas
  rw [hfits.agents a ha boardId hon]
  exact hown boardId board hget (of_decide_eq_true hhas)

/-! ## Requests -/

section Requests
variable (hfits : o.FitsPlacement s)
include hfits

theorem board_of_agent {boardId : Uuid} (hagent : o.agent agentId = false) {agent : PlacedAgent}
    (hget : s.agents.get? agentId = some agent) (hon : agent.boardId = some boardId) : o.board boardId = false := by
  have howner := hfits.agents agent (Table.mem_of_get? hget) boardId hon
  rw [show agent.id = agentId from Table.key_of_get? hget, hagent] at howner
  exact howner.symm

variable {board : BoardRow}

theorem enforceBoardSpawnLimitForLead_without (hboard : o.board board.id = false)
    (hagent : o.agent agentId = false) : enforceBoardSpawnLimitForLead (s.without o) board (.agent agentId) =
      enforceBoardSpawnLimitForLead s board (.agent agentId) := by
  unfold enforceBoardSpawnLimitForLead countNonLeadAgentsForBoard
  dsimp only
  rw [agents_get?_without hagent, onBoard_without hfits hboard]

theorem ensureUniqueAgentName_without (casing : LetterCase) (hboard : o.board board.id = false) {gateway : OrgGateway}
    (hgateway : gateway ∈ s.gateways) (horg : gateway.organizationId = o.organizationId) (requestedName : String) :
    ensureUniqueAgentName casing (s.without o) board gateway requestedName =
      ensureUniqueAgentName casing s board gateway requestedName := by
  unfold ensureUniqueAgentName
  rw [onBoard_without hfits hboard, onGatewayBoards_without hfits hgateway horg]

theorem createAgent_without (casing : LetterCase) {actorId : Uuid} (hactor : o.agent actorId = false) (agentId : Uuid)
    (payload : AgentCreate) (reached : Bool) :
    createAgent casing (s.without o) agentId (.agent actorId) payload reached =
      createAgent casing s agentId (.agent actorId) payload reached := by
  unfold createAgent
  have hcoerce : coerceAgentCreatePayload (s.without o) payload (.agent actorId) =
      coerceAgentCreatePayload s payload (.agent actorId) := by
    unfold coerceAgentCreatePayload
    dsimp only
    rw [agents_get?_without hactor]
  apply bind_congr_ok hcoerce
  intro coerced hcoerced
  obtain ⟨-, hcoercedBoard, -⟩ := coerceAgentCreatePayload_eq_ok hcoerced
  have hboards : ∀ id ∈ coerced.boardId, o.board id = false := by
    intro id hid
    obtain ⟨lead, hlead, hon⟩ := Option.bind_eq_some_iff.mp (hcoercedBoard.symm.trans hid)
    exact board_of_agent hfits hactor hlead hon
  apply bind_congr_ok (requireBoard_without hfits hboards)
  intro board hrequired
  obtain ⟨hid, hget⟩ := requireBoard_eq_ok hrequired
  have hboard : o.board board.id = false := hboards board.id hid
  have horg := organizationId_of_boards_get? hfits hboard hget
  apply bind_congr_ok (enforceBoardSpawnLimitForLead_without hfits hboard hactor)
  intro _ _
  apply bind_congr_ok (requireGateway_without horg)
  intro gateway hgateway
  obtain ⟨-, hhas, hgatewayGet⟩ := requireGateway_eq_ok hget hgateway
  have hmem := Table.mem_of_get? hgatewayGet
  have hown : gateway.organizationId = board.organizationId :=
    hfits.gateways board (Table.mem_of_get? hget) gateway hmem hhas
  apply bind_congr_ok (ensureUniqueAgentName_without hfits casing hboard hmem (hown.trans horg) _)
  intro _ _
  rfl

theorem ensureBoardLeadAgent_without (hboard : o.board board.id = false) (gateway : OrgGateway)
    (agentName : Option String) (agentId : Uuid) (reached : Bool) :
    ensureBoardLeadAgent (s.without o) board gateway agentName agentId reached =
      ensureBoardLeadAgent s board gateway agentName agentId reached := by
  unfold ensureBoardLeadAgent
  rw [leads_without hfits hboard]

theorem deleteAgentAsLead_without {leadId : Uuid} (hagent : o.agent agentId = false)
    (hlead : o.agent leadId = false) :
    deleteAgentAsLead (s.without o) agentId leadId = deleteAgentAsLead s agentId leadId := by
  unfold deleteAgentAsLead
  rw [agents_get?_without hlead]
  apply bind_congr_ok rfl
  intro lead hfound
  have hboards : ∀ id ∈ lead.boardId, o.board id = false :=
    fun id hid => board_of_agent hfits hlead (orFail_eq_ok.mp hfound) hid
  rw [agents_get?_without hagent, requireBoard_without hfits hboards]

end Requests

end AgentDb

/-! ## Commits -/

/-- A commit about one agent of a board: its new row, or an update that leaves it on the board. -/
def AgentWrite.On (agentId boardId : Uuid) : AgentWrite → Prop
  | .insert agent => agent.id = agentId ∧ agent.boardId = some boardId
  | .update loaded new => loaded.id = agentId ∧ loaded.boardId = some boardId ∧ new.boardId = some boardId
  | .delete _ | .updateBoard .. => False

theorem on_newAgentWrites {agent : PlacedAgent} {boardId : Uuid} (hon : agent.boardId = some boardId) (board : BoardRow)
    (gateway : OrgGateway) (reached : Bool) :
    ∀ write ∈ newAgentWrites agent board gateway reached, write.On agent.id boardId := by
  intro write hwrite
  simp only [newAgentWrites, List.mem_cons, List.not_mem_nil, or_false] at hwrite
  rcases hwrite with rfl | rfl
  · exact ⟨rfl, hon⟩
  · refine ⟨rfl, hon, ?_⟩
    unfold PlacedAgent.provisioned
    split <;> exact hon

theorem on_createAgent {casing : LetterCase} {s : AgentDb} {actorId : Uuid} {payload : AgentCreate}
    {reached : Bool} {writes : List AgentWrite}
    (h : createAgent casing s agentId (.agent actorId) payload reached = .ok writes) :
    ∃ lead boardId, s.agents.get? actorId = some lead ∧ lead.boardId = some boardId ∧
      (∃ agent rest, writes = .insert agent :: rest) ∧ ∀ write ∈ writes, write.On agentId boardId := by
  obtain ⟨board, gateway, hon, -, -, -, -, rfl⟩ := createAgent_eq_ok h
  obtain ⟨lead, hlead, hleadOn⟩ := Option.bind_eq_some_iff.mp hon
  exact ⟨lead, board.id, hlead, hleadOn, ⟨_, _, rfl⟩, on_newAgentWrites rfl board gateway reached⟩

namespace TenantDb

/-- In `s'` are the boards, gateways and agents of `s` that are not others'. -/
structure SeenAs (o : Others) (s s' : TenantDb) : Prop where
  placement : s'.placement = s.placement.without o
  agents : s'.agents = s.agents.deleteWhere fun a => o.agent a.id

theorem seenAs_without (s : TenantDb) (o : Others) : SeenAs o s (s.without o) := ⟨placement_without s o, rfl⟩

section Commits
variable {o : Others} {s s' t u : TenantDb} {write : AgentWrite} {writes : List AgentWrite} {agentId boardId : Uuid}

theorem SeenAs.gateways (h : SeenAs o s s') :
    s'.gateways = s.gateways.deleteWhere fun g => g.organizationId ≠ o.organizationId :=
  congrArg AgentDb.gateways h.placement

theorem SeenAs.boards (h : SeenAs o s s') :
    s'.boards = s.boards.deleteWhere fun b => b.organizationId ≠ o.organizationId :=
  congrArg AgentDb.boards h.placement

theorem SeenAs.withAgents (h : SeenAs o s s') (agents : Table TenantAgent) :
    SeenAs o { s with agents } { s' with agents := agents.deleteWhere fun a => o.agent a.id } where
  placement := by
    have hview : ((agents.deleteWhere fun a => o.agent a.id).view TenantAgent.toPlacedAgent fun _ => rfl) =
        (agents.view TenantAgent.toPlacedAgent fun _ => rfl).deleteWhere fun a => o.agent a.id :=
      Table.view_part fun a : PlacedAgent => o.agent a.id
    have hmembers := congrArg AgentDb.members h.placement
    have haccess := congrArg AgentDb.boardAccess h.placement
    unfold TenantDb.placement AgentDb.without
    dsimp only
    rw [hview, h.gateways, h.boards]
    exact congrArg₂ (fun members boardAccess => ({ members, boardAccess, gateways := _, boards := _, agents := _ } : AgentDb))
      hmembers haccess
  agents := rfl

theorem SeenAs.agents_get? (h : SeenAs o s s') (hagent : o.agent agentId = false) :
    s'.agents.get? agentId = s.agents.get? agentId := by
  rw [h.agents]
  apply Table.get?_part
  rintro a _ rfl
  exact hagent

theorem SeenAs.applyWrite (h : SeenAs o s s') (hagent : o.agent agentId = false) (hon : write.On agentId boardId) :
    (∃ e, s.applyWrite write = .error e ∧ s'.applyWrite write = .error e) ∨
      ∃ t t', s.applyWrite write = .ok t ∧ s'.applyWrite write = .ok t' ∧ SeenAs o t t' := by
  cases write with
  | insert agent =>
    obtain ⟨rfl, -⟩ := hon
    have hinsert : s'.agents.insert? { toPlacedAgent := agent } =
        (s.agents.insert? { toPlacedAgent := agent }).map fun t => t.deleteWhere fun a => o.agent a.id := by
      rw [h.agents]
      apply Table.insert?_part
      · exact hagent
      · intro a _ hid
        rw [show a.id = agent.id from hid]
        exact hagent
    unfold TenantDb.applyWrite
    dsimp only
    rw [hinsert]
    cases s.agents.insert? { toPlacedAgent := agent } with
    | none => exact .inl ⟨_, rfl, rfl⟩
    | some agents => exact .inr ⟨_, _, rfl, rfl, h.withAgents agents⟩
  | update loaded new =>
    obtain ⟨rfl, -⟩ := hon
    unfold TenantDb.applyWrite
    dsimp only
    rw [h.agents_get? hagent]
    cases hget : s.agents.get? loaded.id with
    | none => exact .inl ⟨_, rfl, rfl⟩
    | some current =>
      refine .inr ⟨_, _, rfl, rfl, ?_⟩
      rw [h.agents, Table.put_part]
      · exact h.withAgents _
      · show o.agent current.id = false
        rw [show current.id = loaded.id from Table.key_of_get? hget]
        exact hagent
      · intro a _ hid
        rw [show a.id = current.id from hid, show current.id = loaded.id from Table.key_of_get? hget]
        exact hagent
  | delete _ | updateBoard _ _ => exact hon.elim

theorem SeenAs.applyWrites (h : SeenAs o s s') (hagent : o.agent agentId = false)
    (hon : ∀ write ∈ writes, write.On agentId boardId) :
    SeenAs o ((s.applyWrites writes).1.getLastD s) ((s'.applyWrites writes).1.getLastD s') ∧
      ((∃ e, (s.applyWrites writes).2 = .error e ∧ (s'.applyWrites writes).2 = .error e) ∨
        ∃ t t', (s.applyWrites writes).2 = .ok t ∧ (s'.applyWrites writes).2 = .ok t' ∧ SeenAs o t t') := by
  induction writes generalizing s s' with
  | nil => exact ⟨h, .inr ⟨s, s', rfl, rfl, h⟩⟩
  | cons write writes ih =>
    unfold TenantDb.applyWrites
    rcases h.applyWrite hagent (hon write List.mem_cons_self) with ⟨e, hs, hs'⟩ | ⟨t, t', hs, hs', hseen⟩
    · rw [hs, hs']
      exact ⟨h, .inl ⟨e, rfl, rfl⟩⟩
    · rw [hs, hs']
      obtain ⟨hlast, hanswer⟩ := ih hseen fun write hwrite => hon write (List.mem_cons_of_mem _ hwrite)
      refine ⟨?_, hanswer⟩
      simp only [List.getLastD_cons]
      exact hlast

/-- What the commits about one agent of a board change: its row, which stays on the board. -/
structure WritesOn (agentId boardId : Uuid) (s t : TenantDb) : Prop where
  others : t.rows = s.rows ∧ t.boards = s.boards ∧ t.gateways = s.gateways
  agents : ∀ a ∈ t.agents, a ∈ s.agents ∨ a.id = agentId ∧ a.boardId = some boardId
  rest : ∀ hidden : TenantAgent → Bool, (∀ a, a.boardId = some boardId → hidden a = true) →
    t.agents.deleteWhere hidden = s.agents.deleteWhere hidden

theorem WritesOn.trans (h : WritesOn agentId boardId s t) (h' : WritesOn agentId boardId t u) :
    WritesOn agentId boardId s u where
  others := ⟨h'.others.1.trans h.others.1, h'.others.2.1.trans h.others.2.1, h'.others.2.2.trans h.others.2.2⟩
  agents a ha := (h'.agents a ha).elim (h.agents a) .inr
  rest hidden hhidden := (h'.rest hidden hhidden).trans (h.rest hidden hhidden)

def OnlyOn (agentId boardId : Uuid) (s : TenantDb) : Prop := ∀ a ∈ s.agents, a.id = agentId → a.boardId = some boardId

theorem writesOn_applyWrite (hon : write.On agentId boardId)
    (hs : OnlyOn agentId boardId s ∨ ∃ agent, write = .insert agent) (h : s.applyWrite write = .ok t) :
    WritesOn agentId boardId s t ∧ OnlyOn agentId boardId t := by
  cases write with
  | insert agent =>
    obtain ⟨rfl, hboard⟩ := hon
    simp only [TenantDb.applyWrite, bind_eq_ok, orFail_eq_ok, pure_eq_ok] at h
    obtain ⟨agents, hinsert, rfl⟩ := h
    have hrows : ∀ a, a ∈ agents ↔ a ∈ s.agents ∨ a = { toPlacedAgent := agent } := fun a => Table.mem_insert? hinsert
    refine ⟨⟨⟨rfl, rfl, rfl⟩, fun a ha => ?_, fun hidden hhidden => ?_⟩, fun a ha hid => ?_⟩
    · rcases (hrows a).mp ha with hold | rfl
      · exact .inl hold
      · exact .inr ⟨rfl, hboard⟩
    · exact Table.insert?_rest (hhidden _ hboard) hinsert
    · rcases (hrows a).mp ha with hold | rfl
      · exact absurd hid (Table.get?_eq_none.mp (Table.insert?_eq_some hinsert).2 a hold)
      · exact hboard
  | update loaded new =>
    obtain ⟨rfl, hloaded, hnew⟩ := hon
    have hs : OnlyOn loaded.id boardId s := hs.resolve_right nofun
    simp only [TenantDb.applyWrite, bind_eq_ok, orFail_eq_ok, pure_eq_ok] at h
    obtain ⟨current, hget, rfl⟩ := h
    have hid : current.id = loaded.id := Table.key_of_get? hget
    have hcurrent := hs current (Table.mem_of_get? hget) hid
    have hwritten : (new.writtenOver loaded current.toPlacedAgent).boardId = some boardId := by
      unfold PlacedAgent.writtenOver
      simp [hloaded, hnew, hcurrent]
    refine ⟨⟨⟨rfl, rfl, rfl⟩, fun a ha => ?_, fun hidden hhidden => ?_⟩, fun a ha haid => ?_⟩
    · rcases Table.mem_put.mp ha with ⟨hold, -⟩ | ⟨rfl, -⟩
      · exact .inl hold
      · exact .inr ⟨hid, hwritten⟩
    · refine Table.put_rest (hhidden _ hwritten) fun a ha haid => hhidden a ?_
      exact hs a ha ((show a.id = current.id from haid).trans hid)
    · rcases Table.mem_put.mp ha with ⟨hold, -⟩ | ⟨rfl, -⟩
      · exact hs a hold haid
      · exact hwritten
  | delete _ | updateBoard _ _ => exact hon.elim

theorem writesOn_applyWrites (hon : ∀ write ∈ writes, write.On agentId boardId)
    (hs : OnlyOn agentId boardId s ∨ ∃ agent rest, writes = .insert agent :: rest) :
    ∀ t ∈ (s.applyWrites writes).1, WritesOn agentId boardId s t := by
  induction writes generalizing s with
  | nil => exact fun t ht => nomatch ht
  | cons write writes ih =>
    have hfirst : OnlyOn agentId boardId s ∨ ∃ agent, write = .insert agent := by
      rcases hs with hs | ⟨agent, rest, heq⟩
      · exact .inl hs
      · exact .inr ⟨agent, (List.cons.inj heq).1⟩
    unfold TenantDb.applyWrites
    cases happly : s.applyWrite write with
    | error e => exact fun t ht => nomatch ht
    | ok u =>
      obtain ⟨hwrites, hu⟩ := writesOn_applyWrite (hon write List.mem_cons_self) hfirst happly
      intro t ht
      rcases List.mem_cons.mp ht with rfl | ht
      · exact hwrites
      · exact hwrites.trans (ih (fun write hwrite => hon write (List.mem_cons_of_mem _ hwrite)) (.inl hu) t ht)

theorem onlyOn_applyWrites (hon : ∀ write ∈ writes, write.On agentId boardId)
    (hs : OnlyOn agentId boardId s ∨ ∃ agent rest, writes = .insert agent :: rest) (h : (s.applyWrites writes).2 = .ok t) :
    OnlyOn agentId boardId t := by
  induction writes generalizing s with
  | nil =>
    obtain rfl := Except.ok.inj h
    exact hs.resolve_right nofun
  | cons write writes ih =>
    have hfirst : OnlyOn agentId boardId s ∨ ∃ agent, write = .insert agent := by
      rcases hs with hs | ⟨agent, rest, heq⟩
      · exact .inl hs
      · exact .inr ⟨agent, (List.cons.inj heq).1⟩
    unfold TenantDb.applyWrites at h
    cases happly : s.applyWrite write with
    | error e =>
      rw [happly] at h
      cases h
    | ok u =>
      rw [happly] at h
      have hu := (writesOn_applyWrite (hon write List.mem_cons_self) hfirst happly).2
      exact ih (fun write hwrite => hon write (List.mem_cons_of_mem _ hwrite)) (.inl hu) h

/-- Agents and gateways go with their boards in the states it commits. -/
theorem WritesOn.fitsPlacement (h : WritesOn agentId boardId s t) (hagent : o.agent agentId = false)
    (hboard : o.board boardId = false) (hfits : o.FitsPlacement s.placement) : o.FitsPlacement t.placement where
  boards := by
    show ∀ b ∈ t.boards, _
    rw [h.others.2.1]
    exact hfits.boards
  agents := by
    rintro a ha boardId' hon
    obtain ⟨a', ha', rfl⟩ := List.mem_map.mp ha
    rcases h.agents a' ha' with hold | ⟨hid, hon'⟩
    · exact hfits.agents a'.toPlacedAgent (List.mem_map_of_mem hold) boardId' hon
    · obtain rfl := Option.some.inj (hon'.symm.trans hon)
      show o.agent a'.id = _
      rw [hid, hagent, hboard]
  gateways := by
    show ∀ b ∈ t.boards, ∀ g ∈ t.gateways, _
    rw [h.others.2.1, h.others.2.2]
    exact hfits.gateways

end Commits

end TenantDb

end SiloForge
