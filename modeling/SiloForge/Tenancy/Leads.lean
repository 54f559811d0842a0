import SiloForge.Agents.OneLead
import SiloForge.Tenancy.Calls

/-!
# Calls that create, delete and message agents

What such a call commits is about agents of the caller's organization. On `s.without o` it commits the same, and is
answered from the same rows.

* `checkedWorker`, `checkedDeletion` : the checks of `createBoardAgent` and `deleteBoardAgent`;
* `messaged`, `leadRun`, `leadWrites` : what becomes of a message to the lead of a board;
* `ensureAndMessageBoardLead_seenAs`, `messageEachLead_seenAs` : one lead, and one after the other;
* `answer_callEndpoint_without` : every call.
-/

namespace SiloForge

open Lib

namespace TenantDb

section Without
variable {o : Others} {s s' : TenantDb} {agent : TenantAgent} {env : TenantEnv} {gateways : GatewayAnswers} {now : Time}

/-! ## Workers -/

/-- The commits of a new worker, and how its provisioning ends. -/
def checkedWorker (casing : LetterCase) (gateways : GatewayAnswers) (s : AgentDb) (agent : TenantAgent) (agentId : Uuid)
    (payload : AgentCreate) : Except Failure (List AgentWrite × Except Failure Unit) := do
  requireBoardLeadActor agent.toAgent
  let payload := { payload with boardId := agent.boardId }
  let board ← requireBoard s agent.boardId none false
  let run : Bool × Except Failure Unit := match getGatewayForBoard s board with
    | none => (false, .ok ())
    | some gateway => gateways.provision gateway (newWorker agentId board gateway payload.name)
  let writes ← createAgent casing s agentId (.agent agent.id) payload run.1
  return (writes, run.2)

theorem createBoardAgent_eq (casing : LetterCase) (agentId : Uuid) (payload : AgentCreate) :
    createBoardAgent casing gateways s agent agentId payload =
      match checkedWorker casing gateways s.placement agent agentId payload with
      | .error e => .read (.error e)
      | .ok (writes, provisioned) =>
        { commits := (s.applyWrites writes).1
          answer := do
            let t ← (s.applyWrites writes).2
            provisioned
            let created ← orFail (t.agents.get? agentId) (.status 500)
            return .agents [created] } := rfl

theorem Clear.checkedWorker_without (hclear : Clear o s agent) (casing : LetterCase) (agentId : Uuid)
    (payload : AgentCreate) : checkedWorker casing gateways (s.without o).placement agent agentId payload =
      checkedWorker casing gateways s.placement agent agentId payload := by
  unfold checkedWorker
  rw [placement_without]
  apply bind_congr_ok rfl
  intro _ _
  have hboards : ∀ id ∈ agent.boardId, o.board id = false := fun id hon => hclear.board hon
  apply bind_congr_ok (AgentDb.requireBoard_without hclear.placement hboards)
  intro board hrequired
  obtain ⟨hon, hget⟩ := requireBoard_eq_ok hrequired
  have horg := AgentDb.organizationId_of_boards_get? hclear.placement (hboards board.id hon) hget
  rw [AgentDb.getGatewayForBoard_without horg]
  exact bind_congr_ok (AgentDb.createAgent_without hclear.placement casing hclear.caller agentId _ _) fun _ _ => rfl

variable {agentId : Uuid}

theorem on_checkedWorker {casing : LetterCase} {s : AgentDb} {payload : AgentCreate} {writes : List AgentWrite}
    {provisioned : Except Failure Unit}
    (h : checkedWorker casing gateways s agent agentId payload = .ok (writes, provisioned)) :
    ∃ lead boardId, s.agents.get? agent.id = some lead ∧ lead.boardId = some boardId ∧
      (∃ agent rest, writes = .insert agent :: rest) ∧ ∀ write ∈ writes, write.On agentId boardId := by
  simp only [checkedWorker, bind_eq_ok, pure_eq_ok] at h
  obtain ⟨_, -, board, -, writes, hcreate, heq⟩ := h
  obtain ⟨rfl, -⟩ := Prod.mk.inj heq
  exact on_createAgent hcreate

theorem Clear.createAgent_without (hclear : Clear o s agent) (hagent : o.agent agentId = false) (payload : AgentCreate) :
    (callEndpoint env gateways (s.without o) now agent (.createAgent agentId payload)).answer =
      (callEndpoint env gateways s now agent (.createAgent agentId payload)).answer := by
  show (createBoardAgent env.casing gateways (s.without o) agent agentId payload).answer =
    (createBoardAgent env.casing gateways s agent agentId payload).answer
  rw [createBoardAgent_eq, createBoardAgent_eq, hclear.checkedWorker_without]
  cases hchecked : checkedWorker env.casing gateways s.placement agent agentId payload with
  | error e => rfl
  | ok checked =>
    obtain ⟨writes, provisioned⟩ := checked
    obtain ⟨-, boardId, -, -, -, hon⟩ := on_checkedWorker hchecked
    rcases ((seenAs_without s o).applyWrites hagent hon).2 with ⟨e, hs, hs'⟩ | ⟨t, t', hs, hs', hseen⟩
    · dsimp only
      rw [hs, hs']
    · dsimp only
      rw [hs, hs']
      show (provisioned >>= fun _ => _) = (provisioned >>= fun _ => _)
      rw [hseen.agents_get? hagent]

def checkedDeletion (gateways : GatewayAnswers) (s : TenantDb) (now : Time) (agent : TenantAgent) (agentId : Uuid) :
    Except Failure (Option Db) := do
  let writes ← deleteAgentAsLead s.placement agentId agent.id
  if writes.isEmpty then return none
  else
    let target ← orFail (s.agents.get? agentId) (.status 404)
    let board ← requireBoard s.placement target.boardId none false
    let gateway ← requireGateway s.placement board
    gateways.cleanup gateway target.toPlacedAgent
    let t ← deleteAgentRecord s.db now agentId
    return some t

theorem deleteBoardAgent_eq (agentId : Uuid) : deleteBoardAgent gateways s now agent agentId =
    match checkedDeletion gateways s now agent agentId with
    | .error e => .read (.error e)
    | .ok none => .read (.ok .ok)
    | .ok (some t) =>
      { commits := [{ s with rows := t, agents := s.agents.deleteWhere fun a => a.id = agentId }], answer := .ok .ok } :=
  rfl

theorem answer_deleteBoardAgent (agentId : Uuid) : (deleteBoardAgent gateways s now agent agentId).answer =
    ((checkedDeletion gateways s now agent agentId).map fun _ => ()).map fun _ => .ok := by
  rw [deleteBoardAgent_eq]
  cases checkedDeletion gateways s now agent agentId with
  | error e => rfl
  | ok t => cases t <;> rfl

theorem Clear.checkedDeletion_without (hclear : Clear o s agent) (hagent : o.agent agentId = false) :
    ((checkedDeletion gateways (s.without o) now agent agentId).map fun _ => ()) =
      (checkedDeletion gateways s now agent agentId).map fun _ => () := by
  unfold checkedDeletion
  rw [placement_without, db_without, agents_get?_without hagent]
  apply bind_congr_image (AgentDb.deleteAgentAsLead_without hclear.placement hagent hclear.caller)
  intro writes _
  split
  · rfl
  · apply bind_congr_image rfl
    intro target hfound
    have hget : s.placement.agents.get? agentId = some target.toPlacedAgent := by
      rw [placement_agents_get?, orFail_eq_ok.mp hfound]
      rfl
    have hboards : ∀ id ∈ target.boardId, o.board id = false :=
      fun id hid => AgentDb.board_of_agent hclear.placement hagent hget hid
    apply bind_congr_image (AgentDb.requireBoard_without hclear.placement hboards)
    intro board hrequired
    obtain ⟨hon, hboard⟩ := requireBoard_eq_ok hrequired
    apply bind_congr_image (AgentDb.requireGateway_without
      (AgentDb.organizationId_of_boards_get? hclear.placement (hboards board.id hon) hboard))
    intro gateway _
    apply bind_congr_image rfl
    intro _ _
    rw [map_bind_pure, map_bind_pure]
    exact deleteAgentRecord_without hclear.apart now hagent

theorem Clear.deleteBoardAgent_without (hclear : Clear o s agent) {boardId : Uuid} (hboard : o.board boardId = false)
    (hagent : o.agent agentId = false) :
    (callEndpoint env gateways (s.without o) now agent (.deleteBoardAgent boardId agentId)).answer =
      (callEndpoint env gateways s now agent (.deleteBoardAgent boardId agentId)).answer := by
  unfold callEndpoint
  dsimp only
  rw [hclear.boardOfLead_without hboard]
  cases boardOfLead s agent boardId with
  | error e => rfl
  | ok board =>
    dsimp only
    rw [answer_deleteBoardAgent, answer_deleteBoardAgent, hclear.checkedDeletion_without hagent]

/-! ## Messages to leads -/

section Lead
variable {gateway : OrgGateway} {board : BoardRow} {newId : Uuid}

def leadId (s : AgentDb) (board : BoardRow) (newId : Uuid) : Uuid := ((s.leads board.id).head?.map (·.id)).getD newId

def leadRun (gateways : GatewayAnswers) (s : AgentDb) (gateway : OrgGateway) (board : BoardRow) (newId : Uuid) :
    Bool × Except Failure Unit :=
  match (s.leads board.id).head? with
  | some _ => (true, .ok ())
  | none => gateways.provision gateway (newLead newId board gateway (desiredLeadName none))

def messaged (gateways : GatewayAnswers) (gateway : OrgGateway) (leadId : Uuid) (created : Bool)
    (provisioned : Except Failure Unit) (last : Except Failure TenantDb) : Except Failure (PlacedAgent × Bool) := do
  let t ← last
  provisioned
  let lead ← orFail (t.agents.get? leadId) (.status 500)
  let sessionKey ← orFail (lead.openclawSessionId.filter (· ≠ "")) (.text 422 "Lead agent has no session key")
  gateways.send gateway sessionKey
  return (lead.toPlacedAgent, created)

def leadWrites (gateways : GatewayAnswers) (s : AgentDb) (gateway : OrgGateway) (board : BoardRow) (newId : Uuid) :
    List AgentWrite := ensureBoardLeadAgent s board gateway none newId (leadRun gateways s gateway board newId).1

theorem ensureAndMessageBoardLead_eq : ensureAndMessageBoardLead gateways s gateway board newId =
    ((s.applyWrites (leadWrites gateways s.placement gateway board newId)).1,
      messaged gateways gateway (leadId s.placement board newId) (s.placement.leads board.id).head?.isNone
        (leadRun gateways s.placement gateway board newId).2
        (s.applyWrites (leadWrites gateways s.placement gateway board newId)).2) := rfl

theorem agent_leadId (hfits : o.FitsPlacement s.placement) (hboard : o.board board.id = false)
    (hnew : o.agent newId = false) : o.agent (leadId s.placement board newId) = false := by
  unfold leadId
  cases hlead : (s.placement.leads board.id).head? with
  | none => exact hnew
  | some lead =>
    obtain ⟨hmem, hon, -⟩ := mem_leads.mp (List.mem_of_head? hlead)
    exact (hfits.agents lead hmem board.id hon).trans hboard

theorem on_leadWrites (gateways : GatewayAnswers) (s : TenantDb) (gateway : OrgGateway) (board : BoardRow) (newId : Uuid) :
    (∀ write ∈ leadWrites gateways s.placement gateway board newId,
      write.On (leadId s.placement board newId) board.id) ∧
    (OnlyOn (leadId s.placement board newId) board.id s ∨
      ∃ agent rest, leadWrites gateways s.placement gateway board newId = .insert agent :: rest) := by
  unfold leadWrites ensureBoardLeadAgent leadId
  cases hlead : (s.placement.leads board.id).head? with
  | none => exact ⟨on_newAgentWrites rfl board gateway _, .inr ⟨_, _, rfl⟩⟩
  | some lead =>
    obtain ⟨hmem, hon, -⟩ := mem_leads.mp (List.mem_of_head? hlead)
    refine ⟨fun write hwrite => ?_, .inl fun a ha hid => ?_⟩
    · dsimp only at hwrite
      split at hwrite
      · cases hwrite
      · obtain rfl := List.mem_singleton.mp hwrite
        exact ⟨rfl, hon, hon⟩
    · have hget : s.placement.agents.get? lead.id = some lead := Table.get?_eq_some.mpr ⟨hmem, rfl⟩
      have hget' : s.placement.agents.get? lead.id = some a.toPlacedAgent :=
        Table.get?_eq_some.mpr ⟨List.mem_map_of_mem ha, hid⟩
      obtain rfl := Option.some.inj (hget.symm.trans hget')
      exact hon

theorem writesOn_ensureAndMessageBoardLead (gateways : GatewayAnswers) (s : TenantDb) (gateway : OrgGateway)
    (board : BoardRow) (newId : Uuid) : ∀ t ∈ (ensureAndMessageBoardLead gateways s gateway board newId).1,
      WritesOn (leadId s.placement board newId) board.id s t :=
  writesOn_applyWrites (on_leadWrites gateways s gateway board newId).1 (on_leadWrites gateways s gateway board newId).2

section Seen
variable (hfits : o.FitsPlacement s.placement) (hboard : o.board board.id = false) (hnew : o.agent newId = false)
include hfits hboard

theorem leadId_without : leadId (s.placement.without o) board newId = leadId s.placement board newId := by
  unfold leadId
  rw [AgentDb.leads_without hfits hboard]

theorem leadRun_without : leadRun gateways (s.placement.without o) gateway board newId =
    leadRun gateways s.placement gateway board newId := by
  unfold leadRun
  rw [AgentDb.leads_without hfits hboard]

theorem leadWrites_without : leadWrites gateways (s.placement.without o) gateway board newId =
    leadWrites gateways s.placement gateway board newId := by
  unfold leadWrites
  rw [leadRun_without hfits hboard, AgentDb.ensureBoardLeadAgent_without hfits hboard]

include hnew in
theorem ensureAndMessageBoardLead_seenAs (hseen : SeenAs o s s') :
    (ensureAndMessageBoardLead gateways s' gateway board newId).2 =
        (ensureAndMessageBoardLead gateways s gateway board newId).2 ∧
      SeenAs o ((ensureAndMessageBoardLead gateways s gateway board newId).1.getLastD s)
        ((ensureAndMessageBoardLead gateways s' gateway board newId).1.getLastD s') ∧
      o.FitsPlacement ((ensureAndMessageBoardLead gateways s gateway board newId).1.getLastD s).placement := by
  have hagent := agent_leadId hfits hboard hnew
  have hlast : o.FitsPlacement ((ensureAndMessageBoardLead gateways s gateway board newId).1.getLastD s).placement := by
    rcases Machine.getLastD_mem_or_eq (ensureAndMessageBoardLead gateways s gateway board newId).1 s with hmem | hnone
    · exact (writesOn_ensureAndMessageBoardLead gateways s gateway board newId _ hmem).fitsPlacement hagent hboard hfits
    · rw [hnone]
      exact hfits
  have happly := hseen.applyWrites hagent (on_leadWrites gateways s gateway board newId).1
  refine ⟨?_, ?_, hlast⟩
  · rw [ensureAndMessageBoardLead_eq, ensureAndMessageBoardLead_eq, hseen.placement, leadId_without hfits hboard,
      leadRun_without hfits hboard, leadWrites_without hfits hboard, AgentDb.leads_without hfits hboard]
    dsimp only
    rcases happly.2 with ⟨e, hs, hs'⟩ | ⟨t, t', hs, hs', hseen'⟩
    · rw [hs, hs']
    · rw [hs, hs']
      show ((leadRun gateways s.placement gateway board newId).2 >>= fun _ => _) =
        ((leadRun gateways s.placement gateway board newId).2 >>= fun _ => _)
      rw [hseen'.agents_get? hagent]
  · rw [ensureAndMessageBoardLead_eq, ensureAndMessageBoardLead_eq, hseen.placement, leadWrites_without hfits hboard]
    exact happly.1

end Seen

theorem messageEachLead_seenAs {newIds : Uuid → Uuid} {boards : List BoardRow}
    (hboards : ∀ b ∈ boards, o.board b.id = false ∧ o.agent (newIds b.id) = false) (hfits : o.FitsPlacement s.placement)
    (hseen : SeenAs o s s') :
    (messageEachLead gateways gateway newIds s' boards).2 = (messageEachLead gateways gateway newIds s boards).2 := by
  induction boards generalizing s s' with
  | nil => rfl
  | cons b boards ih =>
    obtain ⟨hboard, hnew⟩ := hboards b List.mem_cons_self
    obtain ⟨hanswer, hlast, hfits'⟩ := ensureAndMessageBoardLead_seenAs hfits hboard hnew hseen
    have hrest := ih (fun b' hb' => hboards b' (List.mem_cons_of_mem b hb')) hfits' hlast
    unfold messageEachLead
    dsimp only
    rw [hanswer, hrest]

end Lead

/-! ## Messages of a main agent -/

section Main
variable (hclear : Clear o s agent)
include hclear

theorem Clear.requireGatewayMainActor_without :
    requireGatewayMainActor (s.without o) agent = requireGatewayMainActor s agent := by
  unfold requireGatewayMainActor
  rw [gateways_get?_without hclear.gateway]

omit hclear in
theorem requireGatewayMainActor_eq_ok {gateway : OrgGateway} (h : requireGatewayMainActor s agent = .ok gateway) :
    agent.boardId = none ∧ s.gateways.get? agent.gatewayId = some gateway := by
  simp only [requireGatewayMainActor, requireGatewayMainActorBinding, requireClientConfig, bind_eq_ok, orFail_eq_ok,
    require_eq_ok, pure_eq_ok] at h
  obtain ⟨_, ⟨_, hnone, gateway, hget, _, -, rfl⟩, _, -, rfl⟩ := h
  exact ⟨hnone, hget⟩

theorem Clear.organizationId_of_main {gateway : OrgGateway} (h : requireGatewayMainActor s agent = .ok gateway) :
    gateway.organizationId = o.organizationId := by
  have hgateway := hclear.gateway
  unfold gatewayOrganization at hgateway
  rw [(requireGatewayMainActor_eq_ok h).2] at hgateway
  exact Option.some.inj hgateway

theorem Clear.messageGatewayBoardLead_without {boardId newId : Uuid} (hboard : o.board boardId = false)
    (hnew : o.agent newId = false) :
    (messageGatewayBoardLead gateways (s.without o) agent boardId newId).answer =
      (messageGatewayBoardLead gateways s agent boardId newId).answer := by
  unfold messageGatewayBoardLead requireGatewayBoard
  dsimp only
  rw [hclear.requireGatewayMainActor_without, hclear.boards_get?_without hboard]
  split
  · rfl
  · rename_i gateway board hchecked
    simp only [bind_eq_ok, orFail_eq_ok, require_eq_ok, pure_eq_ok] at hchecked
    obtain ⟨_, -, found, ⟨_, hget, _, -, rfl⟩, heq⟩ := hchecked
    rw [(Prod.mk.inj heq).2] at hget
    obtain rfl : board.id = boardId := Table.key_of_get? hget
    obtain ⟨hanswer, -⟩ := ensureAndMessageBoardLead_seenAs hclear.placement hboard hnew (seenAs_without s o)
    dsimp only
    rw [hanswer]

theorem Clear.broadcastGatewayLeadMessage_without (boardIds : List Uuid) {newIds : Uuid → Uuid}
    (hnew : ∀ boardId, o.board boardId = false → o.agent (newIds boardId) = false) :
    (broadcastGatewayLeadMessage gateways (s.without o) agent boardIds newIds).answer =
      (broadcastGatewayLeadMessage gateways s agent boardIds newIds).answer := by
  unfold broadcastGatewayLeadMessage
  rw [hclear.requireGatewayMainActor_without]
  cases hmain : requireGatewayMainActor s agent with
  | error e => rfl
  | ok gateway =>
    have hgateway := Table.mem_of_get? (requireGatewayMainActor_eq_ok hmain).2
    have hown : ∀ b ∈ s.boards, b.gatewayId = some gateway.id → o.board b.id = false := by
      intro b hb hhas
      rw [hclear.placement.boards b hb, ← hclear.placement.gateways b hb gateway hgateway hhas,
        hclear.organizationId_of_main hmain]
      simp
    have hboards : ((s.without o).boards.rows.filter fun b =>
          b.gatewayId = some gateway.id && (boardIds = [] || b.id ∈ boardIds)) =
        s.boards.rows.filter fun b => b.gatewayId = some gateway.id && (boardIds = [] || b.id ∈ boardIds) := by
      apply Table.filter_part
      intro b hb hsel
      rw [Bool.and_eq_true] at hsel
      exact (hclear.placement.boards b hb).symm.trans (hown b hb (of_decide_eq_true hsel.1))
    dsimp only
    rw [hboards, messageEachLead_seenAs _ hclear.placement (seenAs_without s o)]
    intro b hb
    obtain ⟨hmem, hsel⟩ := List.mem_filter.mp hb
    rw [Bool.and_eq_true] at hsel
    have hshown := hown b hmem (of_decide_eq_true hsel.1)
    exact ⟨hshown, hnew b.id hshown⟩

/-- **A call that names rows of its organization only does not notice the others.** -/
theorem Clear.answer_callEndpoint_without {call : AgentCall} (hkeeps : call.KeepsTo s o agent) :
    (callEndpoint env gateways (s.without o) now agent call).answer =
      (callEndpoint env gateways s now agent call).answer := by
  cases call with
  | healthz => rfl
  | agentHeartbeat => rfl
  | listBoards => exact hclear.listBoards_without
  | getBoard boardId => exact bind_congr_ok (hclear.boardOfPath_without hkeeps) fun _ _ => rfl
  | listAgents boardId => exact hclear.listAgents_without hkeeps.1 hkeeps.2
  | listTasks boardId filters =>
    apply bind_congr_ok (hclear.boardOfPath_without hkeeps)
    intro board hfound
    obtain rfl := (boardOfPath_eq_ok hfound).2.1
    rw [db_without, agentListTasks_without hkeeps hclear.fits hclear.apart.tags]
  | listTags boardId =>
    apply bind_congr_ok (hclear.boardOfPath_without hkeeps)
    intro board hfound
    rw [listTags_without (hclear.organizationId_of_boardOfPath hkeeps hfound)]
  | getWebhookPayload boardId webhookId payloadId =>
    apply bind_congr_ok (hclear.boardOfPath_without hkeeps)
    intro board hfound
    obtain rfl := (boardOfPath_eq_ok hfound).2.1
    rw [getWebhookPayload_without hkeeps]
  | createTask boardId taskId payload => exact hclear.createTask_without hkeeps.1 hkeeps.2.1 payload hkeeps.2.2
  | updateTask boardId taskId payload => exact hclear.updateTask_without hkeeps.1 payload hkeeps.2
  | deleteTask boardId taskId => exact hclear.deleteTask_without hkeeps
  | listTaskComments boardId taskId =>
    apply bind_congr_ok (hclear.taskOfPath_without hkeeps taskId)
    intro task hfound
    obtain ⟨hget, -, hon, -⟩ := taskOfPath_eq_ok hfound
    have hshown := hclear.fits.task_of_boardId hkeeps (Table.mem_of_get? hget) hon
    rw [db_without, listTaskComments_without hshown]
  | createTaskComment boardId taskId message => exact hclear.createTaskComment_without hkeeps message
  | listBoardMemory boardId isChat =>
    apply bind_congr_ok (hclear.boardOfPath_without hkeeps)
    intro board hfound
    obtain rfl := (boardOfPath_eq_ok hfound).2.1
    rw [listBoardMemory_without hkeeps]
  | createBoardMemory boardId memoryId payload =>
    apply answer_changed
    apply bind_congr_image (hclear.boardOfPath_without hkeeps.1)
    intro board hfound
    obtain rfl := (boardOfPath_eq_ok hfound).2.1
    exact createBoardMemory_without now hkeeps.1 hkeeps.2 payload
  | listApprovals boardId status =>
    apply bind_congr_ok (hclear.boardOfPath_without hkeeps)
    intro board hfound
    obtain rfl := (boardOfPath_eq_ok hfound).2.1
    rw [db_without, agentListApprovals_without hkeeps hclear.fits hclear.apart]
  | createApproval boardId approvalId payload =>
    exact hclear.createApproval_without hkeeps.1 hkeeps.2.1 payload hkeeps.2.2.1 hkeeps.2.2.2
  | updateOnboarding boardId payload =>
    apply answer_changed
    apply bind_congr_image (hclear.boardOfPath_without hkeeps)
    intro board hfound
    have horg := hclear.organizationId_of_boardOfPath hkeeps hfound
    obtain rfl := (boardOfPath_eq_ok hfound).2.1
    exact agentOnboardingUpdate_without now hkeeps horg payload
  | createAgent agentId payload => exact hclear.createAgent_without hkeeps payload
  | nudgeAgent boardId agentId => exact hclear.nudgeAgent_without hkeeps.1 hkeeps.2
  | getAgentSoul boardId agentId => exact hclear.getAgentSoul_without hkeeps.1 hkeeps.2
  | updateAgentSoul boardId agentId content => exact hclear.updateAgentSoul_without hkeeps.1 hkeeps.2 content
  | deleteBoardAgent boardId agentId => exact hclear.deleteBoardAgent_without hkeeps.1 hkeeps.2
  | askUserViaGatewayMain boardId => exact hclear.askUserViaGatewayMain_without hkeeps
  | messageGatewayBoardLead boardId newId => exact hclear.messageGatewayBoardLead_without hkeeps.1 hkeeps.2
  | broadcastGatewayLeadMessage boardIds newIds => exact hclear.broadcastGatewayLeadMessage_without boardIds hkeeps

end Main

end Without

end TenantDb

end SiloForge
