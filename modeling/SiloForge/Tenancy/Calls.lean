import SiloForge.Tenancy.Commits
import SiloForge.Tenancy.Placement

/-!
# Calls without the rows of other organizations

A call that names rows of its organization only is answered in `s.without o` as in `s`.

* `AgentCall.KeepsTo` : the ids of a call stand for no row of another organization;
* `TenantDb.Clear` : what the rows of a state and the row of the caller have for `o` to hide the others;
* `boardOfPath_without`, `taskOfPath_without`, `boardAgentOr404_without` : the guards;
* `answer_callEndpoint_without` : every call.
-/

namespace SiloForge

open Lib

/-- A call names no row of another organization, and its new ids are not in use there. A main agent lists the agents of
a board. -/
def AgentCall.KeepsTo (s : TenantDb) (o : Others) (agent : TenantAgent) : AgentCall → Prop
  | .healthz | .agentHeartbeat | .listBoards => True
  | .listAgents boardId => (boardId = none → agent.boardId.isSome = true) ∧ ∀ id ∈ boardId, o.board id = false
  | .getBoard boardId | .listTasks boardId _ | .listTags boardId | .getWebhookPayload boardId _ _
  | .deleteTask boardId _ | .listTaskComments boardId _ | .createTaskComment boardId _ _ | .listBoardMemory boardId _
  | .listApprovals boardId _ | .updateOnboarding boardId _ | .askUserViaGatewayMain boardId => o.board boardId = false
  | .createTask boardId taskId payload =>
    o.board boardId = false ∧ o.task taskId = false ∧ ∀ id ∈ payload.assignedAgentId, o.agent id = false
  | .updateTask boardId _ payload => o.board boardId = false ∧ ∀ id ∈ payload.assignedAgentId.join, o.agent id = false
  | .createBoardMemory boardId memoryId _ =>
    o.board boardId = false ∧ ∀ m ∈ s.memory, m.id = memoryId → o.board m.boardId = false
  | .createApproval boardId approvalId payload =>
    o.board boardId = false ∧ o.approval approvalId = false ∧ (∀ id ∈ payload.agentId, o.agent id = false) ∧
      ∀ id ∈ payload.namedTaskIds, o.task id = false
  | .createAgent agentId _ => o.agent agentId = false
  | .nudgeAgent boardId agentId | .getAgentSoul boardId agentId | .updateAgentSoul boardId agentId _
  | .deleteBoardAgent boardId agentId | .messageGatewayBoardLead boardId agentId =>
    o.board boardId = false ∧ o.agent agentId = false
  | .broadcastGatewayLeadMessage _ newIds => ∀ boardId, o.board boardId = false → o.agent (newIds boardId) = false

namespace TenantDb

/-- The rows of a state are others' or the organization's, as `o` has it, and none joins the two. The caller is of the
organization. -/
structure Clear (o : Others) (s : TenantDb) (agent : TenantAgent) : Prop where
  fits : o.Fits s.db
  placement : o.FitsPlacement s.placement
  mains : ∀ a ∈ s.agents, a.boardId = none → ∀ g, s.gateways.get? a.gatewayId = some g →
    o.agent a.id = decide (g.organizationId ≠ o.organizationId)
  apart : o.Apart s.db
  caller : o.agent agent.id = false
  found : s.agents.get? agent.id = some agent
  gateway : s.gatewayOrganization agent.gatewayId = some o.organizationId

/-! ## Views -/

theorem db_boards_get? (s : TenantDb) (boardId : Uuid) :
    s.db.boards.get? boardId = (s.boards.get? boardId).map BoardRow.toBoard :=
  Table.get?_view (f := BoardRow.toBoard) (fun _ => rfl) boardId

theorem placement_agents_get? (s : TenantDb) (agentId : Uuid) :
    s.placement.agents.get? agentId = (s.agents.get? agentId).map TenantAgent.toPlacedAgent :=
  Table.get?_view (f := TenantAgent.toPlacedAgent) (fun _ => rfl) agentId

theorem boardOrganization_eq (s : TenantDb) (boardId : Uuid) :
    s.boardOrganization boardId = (s.db.boards.get? boardId).map (·.organizationId) := by
  rw [db_boards_get?, Option.map_map]
  rfl

section Without
variable {o : Others} {s : TenantDb} {agent : TenantAgent} {gateways : GatewayAnswers}

/-! ## Rows -/

theorem agents_get?_without {agentId : Uuid} (hagent : o.agent agentId = false) :
    (s.without o).agents.get? agentId = s.agents.get? agentId := by
  apply Table.get?_part
  rintro a _ rfl
  exact hagent

theorem gateways_get?_without {gatewayId : Uuid} (h : s.gatewayOrganization gatewayId = some o.organizationId) :
    (s.without o).gateways.get? gatewayId = s.gateways.get? gatewayId := by
  obtain ⟨gateway, hget, hown⟩ := Option.map_eq_some_iff.mp h
  rw [hget]
  apply Table.get?_part_of_get? hget
  simpa using hown

section Clear
variable (hclear : Clear o s agent)
include hclear

variable {boardId : Uuid} {commits commits' : Except Failure (List Db)}

theorem Clear.board (hon : agent.boardId = some boardId) : o.board boardId = false := by
  have hmem : agent.toPlacedAgent ∈ s.placement.agents := List.mem_map_of_mem (Table.mem_of_get? hclear.found)
  exact (hclear.placement.agents _ hmem boardId hon).symm.trans hclear.caller

variable {board : BoardRow}

section Board
variable {boardId : Uuid} (hboard : o.board boardId = false)
include hboard

theorem Clear.boards_get?_without : (s.without o).boards.get? boardId = s.boards.get? boardId := by
  apply Table.get?_part
  rintro b hb rfl
  exact (hclear.placement.boards b hb).symm.trans hboard

theorem Clear.organizationId_of_get? (h : s.boards.get? boardId = some board) :
    board.organizationId = o.organizationId :=
  AgentDb.organizationId_of_boards_get? hclear.placement hboard h

/-! ## Guards -/

theorem Clear.boardOfPath_without : boardOfPath (s.without o) agent boardId = boardOfPath s agent boardId := by
  unfold boardOfPath
  rw [hclear.boards_get?_without hboard]

theorem Clear.boardOfLead_without : boardOfLead (s.without o) agent boardId = boardOfLead s agent boardId := by
  unfold boardOfLead
  rw [hclear.boardOfPath_without hboard]

theorem Clear.taskOfPath_without (taskId : Uuid) :
    taskOfPath (s.without o) agent boardId taskId = taskOfPath s agent boardId taskId := by
  unfold taskOfPath getBoardForActorRead
  rw [db_without]
  apply bind_congr_ok (getBoardForActor_agent_without hboard hclear.fits false agent.toAgent)
  intro board hfound
  rw [getTaskOr404_without hboard (getBoardForActor_eq_ok hfound).2]

end Board

omit hclear in
theorem boardOfPath_eq_ok (h : boardOfPath s agent boardId = .ok board) :
    s.boards.get? boardId = some board ∧ board.id = boardId ∧ ∀ id ∈ agent.boardId, id = boardId := by
  simp only [boardOfPath, guardBoardAccess, requireBoardWriteAccess, bind_eq_ok, orFail_eq_ok, require_eq_ok,
    pure_eq_ok] at h
  obtain ⟨board, hget, _, hguard, rfl⟩ := h
  have hid : board.id = boardId := Table.key_of_get? hget
  refine ⟨hget, hid, fun id hon => ?_⟩
  rw [Option.mem_def.mp hon] at hguard
  simpa [hid] using hguard

omit hclear in
theorem taskOfPath_eq_ok {taskId : Uuid} {task : Task} (h : taskOfPath s agent boardId taskId = .ok task) :
    s.rows.tasks.get? taskId = some task ∧ task.id = taskId ∧ task.boardId = some boardId ∧
      ∃ board, s.db.boards.get? boardId = some board := by
  simp only [taskOfPath, bind_eq_ok, pure_eq_ok] at h
  obtain ⟨board, hboard, task, htask, _, -, rfl⟩ := h
  obtain ⟨hget, rfl⟩ := getBoardForActor_eq_ok hboard
  obtain ⟨htaskGet, hid, hon⟩ := getTaskOr404_eq_ok htask
  exact ⟨htaskGet, hid, hon, board, hget⟩

/-! ## Reading -/

omit hclear in
theorem listBoards_without_of_main {gateway : OrgGateway} (horg : gateway.organizationId = o.organizationId) :
    ((s.without o).boards.rows.filter fun b => b.organizationId = gateway.organizationId) =
      s.boards.rows.filter fun b => b.organizationId = gateway.organizationId := by
  apply Table.filter_part
  intro b _ hsel
  rw [of_decide_eq_true hsel, horg]
  simp

theorem Clear.listBoards_without : listBoards (s.without o) agent = listBoards s agent := by
  unfold listBoards
  cases hon : agent.boardId with
  | some boardId =>
    have hboard := hclear.board hon
    dsimp only
    rw [show ((s.without o).boards.rows.filter fun b => b.id = boardId) = s.boards.rows.filter fun b => b.id = boardId
      from Table.filter_part fun b hb hsel => by
        have hforeign := hclear.placement.boards b hb
        rw [of_decide_eq_true hsel, hboard] at hforeign
        exact hforeign.symm]
  | none =>
    dsimp only
    rw [gateways_get?_without hclear.gateway]
    apply bind_congr_ok rfl
    intro gateway hfound
    have hgateway := hclear.gateway
    unfold gatewayOrganization at hgateway
    rw [orFail_eq_ok.mp hfound] at hgateway
    rw [listBoards_without_of_main (Option.some.inj hgateway)]

theorem Clear.agents_onBoard_without (hboard : o.board boardId = false) :
    ((s.without o).agents.rows.filter fun a => a.boardId = some boardId) =
      s.agents.rows.filter fun a => a.boardId = some boardId := by
  apply Table.filter_part
  intro a ha hsel
  have hmem : a.toPlacedAgent ∈ s.placement.agents := List.mem_map_of_mem ha
  exact (hclear.placement.agents _ hmem boardId (of_decide_eq_true hsel)).trans hboard

theorem Clear.listAgents_without {boardId : Option Uuid} (hown : boardId = none → agent.boardId.isSome = true)
    (hboard : ∀ id ∈ boardId, o.board id = false) :
    listAgents (s.without o) agent boardId = listAgents s agent boardId := by
  unfold listAgents
  cases hon : agent.boardId with
  | some ownBoardId =>
    simp only [pure_bind]
    rw [hclear.agents_onBoard_without (hclear.board hon)]
  | none =>
    cases boardId with
    | some id =>
      simp only [pure_bind]
      rw [hclear.agents_onBoard_without (hboard id rfl)]
    | none =>
      rw [hon] at hown
      cases hown rfl

omit hclear in
theorem listTags_without (horg : board.organizationId = o.organizationId) :
    ((s.without o).rows.tags.rows.filter fun t => t.organizationId = board.organizationId) =
      s.rows.tags.rows.filter fun t => t.organizationId = board.organizationId := by
  apply Table.filter_part
  intro t _ hsel
  rw [of_decide_eq_true hsel, horg]
  simp

omit hclear in
theorem getWebhookPayload_without (hboard : o.board boardId = false) (webhookId payloadId : Uuid) :
    getWebhookPayload (s.without o) boardId webhookId payloadId = getWebhookPayload s boardId webhookId payloadId := by
  unfold getWebhookPayload
  show orFail (((s.webhookPayloads.deleteWhere _).get? payloadId).filter _) _ = _
  rw [Table.get?_deleteWhere, Option.filter_filter]
  congr 2
  funext p
  by_cases hon : p.boardId = boardId
  · simp [hon, hboard]
  · simp [hon]

omit hclear in
theorem listBoardMemory_without (hboard : o.board boardId = false) (isChat : Option Bool) :
    listBoardMemory (s.without o) boardId isChat = listBoardMemory s boardId isChat := by
  unfold listBoardMemory
  congr 1
  apply Table.filter_part
  intro m _ hsel
  simp only [Bool.and_eq_true, decide_eq_true_eq] at hsel
  rw [hsel.1.1, hboard]

/-! ## Memory and onboarding -/

omit hclear in
theorem createBoardMemory_without (now : Time) (hboard : o.board boardId = false) {memoryId : Uuid}
    (hnew : ∀ m ∈ s.memory, m.id = memoryId → o.board m.boardId = false) (payload : BoardMemoryCreate) :
    ((createBoardMemory (s.without o) now boardId memoryId agent payload).map fun r => r.2) =
      (createBoardMemory s now boardId memoryId agent payload).map fun r => r.2 := by
  unfold createBoardMemory
  dsimp only
  have hinsert : ∀ entry : BoardMemory, o.board entry.boardId = false → entry.id = memoryId →
      ((do
        let memory ← orFail ((s.without o).memory.insert? entry) .integrityError
        return ({ s.without o with memory }, entry) : Except Failure (TenantDb × BoardMemory)).map fun r => r.2) =
      ((do
        let memory ← orFail (s.memory.insert? entry) .integrityError
        return ({ s with memory }, entry) : Except Failure (TenantDb × BoardMemory)).map fun r => r.2) := by
    intro entry hshown hid
    rw [show (s.without o).memory.insert? entry = _ from
      Table.insert?_part hshown fun m hm hk => hnew m hm (Eq.trans hk hid)]
    cases s.memory.insert? entry <;> rfl
  exact hinsert _ hboard rfl

omit hclear in
theorem getGatewayForBoard_without (horg : board.organizationId = o.organizationId) :
    getGatewayForBoard (s.without o).placement board = getGatewayForBoard s.placement board := by
  rw [placement_without, AgentDb.getGatewayForBoard_without horg]

omit hclear in
theorem latestOnboarding_without (hboard : o.board boardId = false) :
    latestOnboarding (s.without o).onboardingSessions boardId = latestOnboarding s.onboardingSessions boardId := by
  unfold latestOnboarding
  congr 1
  apply Table.filter_part
  intro session _ hsel
  rw [of_decide_eq_true hsel, hboard]

omit hclear in
theorem agentOnboardingUpdate_without (now : Time) (hboard : o.board board.id = false)
    (horg : board.organizationId = o.organizationId) (payload : BoardOnboardingAgentUpdate) :
    ((agentOnboardingUpdate (s.without o) now board agent payload).map fun r => r.2) =
      (agentOnboardingUpdate s now board agent payload).map fun r => r.2 := by
  unfold agentOnboardingUpdate
  rw [getGatewayForBoard_without horg, latestOnboarding_without hboard]
  apply bind_congr_image rfl
  intro _ _
  have hstored : ∀ onboarding : BoardOnboardingSession,
      ((do
        require (onboarding.status ≠ "confirmed") (.status 409)
        let updated := onboarding.updated now now payload
        return ({ s.without o with onboardingSessions := (s.without o).onboardingSessions.put updated }, updated) :
          Except Failure (TenantDb × BoardOnboardingSession)).map fun r => r.2) =
      ((do
        require (onboarding.status ≠ "confirmed") (.status 409)
        let updated := onboarding.updated now now payload
        return ({ s with onboardingSessions := s.onboardingSessions.put updated }, updated) :
          Except Failure (TenantDb × BoardOnboardingSession)).map fun r => r.2) :=
    fun onboarding => bind_congr_image rfl fun _ _ => rfl
  cases getGatewayForBoard s.placement board with
  | none => exact bind_congr_image rfl fun onboarding _ => hstored onboarding
  | some gateway =>
    exact bind_congr_image rfl fun _ _ => bind_congr_image rfl fun onboarding _ => hstored onboarding

/-! ## What is answered -/

omit hclear in
theorem answer_stored_without {answer : Db → Except Failure AgentAnswer}
    (hcommits : commits' = commits.map fun ts => ts.map (·.without o))
    (hanswer : ∀ ts, commits = .ok ts → answer ((ts.getLastD s.db).without o) = answer (ts.getLastD s.db)) :
    (TenantResponse.stored (s.without o) commits' answer).answer = (TenantResponse.stored s commits answer).answer := by
  subst hcommits
  cases commits with
  | error e => rfl
  | ok ts =>
    show answer ((ts.map (·.without o)).getLastD (s.without o).db) = answer (ts.getLastD s.db)
    rw [db_without, show (ts.map (·.without o)).getLastD (s.db.without o) = (ts.getLastD s.db).without o by
      rw [List.getLastD_eq_getLast?, List.getLastD_eq_getLast?, List.getLast?_map]
      cases ts.getLast? <;> rfl]
    exact hanswer ts rfl

omit hclear in
theorem answer_stored_of_errors {s' : TenantDb} (hcommits : (commits'.map fun _ => ()) = commits.map fun _ => ())
    (answer : AgentAnswer) :
    (TenantResponse.stored s' commits' fun _ => .ok answer).answer =
      (TenantResponse.stored s commits fun _ => .ok answer).answer := by
  cases commits <;> cases commits' <;> cases hcommits <;> rfl

omit hclear in
theorem answer_changed {α : Type} {x x' : Except Failure (TenantDb × α)}
    (h : (x'.map fun r => r.2) = x.map fun r => r.2) (answer : α → AgentAnswer) :
    (TenantResponse.changed x' answer).answer = (TenantResponse.changed x answer).answer := by
  cases x <;> cases x'
  · cases h
    rfl
  · cases h
  · cases h
  · exact congrArg (fun row => Except.ok (answer row)) (Except.ok.inj h)

/-! ## Tasks and comments -/

section Task
variable {env : TenantEnv} {now : Time} {boardId taskId : Uuid} (hboard : o.board boardId = false)
include hboard

omit hclear in
theorem committedTask_without {db : Db} (hfits : o.Fits db) (htags : o.TagsApart db) (htask : o.task taskId = false) :
    committedTask boardId taskId (db.without o) = committedTask boardId taskId db := by
  unfold committedTask
  rw [tasks_get?_of_shown hfits htask]
  apply bind_congr_ok rfl
  intro task hfound
  have hshown : o.task task.id = false := by
    rw [show task.id = taskId from Table.key_of_get? (orFail_eq_ok.mp hfound), htask]
  rw [taskReadResponse_without hboard hfits htags hshown]

theorem Clear.task_of_found {board : Board} (h : FoundTask s.db boardId taskId board) : o.task taskId = false := by
  obtain ⟨task, hget, hon⟩ := h.task
  have howner := hclear.fits.tasks task (Table.mem_of_get? hget)
  rw [show task.id = taskId from Table.key_of_get? hget, hon, Option.any_some, hboard] at howner
  exact howner

theorem Clear.committedTask_without_of_writes {board : Board} (hget : s.db.boards.get? boardId = some board)
    (htask : o.task taskId = false) {ts : List Db}
    (hwrites : ∀ t ∈ ts, TaskWrites boardId taskId board.organizationId s.db t) :
    committedTask boardId taskId ((ts.getLastD s.db).without o) = committedTask boardId taskId (ts.getLastD s.db) := by
  rcases Machine.getLastD_mem_or_eq ts s.db with hlast | hnone
  · have hwrote := hwrites _ hlast
    rw [SiloForge.organizationId_of_boards_get? hboard hclear.fits hget] at hwrote
    exact committedTask_without hboard (hwrote.fits hboard htask hclear.fits)
      (hwrote.tagsApart htask hclear.apart.tags) htask
  · rw [hnone]
    exact committedTask_without hboard hclear.fits hclear.apart.tags htask

theorem Clear.createTask_without (htask : o.task taskId = false) (payload : TaskCreate)
    (hassigned : ∀ id ∈ payload.assignedAgentId, o.agent id = false) :
    (callEndpoint env gateways (s.without o) now agent (.createTask boardId taskId payload)).answer =
      (callEndpoint env gateways s now agent (.createTask boardId taskId payload)).answer := by
  apply answer_stored_without
  · rw [db_without]
    exact createTaskAsLead_without hboard hclear.fits env.texts now htask hclear.caller payload hassigned
  · intro ts hcommits
    obtain ⟨board, hget, -, hwrites⟩ := createTaskAsLead_writes hcommits
    exact hclear.committedTask_without_of_writes hboard hget htask fun t ht => (hwrites t ht).1

theorem Clear.updateTask_without (payload : TaskUpdate)
    (hassigned : ∀ id ∈ payload.assignedAgentId.join, o.agent id = false) :
    (callEndpoint env gateways (s.without o) now agent (.updateTask boardId taskId payload)).answer =
      (callEndpoint env gateways s now agent (.updateTask boardId taskId payload)).answer := by
  apply answer_stored_without
  · apply bind_congr_map (hclear.taskOfPath_without hboard taskId)
    intro _ _
    rw [db_without]
    exact SiloForge.updateTask_without hboard hclear.fits env.texts now taskId hclear.caller payload hassigned
  · intro ts hcommits
    obtain ⟨_, -, hupdate⟩ := bind_eq_ok.mp hcommits
    obtain ⟨board, hfound, hwrites⟩ := updateTask_writes hupdate
    exact hclear.committedTask_without_of_writes hboard hfound.board (hclear.task_of_found hboard hfound) hwrites

theorem Clear.deleteTask_without :
    (callEndpoint env gateways (s.without o) now agent (.deleteTask boardId taskId)).answer =
      (callEndpoint env gateways s now agent (.deleteTask boardId taskId)).answer := by
  apply answer_stored_of_errors
  apply bind_congr_image (hclear.taskOfPath_without hboard taskId)
  intro _ _
  rw [map_bind_pure, map_bind_pure, db_without]
  exact SiloForge.deleteTask_without hboard hclear.fits taskId hclear.caller

theorem Clear.createTaskComment_without (message : String) :
    (callEndpoint env gateways (s.without o) now agent (.createTaskComment boardId taskId message)).answer =
      (callEndpoint env gateways s now agent (.createTaskComment boardId taskId message)).answer := by
  apply answer_stored_without
  · apply bind_congr_map (hclear.taskOfPath_without hboard taskId)
    intro _ _
    rw [db_without]
    exact bind_eq_map _ (SiloForge.createTaskComment_without hboard hclear.fits env.texts now taskId hclear.caller message)
      fun t _ => rfl
  · intro ts hcommits
    simp only [bind_eq_ok, pure_eq_ok] at hcommits
    obtain ⟨_, -, t, hcomment, rfl⟩ := hcommits
    obtain ⟨board, hfound, comment, -, habout, rfl⟩ := createTaskComment_writes hcomment
    have hshown : o.event comment = false := by
      unfold Others.event
      rw [habout]
      exact hclear.task_of_found hboard hfound
    unfold committedComment Db.without
    simp [hshown]

theorem Clear.createApproval_without {approvalId : Uuid} (happroval : o.approval approvalId = false)
    (payload : ApprovalCreate) (hrequester : ∀ id ∈ payload.agentId, o.agent id = false)
    (htasks : ∀ id ∈ payload.namedTaskIds, o.task id = false) :
    (callEndpoint env gateways (s.without o) now agent (.createApproval boardId approvalId payload)).answer =
      (callEndpoint env gateways s now agent (.createApproval boardId approvalId payload)).answer := by
  apply answer_stored_without
  · apply bind_congr_map (hclear.boardOfPath_without hboard)
    intro _ _
    rw [db_without]
    exact bind_eq_map _ (SiloForge.createApproval_without hboard hclear.fits now happroval hclear.caller payload
      hrequester htasks) fun t _ => rfl
  · intro ts hcommits
    simp only [bind_eq_ok, pure_eq_ok] at hcommits
    obtain ⟨_, -, t, hcreate, rfl⟩ := hcommits
    obtain ⟨checked, -, hstore⟩ := createApproval_eq_ok hcreate
    obtain ⟨approvals, links, hinsert, -, rfl⟩ := storeApproval_eq_ok hstore
    have hnew : (approvals.deleteWhere fun a => o.board a.boardId).get? approvalId = approvals.get? approvalId := by
      apply Table.get?_part
      intro a ha hid
      rcases (Table.mem_insert? hinsert).mp ha with hold | rfl
      · exact absurd hid (Table.get?_eq_none.mp (Table.insert?_eq_some hinsert).2 a hold)
      · exact hboard
    unfold committedApproval
    show (orFail ((approvals.deleteWhere fun a => o.board a.boardId).get? approvalId) _ >>= _) = _
    rw [hnew]
    apply bind_congr_ok rfl
    intro approval _
    apply bind_congr_ok rfl
    intro checked' hchecked
    have hnamed : ∀ id ∈ normalizeTaskIds checked'.taskId checked'.taskIds checked'.payload, o.task id = false := by
      unfold ApprovalCreate.namedTaskIds at htasks
      rw [hchecked] at htasks
      exact htasks
    have htitles : ∀ id ∈ normalizeTaskIds checked'.taskId checked'.taskIds checked'.payload,
        ((s.db.without o).tasks.get? id).map (·.title) = (s.db.tasks.get? id).map (·.title) := by
      intro id hid
      rw [tasks_get?_of_shown hclear.fits (hnamed id hid)]
    exact congrArg (fun titles => Except.ok (AgentAnswer.approvals [approvalToRead approval _ titles]))
      (List.filterMap_congr htitles)

end Task

/-! ## Agents of a board -/

omit hclear in
theorem boardAgentOr404_without (board : BoardRow) {agentId : Uuid} (hagent : o.agent agentId = false) :
    boardAgentOr404 (s.without o) board agentId = boardAgentOr404 s board agentId := by
  unfold boardAgentOr404
  rw [agents_get?_without hagent]

omit hclear in
theorem requireGatewayConfigForBoard_without (horg : board.organizationId = o.organizationId) :
    requireGatewayConfigForBoard (s.without o) board = requireGatewayConfigForBoard s board := by
  unfold requireGatewayConfigForBoard
  rw [getGatewayForBoard_without horg]

omit hclear in
theorem requireGatewayConfigForBoard_eq_ok {gateway : OrgGateway}
    (h : requireGatewayConfigForBoard s board = .ok gateway) :
    s.gateways.get? gateway.id = some gateway ∧ gateway.organizationId = board.organizationId := by
  simp only [requireGatewayConfigForBoard, requireClientConfig, bind_eq_ok, orFail_eq_ok, pure_eq_ok] at h
  obtain ⟨_, -, gateway, hfound, _, -, rfl⟩ := h
  obtain ⟨hbind, hown⟩ := Option.filter_eq_some_iff.mp hfound
  obtain ⟨gatewayId, -, hget⟩ := Option.bind_eq_some_iff.mp hbind
  have hget : s.gateways.get? gatewayId = some gateway := hget
  obtain rfl : gateway.id = gatewayId := Table.key_of_get? hget
  exact ⟨hget, of_decide_eq_true hown⟩

omit hclear in
theorem boardOfLead_eq_ok (h : boardOfLead s agent boardId = .ok board) :
    boardOfPath s agent boardId = .ok board := by
  simp only [boardOfLead, bind_eq_ok, pure_eq_ok] at h
  obtain ⟨board, hpath, _, -, rfl⟩ := h
  exact hpath

theorem Clear.organizationId_of_boardOfPath (hboard : o.board boardId = false)
    (h : boardOfPath s agent boardId = .ok board) : board.organizationId = o.organizationId :=
  hclear.organizationId_of_get? hboard (boardOfPath_eq_ok h).1

section Agent
variable {env : TenantEnv} {now : Time} {boardId agentId : Uuid} (hboard : o.board boardId = false)
  (hagent : o.agent agentId = false)
include hboard

theorem Clear.getAgentSoul_without (hagent : o.agent agentId = false) :
    (callEndpoint env gateways (s.without o) now agent (.getAgentSoul boardId agentId)).answer =
      (callEndpoint env gateways s now agent (.getAgentSoul boardId agentId)).answer := by
  apply bind_congr_ok (hclear.boardOfPath_without hboard)
  intro board hfound
  unfold getAgentSoul
  rw [boardAgentOr404_without board hagent,
    requireGatewayConfigForBoard_without (hclear.organizationId_of_boardOfPath hboard hfound)]

theorem Clear.nudgeAgent_without (hagent : o.agent agentId = false) :
    (callEndpoint env gateways (s.without o) now agent (.nudgeAgent boardId agentId)).answer =
      (callEndpoint env gateways s now agent (.nudgeAgent boardId agentId)).answer := by
  apply bind_congr_ok (hclear.boardOfLead_without hboard)
  intro board hfound
  have horg := hclear.organizationId_of_boardOfPath hboard (boardOfLead_eq_ok hfound)
  unfold nudgeBoardAgent
  rw [boardAgentOr404_without board hagent, requireGatewayConfigForBoard_without horg]

theorem Clear.updateAgentSoul_without (hagent : o.agent agentId = false) (content : String) :
    (callEndpoint env gateways (s.without o) now agent (.updateAgentSoul boardId agentId content)).answer =
      (callEndpoint env gateways s now agent (.updateAgentSoul boardId agentId content)).answer := by
  unfold callEndpoint
  dsimp only
  rw [hclear.boardOfLead_without hboard]
  cases hlead : boardOfLead s agent boardId with
  | error e => rfl
  | ok board =>
    have horg := hclear.organizationId_of_boardOfPath hboard (boardOfLead_eq_ok hlead)
    unfold updateAgentSoul
    dsimp only
    rw [boardAgentOr404_without board hagent, requireGatewayConfigForBoard_without horg]
    split <;> rfl

theorem Clear.askUserViaGatewayMain_without :
    (callEndpoint env gateways (s.without o) now agent (.askUserViaGatewayMain boardId)).answer =
      (callEndpoint env gateways s now agent (.askUserViaGatewayMain boardId)).answer := by
  apply bind_congr_ok (hclear.boardOfLead_without hboard)
  intro board hfound
  have horg := hclear.organizationId_of_boardOfPath hboard (boardOfLead_eq_ok hfound)
  unfold askUserViaGatewayMain
  apply bind_congr_ok (requireGatewayConfigForBoard_without horg)
  intro gateway hgateway
  apply bind_congr_ok rfl
  intro _ _
  have hmain : ((s.without o).placement.agents.rows.find? fun a => a.gatewayId = gateway.id ∧ a.boardId = none) =
      s.placement.agents.rows.find? fun a => a.gatewayId = gateway.id ∧ a.boardId = none := by
    rw [placement_without]
    apply Table.find?_part
    intro a ha hsel
    obtain ⟨row, hrow, rfl⟩ := List.mem_map.mp ha
    obtain ⟨hof, hnone⟩ := of_decide_eq_true hsel
    obtain ⟨hget, hown⟩ := requireGatewayConfigForBoard_eq_ok hgateway
    have hforeign := hclear.mains row hrow hnone gateway (hof ▸ hget)
    rw [hforeign, hown, horg]
    simp
  rw [hmain]

end Agent

end Clear

end Without

end TenantDb

end SiloForge
