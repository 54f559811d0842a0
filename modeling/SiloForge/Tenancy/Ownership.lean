import SiloForge.Tenancy.Leads

/-!
# What a call returns

Where rows of different organizations are not joined, a call that names rows of its organization only returns rows of
its organization.

* `TenantDb.Closed` : rows that are joined belong to one organization; `Closed.clear`;
* `AgentAnswer.OwnedBy` : the boards, tasks, agents and comments of an answer are an organization's;
* `ownedBy_callEndpoint` : what is returned.
-/

namespace SiloForge

open Lib

/-- Rows that are joined belong to one organization. -/
structure TenantDb.Closed (s : TenantDb) : Prop where
  gateways : ∀ b ∈ s.boards, ∀ g ∈ s.gateways, b.gatewayId = some g.id → g.organizationId = b.organizationId
  agents : ∀ a ∈ s.agents, ∃ organizationId, s.agentOrganization a.toPlacedAgent = some organizationId ∧
    s.gatewayOrganization a.gatewayId = some organizationId
  tags : ∀ a ∈ s.rows.tagAssignments, ∀ t ∈ s.rows.tags, a.tagId = t.id →
    s.taskIdOrganization a.taskId = some t.organizationId
  links : ∀ l ∈ s.rows.approvalTaskLinks, s.approvalIdOrganization l.approvalId = s.taskIdOrganization l.taskId
  approvals : ∀ a ∈ s.rows.approvals, ∀ taskId ∈ a.taskId, s.boardOrganization a.boardId = s.taskIdOrganization taskId
  assignees : ∀ t ∈ s.rows.tasks, ∀ agentId ∈ t.assignedAgentId, s.taskOrganization t = s.agentIdOrganization agentId
  authors : ∀ e ∈ s.rows.events, e.eventType = .taskComment → ∀ agentId ∈ e.agentId,
    s.eventOrganization e = s.agentIdOrganization agentId
  runs : ∀ r ∈ s.rows.runs, ∀ agentId ∈ r.requestedByAgentId,
    s.taskIdOrganization r.taskId = s.agentIdOrganization agentId

def AgentAnswer.OwnedBy (s : TenantDb) (organizationId : Uuid) : AgentAnswer → Prop
  | .agents rows => ∀ a ∈ rows, s.agentOrganization a.toPlacedAgent = some organizationId
  | .boards rows => ∀ b ∈ rows, b.organizationId = organizationId
  | .tasks reads => ∀ t ∈ reads, t.boardId.bind s.boardOrganization = some organizationId
  | .comments events => ∀ e ∈ events, s.eventOrganization e = some organizationId
  | .mainAgent boardId row =>
    s.boardOrganization boardId = some organizationId ∧ ∀ a ∈ row, s.agentOrganization a = some organizationId
  | .leads results => ∀ r ∈ results, s.boardOrganization r.boardId = some organizationId ∧
    ∀ lead isNew, r.lead = .ok (lead, isNew) → s.agentOrganization lead = some organizationId
  | .ok | .tags _ | .webhookPayload _ | .memory _ | .approvals _ | .onboarding _ | .soul _ => True

namespace TenantDb

variable {a : TenantAgent}

section Owners
variable {s : TenantDb} {organizationId : Uuid}

/-! ## Owners of rows -/

theorem boardOrganization_of_mem {b : BoardRow} (h : b ∈ s.boards) : s.boardOrganization b.id = some b.organizationId := by
  have hget : s.boards.get? b.id = some b := Table.get?_eq_some.mpr ⟨h, rfl⟩
  unfold boardOrganization
  rw [hget]
  rfl

theorem agentIdOrganization_of_mem (h : a ∈ s.agents) :
    s.agentIdOrganization a.id = s.agentOrganization a.toPlacedAgent := by
  have hget : s.agents.get? a.id = some a := Table.get?_eq_some.mpr ⟨h, rfl⟩
  unfold agentIdOrganization
  rw [hget]
  rfl

theorem taskIdOrganization_of_mem {t : Task} (h : t ∈ s.rows.tasks) : s.taskIdOrganization t.id = s.taskOrganization t := by
  have hget : s.rows.tasks.get? t.id = some t := Table.get?_eq_some.mpr ⟨h, rfl⟩
  unfold taskIdOrganization
  rw [hget]
  rfl

theorem approvalIdOrganization_of_mem {a : Approval} (h : a ∈ s.rows.approvals) :
    s.approvalIdOrganization a.id = s.boardOrganization a.boardId := by
  have hget : s.rows.approvals.get? a.id = some a := Table.get?_eq_some.mpr ⟨h, rfl⟩
  unfold approvalIdOrganization
  rw [hget]
  rfl

theorem agentOrganization_of_boardId {a : PlacedAgent} {boardId : Uuid} (h : a.boardId = some boardId) :
    s.agentOrganization a = s.boardOrganization boardId := by
  unfold agentOrganization
  rw [h]

theorem agentOrganization_of_main {a : PlacedAgent} (h : a.boardId = none) :
    s.agentOrganization a = s.gatewayOrganization a.gatewayId := by
  unfold agentOrganization
  rw [h]

theorem others_fits (s : TenantDb) (organizationId : Uuid) : (s.others organizationId).Fits s.db where
  boards b hb := by
    have hget : s.db.boards.get? b.id = some b := Table.get?_eq_some.mpr ⟨hb, rfl⟩
    show (s.boardOrganization b.id).any _ = _
    rw [boardOrganization_eq, hget]
    rfl
  agents a ha boardId hon := by
    obtain ⟨row, hrow, rfl⟩ := List.mem_map.mp ha
    show (s.agentIdOrganization row.id).any _ = (s.boardOrganization boardId).any _
    rw [agentIdOrganization_of_mem hrow, agentOrganization_of_boardId hon]
  tasks t ht := by
    show (s.taskIdOrganization t.id).any _ = t.boardId.any fun boardId => (s.boardOrganization boardId).any _
    rw [taskIdOrganization_of_mem ht]
    unfold taskOrganization
    cases t.boardId <;> rfl
  approvals a ha := by
    show (s.approvalIdOrganization a.id).any _ = (s.boardOrganization a.boardId).any _
    rw [approvalIdOrganization_of_mem ha]

end Owners

section Closed
variable {s : TenantDb} {organizationId : Uuid} (hclosed : s.Closed)
include hclosed

theorem Closed.fitsPlacement (organizationId : Uuid) : (s.others organizationId).FitsPlacement s.placement where
  boards b hb := by
    show (s.boardOrganization b.id).any _ = _
    rw [boardOrganization_of_mem hb]
    rfl
  agents a ha boardId hon := by
    obtain ⟨row, hrow, rfl⟩ := List.mem_map.mp ha
    show (s.agentIdOrganization row.id).any _ = (s.boardOrganization boardId).any _
    rw [agentIdOrganization_of_mem hrow, agentOrganization_of_boardId hon]
  gateways := hclosed.gateways

theorem Closed.apart (organizationId : Uuid) : (s.others organizationId).Apart s.db where
  tags a ha t ht hid := by
    show (s.taskIdOrganization a.taskId).any _ = _
    rw [hclosed.tags a ha t ht hid]
    rfl
  links l hl := by
    show (s.approvalIdOrganization l.approvalId).any _ = (s.taskIdOrganization l.taskId).any _
    rw [hclosed.links l hl]
  approvals a ha taskId hown := by
    show (s.approvalIdOrganization a.id).any _ = (s.taskIdOrganization taskId).any _
    rw [approvalIdOrganization_of_mem ha, hclosed.approvals a ha taskId hown]
  runs r hr agentId hrequested := by
    show (s.taskIdOrganization r.taskId).any _ = (s.agentIdOrganization agentId).any _
    rw [hclosed.runs r hr agentId hrequested]

theorem Closed.agentOrganization_of_shown (h : a ∈ s.agents)
    (hshown : (s.others organizationId).agent a.id = false) : s.agentOrganization a.toPlacedAgent = some organizationId := by
  obtain ⟨owner, howner, -⟩ := hclosed.agents a h
  have hagent : (s.agentIdOrganization a.id).any (· ≠ organizationId) = false := hshown
  rw [agentIdOrganization_of_mem h, howner] at hagent
  rw [howner]
  simpa using hagent

theorem Closed.clear {agent : TenantAgent} (hfound : s.agents.get? agent.id = some agent)
    (hgateway : s.gatewayOrganization agent.gatewayId = some organizationId) :
    Clear (s.others organizationId) s agent where
  fits := others_fits s organizationId
  placement := hclosed.fitsPlacement organizationId
  mains a ha hnone g hget := by
    show (s.agentIdOrganization a.id).any _ = _
    rw [agentIdOrganization_of_mem ha, agentOrganization_of_main hnone]
    unfold gatewayOrganization
    rw [hget]
    rfl
  apart := hclosed.apart organizationId
  caller := by
    have hmem := Table.mem_of_get? hfound
    obtain ⟨owner, howner, howner'⟩ := hclosed.agents agent hmem
    show (s.agentIdOrganization agent.id).any _ = _
    rw [agentIdOrganization_of_mem hmem, howner, ← howner', hgateway]
    simp
  found := hfound
  gateway := hgateway

end Closed

/-! ## Rows of the caller's organization -/

theorem eq_some_of_shown {owner : Option Uuid} {organizationId : Uuid} (hshown : owner.any (· ≠ organizationId) = false)
    {id : Uuid} (howner : owner = some id) : id = organizationId := by
  subst howner
  simpa using hshown

section Shown
variable {s : TenantDb} {organizationId : Uuid} {agent : TenantAgent} {boardId taskId : Uuid}

section Board
variable (hboard : (s.others organizationId).board boardId = false)
include hboard

theorem boardOrganization_of_shown {board : BoardRow} (hget : s.boards.get? boardId = some board) :
    s.boardOrganization boardId = some organizationId := by
  have howner : s.boardOrganization boardId = some board.organizationId := by
    unfold boardOrganization
    rw [hget]
    rfl
  rw [howner, eq_some_of_shown hboard howner]

theorem boardOrganization_of_db_get? {board : Board} (hget : s.db.boards.get? boardId = some board) :
    s.boardOrganization boardId = some organizationId := by
  rw [db_boards_get?] at hget
  obtain ⟨row, hrow, -⟩ := Option.map_eq_some_iff.mp hget
  exact boardOrganization_of_shown hboard hrow

theorem boardOfPath_owned {board : BoardRow} (h : boardOfPath s agent boardId = .ok board) :
    board.id = boardId ∧ s.boardOrganization boardId = some organizationId ∧ board.organizationId = organizationId := by
  obtain ⟨hget, hid, -⟩ := boardOfPath_eq_ok h
  have howned := boardOrganization_of_shown hboard hget
  refine ⟨hid, howned, ?_⟩
  rw [← hid, boardOrganization_of_mem (Table.mem_of_get? hget)] at howned
  exact Option.some.inj howned

theorem taskIdOrganization_of_found {board : Board} (h : FoundTask s.db boardId taskId board) :
    s.taskIdOrganization taskId = some organizationId := by
  obtain ⟨task, hget, hon⟩ := h.task
  obtain rfl : task.id = taskId := Table.key_of_get? hget
  rw [taskIdOrganization_of_mem (Table.mem_of_get? hget)]
  unfold taskOrganization
  rw [hon]
  exact boardOrganization_of_db_get? hboard h.board

end Board

/-! ## What is returned -/

variable {db : Db}

theorem boardId_of_taskReadPage {tasks : List Task} {reads : List TaskRead}
    (h : taskReadPage db boardId tasks = .ok reads) : ∀ r ∈ reads, ∃ task ∈ tasks, r.boardId = task.boardId := by
  unfold taskReadPage at h
  split at h
  · obtain rfl := Except.ok.inj h
    nofun
  · obtain ⟨values, -, h⟩ := bind_eq_ok.mp h
    obtain rfl := pure_eq_ok.mp h
    intro r hr
    obtain ⟨task, htask, rfl⟩ := List.mem_map.mp hr
    exact ⟨task, htask, rfl⟩

theorem boardId_of_agentListTasks {filters : AgentTaskListFilters} {reads : List TaskRead}
    (h : agentListTasks db boardId filters = .ok reads) : ∀ r ∈ reads, r.boardId = some boardId := by
  simp only [agentListTasks, listTasks, bind_eq_ok] at h
  obtain ⟨statuses, -, h⟩ := h
  intro r hr
  obtain ⟨task, htask, heq⟩ := boardId_of_taskReadPage h r hr
  have hstated := List.mem_mergeSort.mp (List.mem_of_mem_drop (List.mem_of_mem_take htask))
  have hon := of_decide_eq_true (List.mem_filter.mp hstated).2
  exact heq.trans hon.1

theorem taskId_of_mem_listTaskComments {e : ActivityEvent} (h : e ∈ listTaskComments db taskId) :
    e.taskId = some taskId := by
  have hmem := List.mem_mergeSort.mp h
  exact (of_decide_eq_true (List.mem_filter.mp hmem).2).1

theorem eventOrganization_of_taskId {e : ActivityEvent} (h : e.taskId = some taskId) :
    s.eventOrganization e = s.taskIdOrganization taskId := by
  unfold eventOrganization
  rw [h]

theorem committedTask_eq_ok {answer : AgentAnswer} (h : committedTask boardId taskId db = .ok answer) :
    ∃ task read, db.tasks.get? taskId = some task ∧ read.boardId = task.boardId ∧ answer = .tasks [read] := by
  simp only [committedTask, taskReadResponse, bind_eq_ok, orFail_eq_ok, pure_eq_ok] at h
  obtain ⟨task, hget, _, ⟨definitions, -, rfl⟩, rfl⟩ := h
  exact ⟨task, _, hget, rfl, rfl⟩

theorem ownedBy_committedTask (hown : s.boardOrganization boardId = some organizationId)
    (hon : ∀ task, db.tasks.get? taskId = some task → task.boardId = some boardId) {answer : AgentAnswer}
    (h : committedTask boardId taskId db = .ok answer) : answer.OwnedBy s organizationId := by
  obtain ⟨task, read, hget, hread, rfl⟩ := committedTask_eq_ok h
  intro r hr
  obtain rfl := List.mem_singleton.mp hr
  rw [hread, hon task hget]
  exact hown

section Calls
variable {env : TenantEnv} {gateways : GatewayAnswers} {now : Time} {answer : AgentAnswer} (hclosed : s.Closed)
  (hclear : Clear (s.others organizationId) s agent)
include hclear

theorem ownedBy_listBoards (h : listBoards s agent = .ok answer) : answer.OwnedBy s organizationId := by
  unfold listBoards at h
  split at h
  · rename_i boardId hon
    obtain rfl := Except.ok.inj h
    intro b hb
    obtain ⟨hmem, hid⟩ := List.mem_filter.mp hb
    obtain rfl := of_decide_eq_true hid
    exact eq_some_of_shown (hclear.board hon) (boardOrganization_of_mem hmem)
  · simp only [bind_eq_ok, orFail_eq_ok, pure_eq_ok] at h
    obtain ⟨gateway, hget, rfl⟩ := h
    intro b hb
    have hgateway := hclear.gateway
    unfold gatewayOrganization at hgateway
    rw [hget] at hgateway
    exact (of_decide_eq_true (List.mem_filter.mp hb).2).trans (Option.some.inj hgateway)

include hclosed in
theorem ownedBy_onBoard (hboard : (s.others organizationId).board boardId = false) (ha : a ∈ s.agents)
    (hon : a.boardId = some boardId) : s.agentOrganization a.toPlacedAgent = some organizationId := by
  have hmem : a.toPlacedAgent ∈ s.placement.agents := List.mem_map_of_mem ha
  exact hclosed.agentOrganization_of_shown ha ((hclear.placement.agents _ hmem boardId hon).trans hboard)

include hclosed in
theorem ownedBy_listAgents {boardId : Option Uuid} (hown : boardId = none → agent.boardId.isSome = true)
    (hboard : ∀ id ∈ boardId, (s.others organizationId).board id = false) (h : listAgents s agent boardId = .ok answer) :
    answer.OwnedBy s organizationId := by
  obtain ⟨id, hshown, rfl⟩ : ∃ id, (s.others organizationId).board id = false ∧ answer = .agents
      (newestFirst (fun a => a.createdAt) (s.agents.rows.filter fun a => a.boardId = some id)) := by
    unfold listAgents at h
    cases hon : agent.boardId with
    | some ownBoardId =>
      rw [hon] at h
      simp only [bind_eq_ok, pure_eq_ok] at h
      obtain ⟨_, -, _, rfl, rfl⟩ := h
      exact ⟨ownBoardId, hclear.board hon, rfl⟩
    | none =>
      rw [hon] at h hown
      cases boardId with
      | some id => exact ⟨id, hboard id rfl, (Except.ok.inj h).symm⟩
      | none => cases hown rfl
  intro a ha
  obtain ⟨hmem, hon⟩ := List.mem_filter.mp (List.mem_mergeSort.mp ha)
  exact ownedBy_onBoard hclosed hclear hshown hmem (of_decide_eq_true hon)

omit hclear in
theorem answer_stored_eq_ok {commits : Except Failure (List Db)} {answer : Db → Except Failure AgentAnswer}
    {a : AgentAnswer} (h : (TenantResponse.stored s commits answer).answer = .ok a) :
    ∃ ts, commits = .ok ts ∧ answer (ts.getLastD s.db) = .ok a := by
  cases commits with
  | error e => cases h
  | ok ts => exact ⟨ts, rfl, h⟩

omit hclear in
theorem ownedBy_createTask {payload : TaskCreate} (hboard : (s.others organizationId).board boardId = false)
    (h : (callEndpoint env gateways s now agent (.createTask boardId taskId payload)).answer = .ok answer) :
    answer.OwnedBy s organizationId := by
  obtain ⟨ts, hcommits, h⟩ := answer_stored_eq_ok h
  obtain ⟨board, hget, hnew, hwrites⟩ := createTaskAsLead_writes hcommits
  refine ownedBy_committedTask (boardOrganization_of_db_get? hboard hget) (fun task hfound => ?_) h
  rcases Machine.getLastD_mem_or_eq ts s.db with hlast | hnone
  · exact (hwrites _ hlast).1.boardId_of_get? hfound
  · rw [hnone, hnew] at hfound
    cases hfound

omit hclear in
theorem ownedBy_updateTask {payload : TaskUpdate} (hboard : (s.others organizationId).board boardId = false)
    (h : (callEndpoint env gateways s now agent (.updateTask boardId taskId payload)).answer = .ok answer) :
    answer.OwnedBy s organizationId := by
  obtain ⟨ts, hcommits, h⟩ := answer_stored_eq_ok h
  obtain ⟨_, -, hupdate⟩ := bind_eq_ok.mp hcommits
  obtain ⟨board, hfound, hwrites⟩ := updateTask_writes hupdate
  refine ownedBy_committedTask (boardOrganization_of_db_get? hboard hfound.board) (fun task hget => ?_) h
  rcases Machine.getLastD_mem_or_eq ts s.db with hlast | hnone
  · exact (hwrites _ hlast).boardId_of_get? hget
  · rw [hnone] at hget
    obtain ⟨task', hget', hon⟩ := hfound.task
    obtain rfl := Option.some.inj (hget'.symm.trans hget)
    exact hon

omit hclear in
theorem ownedBy_createTaskComment {message : String} (hboard : (s.others organizationId).board boardId = false)
    (h : (callEndpoint env gateways s now agent (.createTaskComment boardId taskId message)).answer = .ok answer) :
    answer.OwnedBy s organizationId := by
  obtain ⟨ts, hcommits, h⟩ := answer_stored_eq_ok h
  simp only [bind_eq_ok, pure_eq_ok] at hcommits
  obtain ⟨_, -, t, hcomment, rfl⟩ := hcommits
  obtain ⟨board, hfound, comment, -, habout, rfl⟩ := createTaskComment_writes hcomment
  obtain rfl : AgentAnswer.comments [comment] = answer := by
    simpa [committedComment] using h
  intro e he
  obtain rfl := List.mem_singleton.mp he
  rw [eventOrganization_of_taskId habout]
  exact taskIdOrganization_of_found hboard hfound

/-! ## Agents that are returned -/

variable {agentId : Uuid} {gateway : OrgGateway}

omit hclear in
theorem ownedBy_of_onlyOn {t : TenantDb} (hown : s.boardOrganization boardId = some organizationId)
    (hon : OnlyOn agentId boardId t) (hget : t.agents.get? agentId = some a) :
    s.agentOrganization a.toPlacedAgent = some organizationId := by
  have hboard := hon a (Table.mem_of_get? hget) (Table.key_of_get? hget)
  rw [agentOrganization_of_boardId hboard, hown]

include hclosed in
theorem boardOrganization_of_caller {lead : PlacedAgent} (hlead : s.placement.agents.get? agent.id = some lead)
    (hon : lead.boardId = some boardId) : s.boardOrganization boardId = some organizationId := by
  rw [placement_agents_get?, hclear.found] at hlead
  obtain rfl := Option.some.inj hlead
  rw [← agentOrganization_of_boardId hon]
  exact hclosed.agentOrganization_of_shown (Table.mem_of_get? hclear.found) hclear.caller

include hclosed in
theorem ownedBy_createAgent {payload : AgentCreate}
    (h : (callEndpoint env gateways s now agent (.createAgent agentId payload)).answer = .ok answer) :
    answer.OwnedBy s organizationId := by
  have h : (createBoardAgent env.casing gateways s agent agentId payload).answer = .ok answer := h
  rw [createBoardAgent_eq] at h
  cases hchecked : checkedWorker env.casing gateways s.placement agent agentId payload with
  | error e =>
    rw [hchecked] at h
    cases h
  | ok checked =>
    obtain ⟨writes, provisioned⟩ := checked
    rw [hchecked] at h
    dsimp only at h
    obtain ⟨lead, boardId, hlead, hleadOn, hinsert, hon⟩ := on_checkedWorker hchecked
    simp only [bind_eq_ok, orFail_eq_ok, pure_eq_ok] at h
    obtain ⟨t, hlast, _, -, created, hget, rfl⟩ := h
    intro a ha
    obtain rfl := List.mem_singleton.mp ha
    exact ownedBy_of_onlyOn (boardOrganization_of_caller hclosed hclear hlead hleadOn)
      (onlyOn_applyWrites hon (.inr hinsert) hlast) hget

omit hclear in
theorem ownedBy_askUserViaGatewayMain (hboard : (s.others organizationId).board boardId = false)
    (h : (callEndpoint env gateways s now agent (.askUserViaGatewayMain boardId)).answer = .ok answer) :
    answer.OwnedBy s organizationId := by
  obtain ⟨board, hlead, hasked⟩ := bind_eq_ok.mp h
  obtain ⟨rfl, hown, horg⟩ := boardOfPath_owned hboard (boardOfLead_eq_ok hlead)
  simp only [askUserViaGatewayMain, bind_eq_ok, pure_eq_ok] at hasked
  obtain ⟨gateway, hgateway, _, -, rfl⟩ := hasked
  obtain ⟨hget, hgatewayOrg⟩ := requireGatewayConfigForBoard_eq_ok hgateway
  refine ⟨hown, fun a ha => ?_⟩
  have hsel := List.find?_some ha
  obtain ⟨hof, hnone⟩ := of_decide_eq_true hsel
  rw [agentOrganization_of_main hnone, hof]
  unfold gatewayOrganization
  rw [hget, Option.map_some, hgatewayOrg, horg]

omit hclear in
theorem boardId_of_ensureAndMessageBoardLead {u : TenantDb} {board : BoardRow} {newId : Uuid} {lead : PlacedAgent}
    {isNew : Bool} (h : (ensureAndMessageBoardLead gateways u gateway board newId).2 = .ok (lead, isNew)) :
    lead.boardId = some board.id := by
  rw [ensureAndMessageBoardLead_eq] at h
  unfold messaged at h
  simp only [bind_eq_ok, orFail_eq_ok, pure_eq_ok] at h
  obtain ⟨t, hlast, _, -, found, hget, _, -, _, -, heq⟩ := h
  obtain ⟨rfl, -⟩ := Prod.mk.inj heq
  obtain ⟨hon, hinsert⟩ := on_leadWrites gateways u gateway board newId
  exact onlyOn_applyWrites hon hinsert hlast found (Table.mem_of_get? hget) (Table.key_of_get? hget)

omit hclear in
theorem boardId_of_messageEachLead {u : TenantDb} {newIds : Uuid → Uuid} {boards : List BoardRow} :
    ∀ r ∈ (messageEachLead gateways gateway newIds u boards).2, ∃ b ∈ boards, r.boardId = b.id ∧
      ∀ lead isNew, r.lead = .ok (lead, isNew) → lead.boardId = some b.id := by
  induction boards generalizing u with
  | nil => nofun
  | cons b boards ih =>
    unfold messageEachLead
    intro r hr
    rcases List.mem_cons.mp hr with rfl | hr
    · exact ⟨b, List.mem_cons_self, rfl, fun lead isNew => boardId_of_ensureAndMessageBoardLead⟩
    · obtain ⟨b', hb', hrest⟩ := ih r hr
      exact ⟨b', List.mem_cons_of_mem b hb', hrest⟩

include hclosed in
theorem boardOrganization_of_main (hmain : requireGatewayMainActor s agent = .ok gateway) {b : BoardRow}
    (hb : b ∈ s.boards) (hhas : b.gatewayId = some gateway.id) :
    s.boardOrganization b.id = some organizationId := by
  have hgateway := Table.mem_of_get? (requireGatewayMainActor_eq_ok hmain).2
  have horg : gateway.organizationId = organizationId := hclear.organizationId_of_main hmain
  rw [boardOrganization_of_mem hb, ← hclosed.gateways b hb gateway hgateway hhas, horg]

include hclosed in
theorem boardOrganization_of_checked {board : BoardRow}
    (h : (do
      let gateway ← requireGatewayMainActor s agent
      let board ← requireGatewayBoard s gateway boardId
      return (gateway, board)) = .ok (gateway, board)) :
    s.boardOrganization board.id = some organizationId := by
  simp only [requireGatewayBoard, bind_eq_ok, orFail_eq_ok, require_eq_ok, pure_eq_ok] at h
  obtain ⟨gateway', hmain, found, ⟨_, hget, _, hhas, rfl⟩, heq⟩ := h
  obtain ⟨rfl, hfound⟩ := Prod.mk.inj heq
  rw [hfound] at hget hhas
  exact boardOrganization_of_main hclosed hclear hmain (Table.mem_of_get? hget) hhas

include hclosed in
theorem ownedBy_messageGatewayBoardLead {newId : Uuid}
    (h : (messageGatewayBoardLead gateways s agent boardId newId).answer = .ok answer) :
    answer.OwnedBy s organizationId := by
  unfold messageGatewayBoardLead at h
  dsimp only at h
  split at h
  · cases h
  · rename_i gateway board hchecked
    have hown := boardOrganization_of_checked hclosed hclear hchecked
    cases hmessaged : (ensureAndMessageBoardLead gateways s gateway board newId).2 with
    | error e =>
      rw [hmessaged] at h
      cases h
    | ok lead =>
      rw [hmessaged] at h
      obtain rfl := Except.ok.inj h
      intro r hr
      obtain rfl := List.mem_singleton.mp hr
      refine ⟨hown, fun lead' isNew hlead => ?_⟩
      obtain rfl := Except.ok.inj hlead
      rw [agentOrganization_of_boardId (boardId_of_ensureAndMessageBoardLead hmessaged), hown]

include hclosed in
theorem ownedBy_broadcastGatewayLeadMessage {boardIds : List Uuid} {newIds : Uuid → Uuid}
    (h : (broadcastGatewayLeadMessage gateways s agent boardIds newIds).answer = .ok answer) :
    answer.OwnedBy s organizationId := by
  unfold broadcastGatewayLeadMessage at h
  cases hmain : requireGatewayMainActor s agent with
  | error e =>
    rw [hmain] at h
    cases h
  | ok gateway =>
    rw [hmain] at h
    obtain rfl := Except.ok.inj h
    intro r hr
    obtain ⟨b, hb, hid, hlead⟩ := boardId_of_messageEachLead r hr
    obtain ⟨hmem, hsel⟩ := List.mem_filter.mp hb
    rw [Bool.and_eq_true] at hsel
    have hown := boardOrganization_of_main hclosed hclear hmain hmem (of_decide_eq_true hsel.1)
    refine ⟨hid ▸ hown, fun lead isNew hok => ?_⟩
    rw [agentOrganization_of_boardId (hlead lead isNew hok), hown]

/-! ## Every answer -/

omit hclear in
theorem answer_changed_eq_ok {α : Type} {x : Except Failure (TenantDb × α)} {answer : α → AgentAnswer} {a : AgentAnswer}
    (h : (TenantResponse.changed x answer).answer = .ok a) : ∃ row, a = answer row := by
  cases x with
  | error e => cases h
  | ok r => exact ⟨r.2, (Except.ok.inj h).symm⟩

omit hclear in
theorem answer_updateAgentSoul_eq_ok {content : String}
    (h : (callEndpoint env gateways s now agent (.updateAgentSoul boardId agentId content)).answer = .ok answer) :
    answer = .ok := by
  unfold callEndpoint at h
  dsimp only at h
  split at h
  · cases h
  · unfold updateAgentSoul at h
    dsimp only at h
    split at h
    · cases h
    · simp only [bind_eq_ok, pure_eq_ok] at h
      obtain ⟨_, -, _, -, rfl⟩ := h
      rfl

omit hclear in
theorem answer_deleteBoardAgent_eq_ok
    (h : (callEndpoint env gateways s now agent (.deleteBoardAgent boardId agentId)).answer = .ok answer) :
    answer = .ok := by
  unfold callEndpoint at h
  dsimp only at h
  split at h
  · cases h
  · rw [answer_deleteBoardAgent] at h
    cases hchecked : checkedDeletion gateways s now agent agentId with
    | error e =>
      rw [hchecked] at h
      cases h
    | ok _ =>
      rw [hchecked] at h
      exact (Except.ok.inj h).symm

omit hclear in
theorem ownedBy_getBoard (hboard : (s.others organizationId).board boardId = false)
    (h : (callEndpoint env gateways s now agent (.getBoard boardId)).answer = .ok answer) :
    answer.OwnedBy s organizationId := by
  obtain ⟨board, hfound, h⟩ := bind_eq_ok.mp h
  obtain rfl := pure_eq_ok.mp h
  intro b hb
  obtain rfl := List.mem_singleton.mp hb
  exact (boardOfPath_owned hboard hfound).2.2

omit hclear in
theorem ownedBy_listTasks {filters : AgentTaskListFilters} (hboard : (s.others organizationId).board boardId = false)
    (h : (callEndpoint env gateways s now agent (.listTasks boardId filters)).answer = .ok answer) :
    answer.OwnedBy s organizationId := by
  obtain ⟨board, hfound, tasks, htasks, rfl⟩ : ∃ board, boardOfPath s agent boardId = .ok board ∧ ∃ tasks,
      agentListTasks s.db board.id filters = .ok tasks ∧ AgentAnswer.tasks tasks = answer := by
    simpa only [callEndpoint, TenantResponse.read, bind_eq_ok, pure_eq_ok] using h
  obtain ⟨rfl, hown, -⟩ := boardOfPath_owned hboard hfound
  intro r hr
  rw [boardId_of_agentListTasks htasks r hr]
  exact hown

omit hclear in
theorem ownedBy_listTaskComments {taskId : Uuid} (hboard : (s.others organizationId).board boardId = false)
    (h : (callEndpoint env gateways s now agent (.listTaskComments boardId taskId)).answer = .ok answer) :
    answer.OwnedBy s organizationId := by
  obtain ⟨task, hfound, h⟩ := bind_eq_ok.mp h
  obtain rfl := pure_eq_ok.mp h
  obtain ⟨hget, rfl, hon, board, hfoundBoard⟩ := taskOfPath_eq_ok hfound
  intro e he
  rw [eventOrganization_of_taskId (taskId_of_mem_listTaskComments he)]
  exact taskIdOrganization_of_found hboard ⟨hfoundBoard, task, hget, hon⟩

/-- The calls whose answers are no boards, tasks, agents or comments. -/
def returnsNoRows : AgentCall → Bool
  | .deleteTask .. | .listTags .. | .getWebhookPayload .. | .listBoardMemory .. | .listApprovals ..
  | .createBoardMemory .. | .updateOnboarding .. | .createApproval .. | .nudgeAgent .. | .getAgentSoul ..
  | .updateAgentSoul .. | .deleteBoardAgent .. => true
  | _ => false

omit hclear in
theorem ownedBy_of_returnsNoRows {call : AgentCall} (hnone : returnsNoRows call = true)
    (h : (callEndpoint env gateways s now agent call).answer = .ok answer) : answer.OwnedBy s organizationId := by
  cases call with
  | deleteTask boardId taskId =>
    obtain ⟨ts, -, h⟩ := answer_stored_eq_ok h
    obtain rfl := Except.ok.inj h
    trivial
  | listTags boardId =>
    obtain ⟨board, -, hread⟩ := bind_eq_ok.mp h
    obtain rfl := pure_eq_ok.mp hread
    trivial
  | getWebhookPayload boardId webhookId payloadId =>
    obtain ⟨board, -, hread⟩ := bind_eq_ok.mp h
    obtain ⟨payload, -, hread⟩ := bind_eq_ok.mp hread
    obtain rfl := pure_eq_ok.mp hread
    trivial
  | listBoardMemory boardId isChat =>
    obtain ⟨board, -, hread⟩ := bind_eq_ok.mp h
    obtain rfl := pure_eq_ok.mp hread
    trivial
  | listApprovals boardId status =>
    obtain ⟨board, -, hread⟩ := bind_eq_ok.mp h
    obtain rfl := pure_eq_ok.mp hread
    trivial
  | createBoardMemory boardId memoryId payload =>
    obtain ⟨entry, rfl⟩ := answer_changed_eq_ok h
    trivial
  | updateOnboarding boardId payload =>
    obtain ⟨session, rfl⟩ := answer_changed_eq_ok h
    trivial
  | createApproval boardId approvalId payload =>
    obtain ⟨ts, -, hread⟩ := answer_stored_eq_ok h
    simp only [committedApproval, bind_eq_ok, pure_eq_ok] at hread
    obtain ⟨_, -, _, -, rfl⟩ := hread
    trivial
  | nudgeAgent boardId agentId =>
    obtain ⟨board, -, hread⟩ := bind_eq_ok.mp h
    obtain ⟨_, -, hread⟩ := bind_eq_ok.mp hread
    obtain rfl := pure_eq_ok.mp hread
    trivial
  | getAgentSoul boardId agentId =>
    obtain ⟨board, -, hread⟩ := bind_eq_ok.mp h
    obtain ⟨_, -, hread⟩ := bind_eq_ok.mp hread
    obtain rfl := pure_eq_ok.mp hread
    trivial
  | updateAgentSoul boardId agentId content =>
    obtain rfl := answer_updateAgentSoul_eq_ok h
    trivial
  | deleteBoardAgent boardId agentId =>
    obtain rfl := answer_deleteBoardAgent_eq_ok h
    trivial
  | _ => cases hnone

include hclosed in
/-- **A call that names rows of its organization only returns rows of its organization.** -/
theorem ownedBy_callEndpoint {call : AgentCall} (hkeeps : call.KeepsTo s (s.others organizationId) agent)
    (h : (callEndpoint env gateways s now agent call).answer = .ok answer) : answer.OwnedBy s organizationId := by
  have hcaller : (AgentAnswer.agents [agent]).OwnedBy s organizationId := by
    intro a ha
    obtain rfl := List.mem_singleton.mp ha
    exact hclosed.agentOrganization_of_shown (Table.mem_of_get? hclear.found) hclear.caller
  cases call with
  | healthz =>
    obtain rfl := Except.ok.inj h
    exact hcaller
  | agentHeartbeat =>
    obtain rfl := Except.ok.inj h
    exact hcaller
  | listBoards => exact ownedBy_listBoards hclear h
  | getBoard boardId => exact ownedBy_getBoard hkeeps h
  | listAgents boardId => exact ownedBy_listAgents hclosed hclear hkeeps.1 hkeeps.2 h
  | listTasks boardId filters => exact ownedBy_listTasks hkeeps h
  | createTask boardId taskId payload => exact ownedBy_createTask hkeeps.1 h
  | updateTask boardId taskId payload => exact ownedBy_updateTask hkeeps.1 h
  | listTaskComments boardId taskId => exact ownedBy_listTaskComments hkeeps h
  | createTaskComment boardId taskId message => exact ownedBy_createTaskComment hkeeps h
  | createAgent agentId payload => exact ownedBy_createAgent hclosed hclear h
  | askUserViaGatewayMain boardId => exact ownedBy_askUserViaGatewayMain hkeeps h
  | messageGatewayBoardLead boardId newId => exact ownedBy_messageGatewayBoardLead hclosed hclear h
  | broadcastGatewayLeadMessage boardIds newIds => exact ownedBy_broadcastGatewayLeadMessage hclosed hclear h
  | deleteTask | listTags | getWebhookPayload | listBoardMemory | listApprovals | createBoardMemory | updateOnboarding
  | createApproval | nudgeAgent | getAgentSoul | updateAgentSoul | deleteBoardAgent => exact ownedBy_of_returnsNoRows rfl h

end Calls

end Shown

end TenantDb

end SiloForge
