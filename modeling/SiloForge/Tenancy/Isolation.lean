import SiloForge.Tenancy.Ownership

/-!
# Tenant isolation of agents

What a call returns and writes belongs to the organization of the caller's gateway, and rows of other organizations make
no difference to its answer. The guards do not enforce it: an agent without a board passes those of every board, and
lists the agents of every organization.

* `TenantDb.Isolated` : what a call returns, writes and sees;
* `TenantDb.Admits` : the calls that name rows of their organization only, where rows are not joined across
  organizations;
* `tenantsIsolated` : they are isolated, in every run; `not_tenantsIsolated` : calls are not.
-/

namespace SiloForge

open Lib

namespace TenantDb

/-! ## What is written -/

section Rest
variable {s t u : TenantDb} {organizationId : Uuid} {boardId taskId agentId : Uuid}

theorem rest_eq (hboards : t.boards = u.boards)
    (hagents : t.agents.deleteWhere (fun a => s.agentOrganization a.toPlacedAgent = some organizationId) =
      u.agents.deleteWhere fun a => s.agentOrganization a.toPlacedAgent = some organizationId)
    (htasks : t.rows.tasks.deleteWhere (fun task => s.taskOrganization task = some organizationId) =
      u.rows.tasks.deleteWhere fun task => s.taskOrganization task = some organizationId)
    (hcomments : (t.rows.events.filter fun e => e.eventType = .taskComment ∧ s.eventOrganization e ≠ some organizationId) =
      u.rows.events.filter fun e => e.eventType = .taskComment ∧ s.eventOrganization e ≠ some organizationId) :
    s.rest organizationId t = s.rest organizationId u := by
  unfold rest
  rw [hboards, hagents, htasks, hcomments]

theorem rest_commentsOn {before after : List ActivityEvent} (h : CommentsOn taskId before after)
    (hown : s.taskIdOrganization taskId = some organizationId) :
    (after.filter fun e => e.eventType = .taskComment ∧ s.eventOrganization e ≠ some organizationId) =
      before.filter fun e => e.eventType = .taskComment ∧ s.eventOrganization e ≠ some organizationId := by
  have hrest := h (fun e => !decide (e.eventType = .taskComment ∧ s.eventOrganization e ≠ some organizationId))
    fun e habout => by
      rw [Bool.not_eq_true', decide_eq_false_iff_not]
      rintro ⟨hcomment, hother⟩
      exact hother ((eventOrganization_of_taskId (habout hcomment)).trans hown)
  simpa only [Bool.not_not] using hrest

theorem rest_sameComments {before after : List ActivityEvent} (h : SameComments before after) :
    (after.filter fun e => e.eventType = .taskComment ∧ s.eventOrganization e ≠ some organizationId) =
      before.filter fun e => e.eventType = .taskComment ∧ s.eventOrganization e ≠ some organizationId := by
  have hsplit : ∀ events : List ActivityEvent,
      (events.filter fun e => e.eventType = .taskComment ∧ s.eventOrganization e ≠ some organizationId) =
        (events.filter fun e => e.eventType = .taskComment).filter fun e => s.eventOrganization e ≠ some organizationId := by
    intro events
    rw [List.filter_filter]
    apply List.filter_congr
    intro e _
    rw [Bool.decide_and, Bool.and_comm]
  rw [hsplit, hsplit, h]

theorem taskOrganization_of_boardId (hown : s.boardOrganization boardId = some organizationId) (task : Task)
    (hon : task.boardId = some boardId) : decide (s.taskOrganization task = some organizationId) = true := by
  unfold taskOrganization
  rw [hon]
  exact decide_eq_true hown

theorem rest_of_writesOn (h : WritesOn agentId boardId u t) (hown : s.boardOrganization boardId = some organizationId) :
    s.rest organizationId t = s.rest organizationId u := by
  obtain ⟨hrows, hboards, -⟩ := h.others
  refine rest_eq hboards (h.rest _ fun a hon => ?_) (by rw [hrows]) (by rw [hrows])
  rw [agentOrganization_of_boardId hon]
  exact decide_eq_true hown

end Rest

section Calls
variable {s t : TenantDb} {organizationId : Uuid} {agent : TenantAgent} {boardId taskId agentId : Uuid}
  {env : TenantEnv} {gateways : GatewayAnswers} {now : Time}

theorem mem_commits_stored {commits : Except Failure (List Db)} {answer : Db → Except Failure AgentAnswer}
    (h : t ∈ (TenantResponse.stored s commits answer).commits) :
    ∃ ts, commits = .ok ts ∧ ∃ db ∈ ts, t = { s with rows := db } := by
  cases commits with
  | error e => cases h
  | ok ts =>
    obtain ⟨db, hdb, rfl⟩ := List.mem_map.mp h
    exact ⟨ts, rfl, db, hdb, rfl⟩

theorem mem_commits_changed {α : Type} {x : Except Failure (TenantDb × α)} {answer : α → AgentAnswer}
    (h : t ∈ (TenantResponse.changed x answer).commits) : ∃ row, x = .ok (t, row) := by
  cases x with
  | error e => cases h
  | ok r =>
    obtain rfl := List.mem_singleton.mp h
    exact ⟨r.2, rfl⟩

theorem rest_createTask {payload : TaskCreate} (hboard : (s.others organizationId).board boardId = false)
    (h : t ∈ (callEndpoint env gateways s now agent (.createTask boardId taskId payload)).commits) :
    s.rest organizationId t = s.rest organizationId s := by
  obtain ⟨ts, hcommits, db, hdb, rfl⟩ := mem_commits_stored h
  obtain ⟨board, hget, -, hwrites⟩ := createTaskAsLead_writes hcommits
  obtain ⟨hwrote, hcomments⟩ := hwrites db hdb
  have hown := boardOrganization_of_db_get? hboard hget
  exact rest_eq rfl rfl (hwrote.tasks _ (taskOrganization_of_boardId hown)) (rest_sameComments hcomments)

theorem rest_updateTask {payload : TaskUpdate} (hboard : (s.others organizationId).board boardId = false)
    (h : t ∈ (callEndpoint env gateways s now agent (.updateTask boardId taskId payload)).commits) :
    s.rest organizationId t = s.rest organizationId s := by
  obtain ⟨ts, hcommits, db, hdb, rfl⟩ := mem_commits_stored h
  obtain ⟨_, -, hupdate⟩ := bind_eq_ok.mp hcommits
  obtain ⟨board, hfound, hwrites⟩ := updateTask_writes hupdate
  have hown := boardOrganization_of_db_get? hboard hfound.board
  exact rest_eq rfl rfl ((hwrites db hdb).tasks _ (taskOrganization_of_boardId hown))
    (rest_commentsOn (hwrites db hdb).comments (taskIdOrganization_of_found hboard hfound))

theorem rest_deleteTask (hboard : (s.others organizationId).board boardId = false)
    (h : t ∈ (callEndpoint env gateways s now agent (.deleteTask boardId taskId)).commits) :
    s.rest organizationId t = s.rest organizationId s := by
  obtain ⟨ts, hcommits, db, hdb, rfl⟩ := mem_commits_stored h
  simp only [bind_eq_ok, pure_eq_ok] at hcommits
  obtain ⟨_, -, db', hdelete, rfl⟩ := hcommits
  obtain rfl := List.mem_singleton.mp hdb
  obtain ⟨board, hfound, htasks, hcomments⟩ := deleteTask_writes hdelete
  have hown := boardOrganization_of_db_get? hboard hfound.board
  exact rest_eq rfl rfl (htasks _ (taskOrganization_of_boardId hown))
    (rest_commentsOn hcomments (taskIdOrganization_of_found hboard hfound))

theorem rest_createTaskComment {message : String} (hboard : (s.others organizationId).board boardId = false)
    (h : t ∈ (callEndpoint env gateways s now agent (.createTaskComment boardId taskId message)).commits) :
    s.rest organizationId t = s.rest organizationId s := by
  obtain ⟨ts, hcommits, db, hdb, rfl⟩ := mem_commits_stored h
  simp only [bind_eq_ok, pure_eq_ok] at hcommits
  obtain ⟨_, -, db', hcomment, rfl⟩ := hcommits
  obtain rfl := List.mem_singleton.mp hdb
  obtain ⟨board, hfound, comment, -, habout, rfl⟩ := createTaskComment_writes hcomment
  refine rest_eq rfl rfl rfl (rest_commentsOn (commentsOn_append fun e he _ => ?_)
    (taskIdOrganization_of_found hboard hfound))
  obtain rfl := List.mem_singleton.mp he
  exact habout

theorem rest_createApproval {approvalId : Uuid} {payload : ApprovalCreate}
    (h : t ∈ (callEndpoint env gateways s now agent (.createApproval boardId approvalId payload)).commits) :
    s.rest organizationId t = s.rest organizationId s := by
  obtain ⟨ts, hcommits, db, hdb, rfl⟩ := mem_commits_stored h
  simp only [bind_eq_ok, pure_eq_ok] at hcommits
  obtain ⟨_, -, db', hcreate, rfl⟩ := hcommits
  obtain rfl := List.mem_singleton.mp hdb
  obtain ⟨checked, -, hstore⟩ := createApproval_eq_ok hcreate
  obtain ⟨approvals, links, -, -, rfl⟩ := storeApproval_eq_ok hstore
  rfl

theorem rest_createBoardMemory {memoryId : Uuid} {payload : BoardMemoryCreate}
    (h : t ∈ (callEndpoint env gateways s now agent (.createBoardMemory boardId memoryId payload)).commits) :
    s.rest organizationId t = s.rest organizationId s := by
  obtain ⟨row, hchanged⟩ := mem_commits_changed h
  simp only [createBoardMemory, bind_eq_ok, pure_eq_ok] at hchanged
  obtain ⟨board, -, memory, -, heq⟩ := hchanged
  obtain ⟨rfl, -⟩ := Prod.mk.inj heq
  rfl

theorem rest_updateOnboarding {payload : BoardOnboardingAgentUpdate}
    (h : t ∈ (callEndpoint env gateways s now agent (.updateOnboarding boardId payload)).commits) :
    s.rest organizationId t = s.rest organizationId s := by
  obtain ⟨row, hchanged⟩ := mem_commits_changed h
  obtain ⟨board, -, hupdate⟩ := bind_eq_ok.mp hchanged
  obtain ⟨sessions, rfl⟩ : ∃ sessions, t = { s with onboardingSessions := sessions } := by
    unfold agentOnboardingUpdate at hupdate
    cases hgateway : getGatewayForBoard s.placement board with
    | none =>
      simp only [hgateway, bind_eq_ok, pure_eq_ok] at hupdate
      obtain ⟨_, -, onboarding, -, _, -, heq⟩ := hupdate
      exact ⟨_, (Prod.mk.inj heq).1.symm⟩
    | some gateway =>
      simp only [hgateway, bind_eq_ok, pure_eq_ok] at hupdate
      obtain ⟨_, -, _, -, onboarding, -, _, -, heq⟩ := hupdate
      exact ⟨_, (Prod.mk.inj heq).1.symm⟩
  rfl

section Closed
variable (hclosed : s.Closed) (hclear : Clear (s.others organizationId) s agent)
include hclosed

theorem rest_updateAgentSoul {content : String} (hagent : (s.others organizationId).agent agentId = false)
    (h : t ∈ (callEndpoint env gateways s now agent (.updateAgentSoul boardId agentId content)).commits) :
    s.rest organizationId t = s.rest organizationId s := by
  unfold callEndpoint at h
  dsimp only at h
  split at h
  · cases h
  · unfold updateAgentSoul at h
    dsimp only at h
    split at h
    · cases h
    · rename_i target hchecked
      obtain rfl := List.mem_singleton.mp h
      simp only [boardAgentOr404, bind_eq_ok, orFail_eq_ok, pure_eq_ok] at hchecked
      obtain ⟨_, ⟨target', hget, _, -, rfl⟩, _, -, rfl⟩ := hchecked
      obtain rfl : target'.id = agentId := Table.key_of_get? hget
      have hown := hclosed.agentOrganization_of_shown (Table.mem_of_get? hget) hagent
      refine rest_eq rfl (Table.put_rest (decide_eq_true hown) fun a ha hid => ?_) rfl rfl
      have hget' : s.agents.get? target'.id = some a := Table.get?_eq_some.mpr ⟨ha, hid⟩
      obtain rfl := Option.some.inj (hget.symm.trans hget')
      exact decide_eq_true hown

include hclear in
theorem rest_createAgent {payload : AgentCreate}
    (h : t ∈ (callEndpoint env gateways s now agent (.createAgent agentId payload)).commits) :
    s.rest organizationId t = s.rest organizationId s := by
  have h : t ∈ (createBoardAgent env.casing gateways s agent agentId payload).commits := h
  rw [createBoardAgent_eq] at h
  cases hchecked : checkedWorker env.casing gateways s.placement agent agentId payload with
  | error e =>
    rw [hchecked] at h
    cases h
  | ok checked =>
    obtain ⟨writes, provisioned⟩ := checked
    rw [hchecked] at h
    obtain ⟨lead, boardId, hlead, hleadOn, hinsert, hon⟩ := on_checkedWorker hchecked
    exact rest_of_writesOn (writesOn_applyWrites hon (.inr hinsert) t h)
      (boardOrganization_of_caller hclosed hclear hlead hleadOn)

theorem rest_deleteBoardAgent (hagent : (s.others organizationId).agent agentId = false)
    (h : t ∈ (callEndpoint env gateways s now agent (.deleteBoardAgent boardId agentId)).commits) :
    s.rest organizationId t = s.rest organizationId s := by
  unfold callEndpoint at h
  dsimp only at h
  split at h
  · cases h
  · rw [deleteBoardAgent_eq] at h
    split at h
    · cases h
    · cases h
    · rename_i db hchecked
      obtain rfl := List.mem_singleton.mp h
      obtain ⟨target, hget, hdelete⟩ : ∃ target, s.agents.get? agentId = some target ∧
          deleteAgentRecord s.db now agentId = .ok db := by
        unfold checkedDeletion at hchecked
        obtain ⟨writes, -, hrest⟩ := bind_eq_ok.mp hchecked
        split at hrest
        · cases pure_eq_ok.mp hrest
        · simp only [bind_eq_ok, orFail_eq_ok, pure_eq_ok] at hrest
          obtain ⟨target, hget, _, -, _, -, _, -, db', hdelete, heq⟩ := hrest
          obtain rfl := Option.some.inj heq
          exact ⟨target, hget, hdelete⟩
      obtain rfl : target.id = agentId := Table.key_of_get? hget
      have hmem := Table.mem_of_get? hget
      have hown := hclosed.agentOrganization_of_shown hmem hagent
      have howner : s.agentIdOrganization target.id = some organizationId := (agentIdOrganization_of_mem hmem).trans hown
      obtain ⟨htasks, hevents⟩ := deleteAgentRecord_writes hdelete
      refine rest_eq rfl (Table.deleteWhere_rest fun a ha hid => ?_) (htasks _ fun task htask hassigned => ?_) ?_
      · have hget' : s.agents.get? target.id = some a := Table.get?_eq_some.mpr ⟨ha, of_decide_eq_true hid⟩
        obtain rfl := Option.some.inj (hget.symm.trans hget')
        exact decide_eq_true hown
      · have htaskOwner := (hclosed.assignees task htask target.id hassigned).trans howner
        exact ⟨decide_eq_true htaskOwner, decide_eq_true htaskOwner, decide_eq_true htaskOwner⟩
      · have hrest := hevents (fun e => !decide (e.eventType = .taskComment ∧ s.eventOrganization e ≠ some organizationId))
          (fun e hother => by simp [hother]) fun e he hnamed => by
            have hhidden :
                (!decide (e.eventType = .taskComment ∧ s.eventOrganization e ≠ some organizationId)) = true := by
              rw [Bool.not_eq_true', decide_eq_false_iff_not]
              rintro ⟨hcomment, hother⟩
              exact hother ((hclosed.authors e he hcomment target.id hnamed).trans howner)
            exact ⟨hhidden, hhidden⟩
        simp only [Bool.not_not] at hrest
        exact hrest

/-! ## Messages to leads -/

omit hclosed in
theorem rest_ensureAndMessageBoardLead {u : TenantDb} {gateway : OrgGateway} {board : BoardRow} {newId : Uuid}
    (hown : s.boardOrganization board.id = some organizationId) :
    ∀ t ∈ (ensureAndMessageBoardLead gateways u gateway board newId).1,
      s.rest organizationId t = s.rest organizationId u :=
  fun t ht => rest_of_writesOn (writesOn_ensureAndMessageBoardLead gateways u gateway board newId t ht) hown

omit hclosed in
theorem rest_messageEachLead {u : TenantDb} {gateway : OrgGateway} {newIds : Uuid → Uuid} {boards : List BoardRow}
    (hown : ∀ b ∈ boards, s.boardOrganization b.id = some organizationId) :
    ∀ t ∈ (messageEachLead gateways gateway newIds u boards).1,
      s.rest organizationId t = s.rest organizationId u := by
  induction boards generalizing u with
  | nil => nofun
  | cons b boards ih =>
    have hfirst : ∀ t ∈ (ensureAndMessageBoardLead gateways u gateway b (newIds b.id)).1,
        s.rest organizationId t = s.rest organizationId u :=
      rest_ensureAndMessageBoardLead (hown b List.mem_cons_self)
    unfold messageEachLead
    intro t ht
    rcases List.mem_append.mp ht with ht | ht
    · exact hfirst t ht
    · rw [ih (fun b' hb' => hown b' (List.mem_cons_of_mem b hb')) t ht]
      rcases Machine.getLastD_mem_or_eq (ensureAndMessageBoardLead gateways u gateway b (newIds b.id)).1 u with
        hlast | hnone
      · exact hfirst _ hlast
      · rw [hnone]

include hclear in
theorem rest_messageGatewayBoardLead {newId : Uuid}
    (h : t ∈ (messageGatewayBoardLead gateways s agent boardId newId).commits) :
    s.rest organizationId t = s.rest organizationId s := by
  unfold messageGatewayBoardLead at h
  dsimp only at h
  split at h
  · cases h
  · rename_i gateway board hchecked
    exact rest_ensureAndMessageBoardLead (boardOrganization_of_checked hclosed hclear hchecked) t h

include hclear in
theorem rest_broadcastGatewayLeadMessage {boardIds : List Uuid} {newIds : Uuid → Uuid}
    (h : t ∈ (broadcastGatewayLeadMessage gateways s agent boardIds newIds).commits) :
    s.rest organizationId t = s.rest organizationId s := by
  unfold broadcastGatewayLeadMessage at h
  cases hmain : requireGatewayMainActor s agent with
  | error e =>
    rw [hmain] at h
    cases h
  | ok gateway =>
    rw [hmain] at h
    refine rest_messageEachLead (fun b hb => ?_) t h
    obtain ⟨hmem, hsel⟩ := List.mem_filter.mp hb
    rw [Bool.and_eq_true] at hsel
    exact boardOrganization_of_main hclosed hclear hmain hmem (of_decide_eq_true hsel.1)

include hclear in
/-- **A call that names rows of its organization only leaves the others as they were.** -/
theorem rest_callEndpoint {call : AgentCall} (hkeeps : call.KeepsTo s (s.others organizationId) agent)
    (h : t ∈ (callEndpoint env gateways s now agent call).commits) : s.rest organizationId t = s.rest organizationId s := by
  cases call with
  | createTask boardId taskId payload => exact rest_createTask hkeeps.1 h
  | updateTask boardId taskId payload => exact rest_updateTask hkeeps.1 h
  | deleteTask boardId taskId => exact rest_deleteTask hkeeps h
  | createTaskComment boardId taskId message => exact rest_createTaskComment hkeeps h
  | createBoardMemory boardId memoryId payload => exact rest_createBoardMemory h
  | createApproval boardId approvalId payload => exact rest_createApproval h
  | updateOnboarding boardId payload => exact rest_updateOnboarding h
  | createAgent agentId payload => exact rest_createAgent hclosed hclear h
  | updateAgentSoul boardId agentId content => exact rest_updateAgentSoul hclosed hkeeps.2 h
  | deleteBoardAgent boardId agentId => exact rest_deleteBoardAgent hclosed hkeeps.2 h
  | messageGatewayBoardLead boardId newId => exact rest_messageGatewayBoardLead hclosed hclear h
  | broadcastGatewayLeadMessage boardIds newIds => exact rest_broadcastGatewayLeadMessage hclosed hclear h
  -- the other calls commit nothing
  | healthz | listBoards | getBoard _ | listAgents _ | listTasks _ _ | listTags _ | getWebhookPayload _ _ _
  | listTaskComments _ _ | listBoardMemory _ _ | listApprovals _ _ | nudgeAgent _ _ | agentHeartbeat
  | getAgentSoul _ _ | askUserViaGatewayMain _ => cases h

end Closed

end Calls

/-! ## Isolation -/

def callerOrganization (s : TenantDb) (agentId : Uuid) : Option Uuid :=
  (s.agents.get? agentId).bind fun a => s.gatewayOrganization a.gatewayId

/-- What a call returns and writes is the organization's, and an admitted state that differs only in rows of other
organizations gives the same answer. -/
structure Isolated (env : TenantEnv) (admits : TenantDb → Prop) (s : TenantDb) (gateways : GatewayAnswers) (now : Time)
    (agentId : Uuid) (call : AgentCall) (organizationId : Uuid) : Prop where
  returned : ∀ answer, (callAgentApi env gateways s now agentId call).answer = .ok answer →
    answer.OwnedBy s organizationId
  written : ∀ t ∈ (callAgentApi env gateways s now agentId call).commits, s.rest organizationId t = s.rest organizationId s
  unseen : ∀ s', admits s' → SameFor organizationId s s' →
    (callAgentApi env gateways s' now agentId call).answer = (callAgentApi env gateways s now agentId call).answer

/-- Rows of different organizations are not joined, and the call names rows of its organization only. -/
structure Admits (agentId : Uuid) (call : AgentCall) (s : TenantDb) : Prop where
  closed : s.Closed
  keeps : ∀ agent, s.agents.get? agentId = some agent → ∀ organizationId,
    s.gatewayOrganization agent.gatewayId = some organizationId → call.KeepsTo s (s.others organizationId) agent

section Isolated
variable {env : TenantEnv} {gateways : GatewayAnswers} {s s' : TenantDb} {now : Time} {agentId organizationId : Uuid}
  {call : AgentCall} {agent : TenantAgent}

theorem callAgentApi_of_found (hget : s.agents.get? agentId = some agent) :
    callAgentApi env gateways s now agentId call = callEndpoint env gateways s now agent call := by
  unfold callAgentApi agentAuthContext
  rw [hget]
  rfl

theorem Admits.clear (h : Admits agentId call s) (hget : s.agents.get? agentId = some agent)
    (hgateway : s.gatewayOrganization agent.gatewayId = some organizationId) :
    Clear (s.others organizationId) s agent := by
  obtain rfl : agent.id = agentId := Table.key_of_get? hget
  exact h.closed.clear hget hgateway

theorem SameFor.agents_get? (h : SameFor organizationId s s') (hget : s.agents.get? agentId = some agent)
    (hshown : (s.others organizationId).agent agentId = false) : s'.agents.get? agentId = some agent := by
  have hpart : (s'.hide organizationId).agents.get? agentId = some agent := by
    rw [← show s.hide organizationId = s'.hide organizationId from h]
    exact (agents_get?_without hshown).trans hget
  have hpart : (s'.agents.deleteWhere fun a => (s'.others organizationId).agent a.id).get? agentId = some agent := hpart
  rw [Table.get?_deleteWhere] at hpart
  exact (Option.filter_eq_some_iff.mp hpart).1

theorem SameFor.gatewayOrganization {gatewayId : Uuid} (h : SameFor organizationId s s')
    (hgateway : s.gatewayOrganization gatewayId = some organizationId) :
    s'.gatewayOrganization gatewayId = some organizationId := by
  obtain ⟨gateway, hget, hown⟩ := Option.map_eq_some_iff.mp hgateway
  have hpart : (s'.hide organizationId).gateways.get? gatewayId = some gateway := by
    rw [← show s.hide organizationId = s'.hide organizationId from h]
    exact (gateways_get?_without hgateway).trans hget
  have hpart : (s'.gateways.deleteWhere fun g => g.organizationId ≠ organizationId).get? gatewayId = some gateway := hpart
  rw [Table.get?_deleteWhere] at hpart
  unfold TenantDb.gatewayOrganization
  rw [(Option.filter_eq_some_iff.mp hpart).1, Option.map_some, hown]

theorem answer_eq_of_sameFor (hs : Admits agentId call s) (hs' : Admits agentId call s')
    (hget : s.agents.get? agentId = some agent) (hgateway : s.gatewayOrganization agent.gatewayId = some organizationId)
    (h : SameFor organizationId s s') :
    (callAgentApi env gateways s' now agentId call).answer = (callAgentApi env gateways s now agentId call).answer := by
  have hclear := hs.clear hget hgateway
  have hshown : (s.others organizationId).agent agentId = false := by
    rw [← show agent.id = agentId from Table.key_of_get? hget]
    exact hclear.caller
  have hget' := h.agents_get? hget hshown
  have hgateway' := h.gatewayOrganization hgateway
  have hclear' := hs'.clear hget' hgateway'
  rw [callAgentApi_of_found hget, callAgentApi_of_found hget']
  calc (callEndpoint env gateways s' now agent call).answer
      = (callEndpoint env gateways (s'.hide organizationId) now agent call).answer :=
        (hclear'.answer_callEndpoint_without (hs'.keeps agent hget' organizationId hgateway')).symm
    _ = (callEndpoint env gateways (s.hide organizationId) now agent call).answer := by
        rw [show s.hide organizationId = s'.hide organizationId from h]
    _ = (callEndpoint env gateways s now agent call).answer :=
        hclear.answer_callEndpoint_without (hs.keeps agent hget organizationId hgateway)

theorem Admits.isolated (h : Admits agentId call s) (horg : s.callerOrganization agentId = some organizationId) :
    Isolated env (Admits agentId call) s gateways now agentId call organizationId := by
  obtain ⟨agent, hget, hgateway⟩ := Option.bind_eq_some_iff.mp horg
  have hclear := h.clear hget hgateway
  have hkeeps := h.keeps agent hget organizationId hgateway
  refine ⟨fun answer hanswer => ?_, fun t ht => ?_, fun s' hs' hsame => answer_eq_of_sameFor h hs' hget hgateway hsame⟩
  · rw [callAgentApi_of_found hget] at hanswer
    exact ownedBy_callEndpoint h.closed hclear hkeeps hanswer
  · rw [callAgentApi_of_found hget] at ht
    exact rest_callEndpoint h.closed hclear hkeeps ht

end Isolated

end TenantDb

/-! ## Runs -/

/-- Calls are isolated; between them the database may change in any way. -/
def TenantStep.Isolated (env : TenantEnv) (admits : Uuid → AgentCall → TenantDb → Prop) (s : TenantDb) :
    TenantStep → Prop
  | .call gateways now agentId request => ∀ organizationId, s.callerOrganization agentId = some organizationId →
    TenantDb.Isolated env (admits agentId request) s gateways now agentId request organizationId
  | .other _ => True

def TenantStep.Admitted (s : TenantDb) : TenantStep → Prop
  | .call _ _ agentId request => TenantDb.Admits agentId request s
  | .other _ => True

/-- **Tenant isolation of agents**: in a run whose calls name rows of their organization only, where rows of different
organizations are not joined, every call is isolated. -/
theorem tenantsIsolated {env : TenantEnv} {s : TenantDb} {steps : List TenantStep}
    (h : (tenantMachine env).Along TenantStep.Admitted s steps) :
    (tenantMachine env).Along (TenantStep.Isolated env TenantDb.Admits) s steps := by
  refine h.mono fun s step hadmitted => ?_
  cases step with
  | call gateways now agentId call => exact fun organizationId horg => hadmitted.isolated horg
  | other t => trivial

namespace Sample

def plainEnv : TenantEnv where
  texts :=
    { fullmatch := fun _ _ => .ok true, isIsoDate := fun _ => true, isIsoDateTime := fun _ => true
      isHttpUrl := fun _ => true, mentions := fun _ _ => false
      search := { frames := 900 } }
  casing := oneCase

def silentGateways : GatewayAnswers where
  send _ _ := .ok ()
  readSoul _ _ := .ok ""
  writeSoul _ _ _ := .ok ()
  provision _ _ := (true, .ok ())
  cleanup _ _ := .ok ()

def tenants : TenantDb :=
  { gateways := ⟨[{ id := 10, url := "ws://one", workspaceRoot := "/one", organizationId := 1 },
      { id := 20, url := "ws://two", workspaceRoot := "/two", organizationId := 2 }], by decide⟩
    boards := ⟨[{ id := 11, organizationId := 1, gatewayId := some 10 },
      { id := 21, organizationId := 2, gatewayId := some 20 }], by decide⟩
    agents := ⟨[{ id := 12, boardId := some 11, name := "Worker", gatewayId := 10 },
      { id := 13, boardId := none, name := "Main", gatewayId := 10 }], by decide⟩
    rows := { tasks := ⟨[{ id := 14, boardId := some 11, title := "Build" }], by decide⟩ } }

def workerCalls : List TenantStep :=
  [.call silentGateways 1 12 (.getBoard 11), .call silentGateways 2 12 (.listAgents none),
    .call silentGateways 3 12 (.createTaskComment 11 14 "Done.")]

theorem closed_tenants : tenants.Closed where
  gateways := by
    intro b hb g hg hhas
    have hb : b ∈ tenants.boards.rows := hb
    have hg : g ∈ tenants.gateways.rows := hg
    simp only [tenants, List.mem_cons, List.not_mem_nil, or_false] at hb hg
    rcases hb with rfl | rfl <;> rcases hg with rfl | rfl <;> first | rfl | cases hhas
  agents := by
    intro a ha
    have ha : a ∈ tenants.agents.rows := ha
    simp only [tenants, List.mem_cons, List.not_mem_nil, or_false] at ha
    rcases ha with rfl | rfl <;> exact ⟨1, rfl, rfl⟩
  tags _ ha := (List.not_mem_nil ha).elim
  links _ hl := (List.not_mem_nil hl).elim
  approvals _ ha := (List.not_mem_nil ha).elim
  assignees := by
    intro t ht agentId hassigned
    obtain rfl := List.mem_singleton.mp ht
    have hnone : (none : Option Uuid) = some agentId := hassigned
    cases hnone
  authors _ he := (List.not_mem_nil he).elim
  runs _ hr := (List.not_mem_nil hr).elim

theorem admitted_workerCalls : (tenantMachine plainEnv).Along TenantStep.Admitted tenants workerCalls := by
  have hadmits : ∀ request, (∀ agent : TenantAgent, agent.boardId = some 11 →
      AgentCall.KeepsTo tenants (tenants.others 1) agent request) → TenantDb.Admits 12 request tenants := by
    intro request hkeeps
    refine ⟨closed_tenants, fun agent hget organizationId hgateway => ?_⟩
    obtain rfl := Option.some.inj hget
    obtain rfl := Option.some.inj hgateway
    exact hkeeps _ rfl
  refine ⟨hadmits _ fun _ _ => rfl, hadmits _ fun agent hon => ⟨fun _ => ?_, nofun⟩, hadmits _ fun _ _ => rfl, trivial⟩
  rw [hon]
  rfl

end Sample

/-- The run of a worker's calls on its own board. -/
theorem tenantsIsolated_workerCalls : (tenantMachine Sample.plainEnv).Along (TenantStep.Isolated Sample.plainEnv
    TenantDb.Admits) Sample.tenants Sample.workerCalls := tenantsIsolated Sample.admitted_workerCalls

/-- The main agent of one organization is sent the board of the other. -/
theorem not_tenantsIsolated : ¬ ∀ (env : TenantEnv) (s : TenantDb) (steps : List TenantStep),
    (tenantMachine env).Along (TenantStep.Isolated env fun _ _ _ => True) s steps := by
  intro h
  obtain ⟨-, hcall, -⟩ := h Sample.plainEnv {} [.other Sample.tenants, .call Sample.silentGateways 1 13 (.getBoard 21)]
  have hreturned := (hcall 1 rfl).returned (.boards [{ id := 21, organizationId := 2, gatewayId := some 20 }]) rfl
  exact absurd (hreturned _ (List.mem_singleton_self _)) (by decide)

end SiloForge
