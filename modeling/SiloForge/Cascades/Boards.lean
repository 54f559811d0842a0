import SiloForge.Cascades.Rows

/-!
# Deleting a board

The agents of a board are removed from its gateway one after the other, and then the rows of the board are deleted in
one transaction. What the gateway has done is not undone.

* `boardStatements`, `deleteBoard` : the deletion;
* `BoardKeeps` : a row that stays names nothing that is deleted;
* `boardDeletion_iff` : the deletion is complete or changes nothing, exactly where no agent is removed from the gateway
  or nothing fails.
-/

namespace SiloForge.Cascades

open Lib CallM

/-! ## The gateway -/

inductive CleanupCall where
  | agentsDelete (agentId : String)
  | sessionsDelete (key : String)
  deriving DecidableEq

abbrev CleanupM := CallM CleanupCall PUnit RunError

abbrev CleanupGateway := CleanupCall → Reply PUnit RunError

/-- An error of the gateway is let pass where it says that nothing is there. -/
def passing (missing : String → Bool) (m : CleanupM PUnit) : CleanupM PUnit :=
  m.rescue fun
    | .gateway message => if missing message then pure ⟨⟩ else raise (.gateway message)
    | error => raise error

/-- `delete_agent_lifecycle`, of an agent of a board. -/
def deleteAgentLifecycle (texts : KeyTexts) (agent : AgentRow) : CleanupM PUnit := do
  passing (isMissingAgentError texts) (call (.agentsDelete (texts.agentKey agent)))
  passing (isMissingSessionError texts) (call (.sessionsDelete (boardSessionKey agent.toAgent)))

/-- The error is that of an agent the gateway does not have; the same test as in the lifecycle. -/
def isMissingGatewayAgentError (texts : KeyTexts) : String → Bool := isMissingAgentError texts

def deleteBoardAgents (texts : KeyTexts) : List AgentRow → CleanupM PUnit
  | [] => pure ⟨⟩
  | agent :: rest => do
    passing (isMissingGatewayAgentError texts) (deleteAgentLifecycle texts agent)
    deleteBoardAgents texts rest

def gateway? (s : RowStore) (gatewayId : Uuid) : Option OrgGateway :=
  s.rows.findSome? fun
    | .gateway g => if g.id = gatewayId then some g else none
    | _ => none

/-- `require_gateway_for_board` and `gateway_client_config`. -/
def requireGatewayForBoard (s : RowStore) (board : BoardRefs) : Except Failure OrgGateway :=
  readyGateway (gatewayOfBoard (gateway? s) board.organizationId board.gatewayId)

/-- How a request that has called the gateway fails. -/
def cleanupFailure : RunError → Failure
  | .gateway message => .text 502 ("Gateway cleanup failed: " ++ message)
  | .raised _ | .cut => .status 500

/-- The part of `delete_board` that is about the gateway: how it ends, and the calls that were done. -/
def cleanUpGateway (texts : KeyTexts) (s : RowStore) (board : BoardRefs) (agents : List AgentRow)
    (gateway : CleanupGateway) : Except Failure Unit × List CleanupCall :=
  if board.gatewayId = none then (.ok (), [])
  else
    match requireGatewayForBoard s board with
    | .error e => (.error e, [])
    | .ok _ =>
      match deleteBoardAgents texts agents gateway with
      | (.ok _, calls) => (.ok (), calls)
      | (.error e, calls) => (.error (cleanupFailure e), calls)

/-! ## The rows -/

def boardAgents (s : RowStore) (boardId : Uuid) : List AgentRow :=
  s.rows.filterMap fun
    | .agent a => if a.boardId = some boardId then some a else none
    | _ => none

/-- `select(Task.id).where(Task.board_id == board.id)`. -/
def boardTaskIds (boardId : Uuid) : Ids TableName ColumnName Uuid := .select .tasks .boardId (.given [boardId])

def boardTaskItems (taskIds : List Uuid) : List (Delete TableName ColumnName Uuid) :=
  [⟨.activityEvents, [.taskId], .given taskIds⟩,
   ⟨.tagAssignments, [.taskId], .given taskIds⟩,
   ⟨.taskCustomFieldValues, [.taskId], .given taskIds⟩]

def boardItems (boardId : Uuid) : List (Delete TableName ColumnName Uuid) :=
  [⟨.activityEvents, [.boardId], .given [boardId]⟩,
   ⟨.taskDependencies, [.boardId], .given [boardId]⟩,
   ⟨.taskFingerprints, [.boardId], .given [boardId]⟩,
   ⟨.approvalTaskLinks, [.approvalId], .select .approvals .boardId (.given [boardId])⟩,
   ⟨.approvals, [.boardId], .given [boardId]⟩,
   ⟨.boardMemory, [.boardId], .given [boardId]⟩,
   ⟨.boardWebhookPayloads, [.boardId], .given [boardId]⟩,
   ⟨.boardWebhooks, [.boardId], .given [boardId]⟩,
   ⟨.boardOnboardingSessions, [.boardId], .given [boardId]⟩,
   ⟨.organizationBoardAccess, [.boardId], .given [boardId]⟩,
   ⟨.organizationInviteBoardAccess, [.boardId], .given [boardId]⟩,
   ⟨.boardTaskCustomFields, [.boardId], .given [boardId]⟩,
   ⟨.tasks, [.boardId], .given [boardId]⟩]

def agentItems (agentIds : List Uuid) : List (Delete TableName ColumnName Uuid) :=
  [⟨.activityEvents, [.agentId], .given agentIds⟩,
   ⟨.agents, [.id], .given agentIds⟩]

def boardStatements (boardId : Uuid) (taskIds agentIds : List Uuid) : List (Delete TableName ColumnName Uuid) :=
  (if taskIds = [] then [] else boardTaskItems taskIds) ++ boardItems boardId ++
    (if agentIds = [] then [] else agentItems agentIds) ++ [⟨.boards, [.id], .given [boardId]⟩]

/-! ## The deletion -/

/-- How a deletion ends: its answer, the database, and the agents on the gateway. -/
structure BoardDeletion where
  answer : Except Failure Unit
  store : RowStore
  gatewayAgents : List String

def deleteBoard (texts : KeyTexts) (s : RowStore) (board : BoardRefs) (gateway : CleanupGateway)
    (gatewayAgents : List String) : BoardDeletion :=
  let agents := boardAgents s board.id
  let taskIds := (boardTaskIds board.id).eval s.rows
  let (cleaned, calls) := cleanUpGateway texts s board agents gateway
  let gatewayAgents := gatewayAgents.filter fun agentId => .agentsDelete agentId ∉ calls
  match cleaned >>= fun _ => deleteRows s (boardStatements board.id taskIds (agents.map (·.id))) with
  | .ok t => { answer := .ok (), store := t, gatewayAgents }
  -- nothing is committed
  | .error e => { answer := .error e, store := s, gatewayAgents }

/-- A deletion that succeeds leaves no row that names a deleted one, and one that fails has changed nothing. -/
def CompleteOrNothing (s : RowStore) (board : BoardRefs) (gatewayAgents : List String) (d : BoardDeletion) : Prop :=
  match d.answer with
  | .ok _ => (∀ r ∈ d.store, key r ≠ (.boards, [board.id])) ∧
      ∀ r ∈ d.store, ∀ n, n ∈ refs r ∨ n ∈ cascadeRefs r → ∀ gone ∈ s, gone ∉ d.store → key gone ≠ (n.1, [n.2])
  | .error _ => (∀ r, r ∈ d.store ↔ r ∈ s) ∧ d.gatewayAgents = gatewayAgents

/-! ## What the gateway has done -/

def fatal (missing : String → Bool) : Except RunError PUnit → Bool
  | .ok _ => false
  | .error (.gateway message) => !missing message
  | .error _ => true

def passed (missing : String → Bool) (answer : Except RunError PUnit) : Except RunError PUnit :=
  if fatal missing answer then answer else .ok ⟨⟩

theorem passed_eq_ok {missing : String → Bool} {answer : Except RunError PUnit} :
    passed missing answer = .ok ⟨⟩ ↔ fatal missing answer = false := by
  unfold passed
  cases answer with
  | ok _ => simp [fatal]
  | error e => cases h : fatal missing (.error e) <;> simp

theorem fatal_passed (missing missing' : String → Bool) (answer : Except RunError PUnit) :
    fatal missing' (passed missing answer) = fatal (fun m => missing m || missing' m) answer := by
  unfold passed
  rcases answer with (message | _ | _) | _
  · cases hmissing : missing message <;> simp [fatal, hmissing]
  all_goals rfl

section Gateway
variable (texts : KeyTexts) (gateway : CleanupGateway)

def agentFails (agent : AgentRow) : Bool :=
  fatal (isMissingAgentError texts) (gateway (.agentsDelete (texts.agentKey agent))).answer ||
    fatal (fun m => isMissingSessionError texts m || isMissingGatewayAgentError texts m)
      (gateway (.sessionsDelete (boardSessionKey agent.toAgent))).answer

/-- The agents up to the first whose clean-up fails. -/
def reachedAgents : List AgentRow → List AgentRow
  | [] => []
  | agent :: rest => agent :: if agentFails texts gateway agent then [] else reachedAgents rest

theorem run_passing (missing : String → Bool) (m : CleanupM PUnit) :
    passing missing m gateway = (passed missing (m gateway).1, (m gateway).2) := by
  unfold passed
  rcases hm : m gateway with ⟨(message | _ | _) | _, calls⟩
  · refine (rescue_of_error hm).trans ?_
    cases hmissing : missing message <;> simp [fatal, hmissing, pure, raise]
  · exact (rescue_of_error hm).trans (by simp [fatal, raise])
  · exact (rescue_of_error hm).trans (by simp [fatal, raise])
  · exact rescue_of_ok hm

theorem cleanup_agent (agent : AgentRow) :
    ((passing (isMissingGatewayAgentError texts) (deleteAgentLifecycle texts agent) gateway).1 = .ok ⟨⟩ ↔
      agentFails texts gateway agent = false) ∧
    ∀ k, .agentsDelete k ∈ (passing (isMissingGatewayAgentError texts) (deleteAgentLifecycle texts agent) gateway).2 ↔
      k = texts.agentKey agent ∧ (gateway (.agentsDelete (texts.agentKey agent))).done = true := by
  have hfirst := run_passing gateway (isMissingAgentError texts)
    (call (.agentsDelete (texts.agentKey agent)))
  have hsecond := run_passing gateway (isMissingSessionError texts)
    (call (.sessionsDelete (boardSessionKey agent.toAgent)))
  rw [isMissingGatewayAgentError, run_passing gateway, passed_eq_ok, deleteAgentLifecycle, agentFails,
    isMissingGatewayAgentError, Bool.or_eq_false_iff, ← fatal_passed]
  cases hpassed : passed (isMissingAgentError texts)
      ((call (.agentsDelete (texts.agentKey agent)) : CleanupM PUnit) gateway).1 with
  | error e =>
    rw [hpassed] at hfirst
    rw [bind_of_error hfirst, ← hpassed, fatal_passed]
    simp only [Bool.or_self]
    -- the second call is not made
    have hfatal : ¬ fatal (isMissingAgentError texts)
        (gateway (.agentsDelete (texts.agentKey agent))).answer = false := by
      intro h
      cases hpassed.symm.trans (passed_eq_ok.mpr h)
    refine ⟨iff_of_false hfatal fun h => hfatal h.1, fun k => ?_⟩
    rw [mem_call, CleanupCall.agentsDelete.injEq]
  | ok u =>
    rw [hpassed] at hfirst
    rw [bind_of_ok hfirst, hsecond]
    refine ⟨(and_iff_right (passed_eq_ok.mp hpassed)).symm, fun k => ?_⟩
    rw [List.mem_append, mem_call, mem_call]
    simp

/-- The loop ends well where no clean-up fails, and has removed agents up to the first that does. -/
theorem cleanup_agents (agents : List AgentRow) :
    ((deleteBoardAgents texts agents gateway).1 = .ok ⟨⟩ ↔ ∀ a ∈ agents, agentFails texts gateway a = false) ∧
    ∀ k, .agentsDelete k ∈ (deleteBoardAgents texts agents gateway).2 ↔
      ∃ a ∈ reachedAgents texts gateway agents,
        k = texts.agentKey a ∧ (gateway (.agentsDelete (texts.agentKey a))).done = true := by
  induction agents with
  | nil => simp [deleteBoardAgents, reachedAgents, pure]
  | cons agent rest ih =>
    obtain ⟨hends, hcalls⟩ := cleanup_agent texts gateway agent
    rw [deleteBoardAgents, reachedAgents]
    rcases hrun : passing (isMissingGatewayAgentError texts) (deleteAgentLifecycle texts agent) gateway with ⟨e | u, calls⟩
    all_goals rw [hrun] at hends hcalls
    · have hfails : agentFails texts gateway agent = true := by simpa using hends
      rw [bind_of_error hrun, hfails, if_pos rfl]
      refine ⟨?_, fun k => by rw [hcalls]; simp⟩
      exact iff_of_false nofun fun h => absurd hfails (by rw [h agent List.mem_cons_self]; exact Bool.false_ne_true)
    · have hpasses : agentFails texts gateway agent = false := hends.mp rfl
      rw [bind_of_ok hrun, hpasses, if_neg Bool.false_ne_true]
      refine ⟨?_, fun k => ?_⟩
      · rw [ih.1, List.forall_mem_cons, and_iff_right hpasses]
      · rw [List.mem_append, hcalls, ih.2, List.exists_mem_cons_iff]

end Gateway

/-! ## What the rows allow -/

/-- A row that stays names nothing that is deleted with the board. -/
def BoardKeeps (s : RowStore) (boardId : Uuid) : Row → Prop :=
  let tasks := (boardTaskIds boardId).eval s.rows
  let agents := (boardAgents s boardId).map (·.id)
  let approvals := (Ids.select .approvals .boardId (.given [boardId])).eval s.rows
  let webhooks := (Ids.select .boardWebhooks .boardId (.given [boardId])).eval s.rows
  fun
    | .taskExecutionRun run =>
      run.boardId ≠ boardId ∧ run.taskId ∉ tasks ∧ ∀ agentId ∈ run.requestedByAgentId, agentId ∉ agents
    | .siloSpawnRequest request => request.boardId ≠ some boardId ∧ ∀ taskId ∈ request.sourceTaskId, taskId ∉ tasks
    -- rows of other boards
    | .taskDependency d => d.boardId ≠ boardId → d.taskId ∉ tasks ∧ d.dependsOnTaskId ∉ tasks
    | .taskFingerprint f => f.boardId ≠ boardId → f.taskId ∉ tasks
    | .approvalTaskLink l => l.approvalId ∉ approvals → l.taskId ∉ tasks
    | .approval a =>
      a.boardId ≠ boardId → (∀ taskId ∈ a.taskId, taskId ∉ tasks) ∧ ∀ agentId ∈ a.agentId, agentId ∉ agents
    | .task t => t.boardId ≠ some boardId → ∀ agentId ∈ t.assignedAgentId, agentId ∉ agents
    | .boardWebhook w => w.boardId ≠ boardId → ∀ agentId ∈ w.agentId, agentId ∉ agents
    | .boardWebhookPayload p => p.boardId ≠ boardId → p.webhookId ∉ webhooks
    | _ => True

/-- The statements without regard to whether the board has tasks or agents. -/
def boardPlan (boardId : Uuid) (taskIds agentIds : List Uuid) : List (Delete TableName ColumnName Uuid) :=
  boardTaskItems taskIds ++ boardItems boardId ++ agentItems agentIds ++ [⟨.boards, [.id], .given [boardId]⟩]

section Rows
variable {s : RowStore} {boardId : Uuid}

theorem run?_boardStatements (s : RowStore) (boardId : Uuid) (taskIds agentIds : List Uuid) :
    s.run? (boardStatements boardId taskIds agentIds) = s.run? (boardPlan boardId taskIds agentIds) := by
  have htasks : ∀ s : RowStore, s.run? (if taskIds = [] then [] else boardTaskItems taskIds) =
      s.run? (boardTaskItems taskIds) := by
    intro s
    split
    · rename_i hnil
      have hgiven : ∀ d ∈ boardTaskItems taskIds, d.ids = .given [] := by simp [boardTaskItems, hnil]
      rw [run?_of_given_nil s hgiven]
      rfl
    · rfl
  have hagents : ∀ s : RowStore, s.run? (if agentIds = [] then [] else agentItems agentIds) =
      s.run? (agentItems agentIds) := by
    intro s
    split
    · rename_i hnil
      have hgiven : ∀ d ∈ agentItems agentIds, d.ids = .given [] := by simp [agentItems, hnil]
      rw [run?_of_given_nil s hgiven]
      rfl
    · rfl
  rw [boardStatements, boardPlan]
  simp only [run?_append, htasks, hagents]

/-- The tables from which rows are deleted, in this order, and those that are read for it. -/
def boardReads : List (TableName × List TableName) :=
  [(.activityEvents, []), (.tagAssignments, []), (.taskCustomFieldValues, []), (.activityEvents, []),
   (.taskDependencies, []), (.taskFingerprints, []), (.approvalTaskLinks, [.approvals]), (.approvals, []),
   (.boardMemory, []), (.boardWebhookPayloads, []), (.boardWebhooks, []), (.boardOnboardingSessions, []),
   (.organizationBoardAccess, []), (.organizationInviteBoardAccess, []), (.boardTaskCustomFields, []), (.tasks, []),
   (.activityEvents, []), (.agents, []), (.boards, [])]

theorem reads_boardPlan (boardId : Uuid) (taskIds agentIds : List Uuid) :
    (boardPlan boardId taskIds agentIds).map (fun d => (d.table, d.ids.reads)) = boardReads := rfl

theorem steady_boardPlan (boardId : Uuid) (taskIds agentIds : List Uuid) :
    Steady Row (boardPlan boardId taskIds agentIds) :=
  steady_of_reads (reads_boardPlan boardId taskIds agentIds) (by decide) (by decide)

/-- The statements, with the tasks and the agents the board has. -/
def plannedFor (s : RowStore) (boardId : Uuid) : List (Delete TableName ColumnName Uuid) :=
  boardPlan boardId ((boardTaskIds boardId).eval s.rows) ((boardAgents s boardId).map (·.id))

theorem mem_boardAgents {boardId : Uuid} {agent : AgentRow} :
    agent ∈ boardAgents s boardId ↔ .agent agent ∈ s ∧ agent.boardId = some boardId := by
  unfold boardAgents
  rw [List.mem_filterMap]
  constructor
  · rintro ⟨r, hr, heq⟩
    cases r with
    | agent a =>
      obtain ⟨hboard, rfl⟩ : a.boardId = some boardId ∧ a = agent := by simpa using heq
      exact ⟨hr, hboard⟩
    | _ => cases heq
  · rintro ⟨hr, hboard⟩
    exact ⟨_, hr, by simp [hboard]⟩

def goneWithBoard (s : RowStore) (boardId : Uuid) : TableName → List Uuid
  | .tasks => (boardTaskIds boardId).eval s.rows
  | .agents => (boardAgents s boardId).map (·.id)
  | .approvals => (Ids.select .approvals .boardId (.given [boardId])).eval s.rows
  | .boardWebhooks => (Ids.select .boardWebhooks .boardId (.given [boardId])).eval s.rows
  | .boards => [boardId]
  | _ => []

theorem removed_agents (s : RowStore) (boardId agentId : Uuid) :
    agentId ∈ (⟨.agents, [.id], .given ((boardAgents s boardId).map (·.id))⟩ :
      Delete TableName ColumnName Uuid).removed s.rows ↔ agentId ∈ goneWithBoard s boardId .agents := by
  rw [mem_removed_by_id]
  show _ ↔ agentId ∈ (boardAgents s boardId).map (·.id)
  rw [and_iff_left_iff_imp, List.mem_map]
  rintro ⟨agent, hagent, rfl⟩
  exact ⟨.agent agent, (mem_boardAgents.mp hagent).1, rfl⟩

variable {board : BoardRefs}

theorem removed_board (hboard : .board board ∈ s) (i : Uuid) :
    i ∈ (⟨.boards, [.id], .given [board.id]⟩ : Delete TableName ColumnName Uuid).removed s.rows ↔
      i ∈ goneWithBoard s board.id .boards := by
  rw [mem_removed_by_id]
  show _ ↔ i ∈ [board.id]
  rw [List.mem_singleton, and_iff_left_iff_imp]
  rintro rfl
  exact ⟨.board board, hboard, rfl⟩

theorem gone_plannedFor_iff (hboard : .board board ∈ s) {n : TableName × Uuid} (hn : n.1 ∈ namedTables) :
    Gone s.rows (plannedFor s board.id) n ↔ n.2 ∈ goneWithBoard s board.id n.1 := by
  obtain ⟨t, i⟩ := n
  unfold Gone
  simp only [plannedFor, boardPlan, boardTaskItems, boardItems, agentItems, List.cons_append, List.nil_append,
    List.exists_mem_cons_iff, List.not_mem_nil, false_and, exists_false, or_false]
  simp only [namedTables, List.mem_cons, List.not_mem_nil, or_false] at hn
  rcases hn with rfl | rfl | rfl | rfl | rfl | rfl | rfl | rfl | rfl | rfl | rfl | rfl | rfl | rfl | rfl | rfl <;>
    simp only [reduceCtorEq, false_and, true_and, false_or, or_false, removed_agents, removed_board hboard] <;>
    first | rfl | exact (iff_of_false id List.not_mem_nil)

def GoesWithBoard (s : RowStore) (boardId : Uuid) : Row → Prop
  | .tagAssignment a => a.taskId ∈ goneWithBoard s boardId .tasks
  | .taskCustomFieldValue v => v.taskId ∈ goneWithBoard s boardId .tasks
  | .taskDependency d => d.boardId = boardId
  | .taskFingerprint f => f.boardId = boardId
  | .approvalTaskLink l => l.approvalId ∈ goneWithBoard s boardId .approvals
  | .approval a => a.boardId = boardId
  | .boardMemory m => m.boardId = boardId
  | .boardWebhookPayload p => p.boardId = boardId
  | .boardWebhook w => w.boardId = boardId
  | .boardOnboardingSession o => o.boardId = boardId
  | .organizationBoardAccess a => a.boardId = boardId
  | .organizationInviteBoardAccess a => a.boardId = boardId
  | .boardTaskCustomField f => f.boardId = boardId
  | .task t => t.boardId = some boardId
  | .agent a => a.id ∈ goneWithBoard s boardId .agents
  | .board b => b.id = boardId
  | _ => False

theorem taken_plannedFor_iff (s : RowStore) (boardId : Uuid) {r : Row} (hr : tableOf r ≠ .activityEvents) :
    Taken s.rows (plannedFor s boardId) r ↔ GoesWithBoard s boardId r := by
  have huntouched : (∀ t ∈ boardReads.map (·.1), ¬ Touches Row t (tableOf r)) → ¬ Taken s.rows (plannedFor s boardId) r :=
    fun h => not_taken_of_untouched h
  cases r with
  | activityEvent e => exact absurd rfl hr
  | tagAssignment | taskCustomFieldValue | approvalTaskLink | agent =>
    exact (taken_iff_mem rfl rfl rfl rfl).trans Iff.rfl
  | taskDependency | taskFingerprint | approval | boardMemory | boardWebhookPayload | boardWebhook
  | boardOnboardingSession | organizationBoardAccess | organizationInviteBoardAccess | boardTaskCustomField | board =>
    exact (taken_iff_mem rfl rfl rfl rfl).trans List.mem_singleton
  | task t =>
    refine (taken_iff_of_column (c := .boardId) rfl rfl rfl).trans ⟨?_, ?_⟩
    · rintro ⟨i, hi, hboard⟩
      exact List.mem_singleton.mp hi ▸ hboard
    · exact fun h => ⟨boardId, List.mem_singleton_self _, h⟩
  | _ => exact iff_of_false (huntouched (by simp only [tableOf, key_eq, Row.key]; decide)) id

theorem before_boardPlan {t : TableName} (ht : t ≠ .activityEvents) :
    ∀ k ∈ checkedKeys t, Before Row t k.2 (boardReads.map (·.1)) := by
  cases t <;> first | exact absurd rfl ht | decide

theorem noLater_activityEvent (hboard : .board board ∈ s) (e : ActivityEventRow) {n : TableName × Uuid}
    (hn : n ∈ refs (Row.activityEvent e)) :
    NoLater s.rows (plannedFor s board.id) (.activityEvent e) n := by
  have hnamed := table_named hn
  obtain ⟨c, hcolumn, htakes⟩ := takes_event hn
  obtain ⟨t, i⟩ := n
  by_cases hgone : i ∈ goneWithBoard s board.id t
  · rcases hcolumn with ⟨rfl, rfl⟩ | ⟨rfl, rfl⟩
    · -- the events of the agents go right before the agents
      have hplan : plannedFor s board.id = (boardTaskItems ((boardTaskIds board.id).eval s.rows) ++ boardItems board.id) ++
          ⟨.activityEvents, [.agentId], .given ((boardAgents s board.id).map (·.id))⟩ ::
            [⟨.agents, [.id], .given ((boardAgents s board.id).map (·.id))⟩, ⟨.boards, [.id], .given [board.id]⟩] := rfl
      rw [hplan]
      exact noLater_of_takes (by simp [boardTaskItems, boardItems]) (htakes _ _ hgone)
    · -- the events of the tasks go first
      have hplan : plannedFor s board.id = [] ++ ⟨.activityEvents, [.taskId], .given ((boardTaskIds board.id).eval s.rows)⟩ ::
          (plannedFor s board.id).tail := rfl
      rw [hplan]
      exact noLater_of_takes (by simp) (htakes _ _ hgone)
  · exact noLater_of_not_gone fun h => hgone ((gone_plannedFor_iff hboard hnamed).mp h)

theorem forall_noLater_plannedFor (hboard : .board board ∈ s) {r : Row} (hr : r ∈ s) :
    (∀ n ∈ refs r, NoLater s.rows (plannedFor s board.id) r n) ↔ BoardKeeps s board.id r := by
  by_cases hevent : tableOf r = .activityEvents
  · obtain ⟨e, rfl⟩ : ∃ e, r = .activityEvent e := by
      cases r <;> first | exact ⟨_, rfl⟩ | cases hevent
    exact iff_of_true (fun n hn => noLater_activityEvent hboard e hn) trivial
  · have hlater : (∀ n ∈ refs r, NoLater s.rows (plannedFor s board.id) r n) ↔
        GoesWithBoard s board.id r ∨ ∀ n ∈ refs r, n.2 ∉ goneWithBoard s board.id n.1 := by
      have hone : ∀ n ∈ refs r, NoLater s.rows (plannedFor s board.id) r n ↔
          GoesWithBoard s board.id r ∨ n.2 ∉ goneWithBoard s board.id n.1 := by
        intro n hn
        obtain ⟨c, hc, -⟩ := mem_named.mp hn
        have hbefore : Before Row (tableOf r) n.1 ((plannedFor s board.id).map (·.table)) :=
          before_boardPlan hevent _ hc
        rw [noLater_iff_of_before hbefore, taken_plannedFor_iff s board.id hevent,
          gone_plannedFor_iff hboard (table_named hn)]
      rw [forall₂_congr hone]
      by_cases hgoes : GoesWithBoard s board.id r
      · exact iff_of_true (fun _ _ => .inl hgoes) (.inl hgoes)
      · simp only [hgoes, false_or]
    rw [hlater, forall_refs]
    cases r with
    | activityEvent e => exact absurd rfl hevent
    | agent a =>
      -- an agent of the board goes with it
      refine iff_of_true ?_ trivial
      by_cases hown : a.boardId = some board.id
      · exact .inl (List.mem_map_of_mem (mem_boardAgents.mpr ⟨hr, hown⟩))
      · refine .inr fun k hk i hi hgone => ?_
        have hkeys : k ∈ [(ColumnName.boardId, TableName.boards), (.gatewayId, .gateways)] := hk
        simp only [List.mem_cons, List.not_mem_nil, or_false] at hkeys
        rcases hkeys with rfl | rfl
        · exact hown (List.mem_singleton.mp hgone ▸ hi)
        · exact List.not_mem_nil hgone
    | tagAssignment | taskCustomFieldValue | approvalTaskLink =>
      simp only [tableOf, key_eq, Row.key, foreignKeys_eq, checkedKeys, List.forall_mem_cons, List.not_mem_nil,
        false_implies, implies_true, and_true, column_eq, Row.column, Option.some.injEq, forall_eq', GoesWithBoard,
        goneWithBoard, not_false_eq_true, ne_eq, BoardKeeps]
      grind
    | taskExecutionRun =>
      simp only [tableOf, key_eq, Row.key, foreignKeys_eq, checkedKeys, List.forall_mem_cons, List.not_mem_nil,
        false_implies, implies_true, and_true, column_eq, Row.column, Option.some.injEq, forall_eq', GoesWithBoard,
        goneWithBoard, false_or, not_false_eq_true, true_and, BoardKeeps]
      simp only [List.mem_singleton, Option.mem_def, ne_eq]
    | siloSpawnRequest | taskDependency | taskFingerprint | approval | task | boardWebhook | boardWebhookPayload
    | boardMemory | boardOnboardingSession | organizationBoardAccess | organizationInviteBoardAccess
    | boardTaskCustomField =>
      simp only [tableOf, key_eq, Row.key, foreignKeys_eq, checkedKeys, List.forall_mem_cons, List.not_mem_nil,
        false_implies, implies_true, and_true, column_eq, Row.column, Option.some.injEq, forall_eq', GoesWithBoard,
        goneWithBoard, false_or, not_false_eq_true, true_and, Row.boardItemColumn, BoardKeeps]
      simp only [List.mem_singleton, Option.mem_def, ne_eq]
      grind
    | _ =>
      -- rows that name none of the rows that go
      simp only [tableOf, key_eq, Row.key, foreignKeys_eq, checkedKeys, List.forall_mem_cons, List.not_mem_nil,
        false_implies, implies_true, and_true, goneWithBoard, not_false_eq_true, or_true, BoardKeeps]

theorem exists_deleteRows_board (hboard : .board board ∈ s) :
    (∃ t, deleteRows s (plannedFor s board.id) = .ok t) ↔ ∀ r ∈ s, BoardKeeps s board.id r := by
  refine (exists_deleteRows (steady_boardPlan _ _ _)).trans ?_
  exact forall₂_congr fun r hr => forall_noLater_plannedFor hboard hr

theorem complete_of_deleteRows {t : RowStore} (h : deleteRows s (plannedFor s board.id) = .ok t) :
    (∀ r ∈ t, key r ≠ (.boards, [board.id])) ∧
      ∀ r ∈ t, ∀ n, n ∈ refs r ∨ n ∈ cascadeRefs r → ∀ gone ∈ s, gone ∉ t → key gone ≠ (n.1, [n.2]) := by
  have hmem := mem_run?_iff (steady_boardPlan _ _ _) (orFail_eq_ok.mp h)
  refine ⟨fun r hr hkey => ?_, fun r hr n hn gone hgone hstays => ?_⟩
  · refine ((hmem r).mp hr).2 ⟨_, List.mem_append_right _ (List.mem_singleton_self _), .inl ?_⟩
    rw [← Bool.not_eq_false, clause_by_id_eq_false]
    exact not_not.mpr hkey
  · exact Store.not_named_of_gone (fun r hr => ((hmem r).mp hr).1) hr hn hgone hstays

end Rows

/-! ## Complete or nothing -/

section Deletion
variable {texts : KeyTexts} {s : RowStore} {board : BoardRefs} {gateway : CleanupGateway}

def cleanupAgents (s : RowStore) (board : BoardRefs) : List AgentRow :=
  if board.gatewayId = none then []
  else
    match requireGatewayForBoard s board with
    | .ok _ => boardAgents s board.id
    | .error _ => []

theorem cleanUpGateway_iff :
    ((cleanUpGateway texts s board (boardAgents s board.id) gateway).1 = .ok () ↔
      (board.gatewayId = none ∨ ∃ g, requireGatewayForBoard s board = .ok g) ∧
        ∀ a ∈ cleanupAgents s board, agentFails texts gateway a = false) ∧
    ∀ k, .agentsDelete k ∈ (cleanUpGateway texts s board (boardAgents s board.id) gateway).2 ↔
      ∃ a ∈ reachedAgents texts gateway (cleanupAgents s board),
        k = texts.agentKey a ∧ (gateway (.agentsDelete (texts.agentKey a))).done = true := by
  unfold cleanUpGateway cleanupAgents
  by_cases hnone : board.gatewayId = none
  · simp [hnone, reachedAgents]
  rw [if_neg hnone, if_neg hnone]
  cases hgateway : requireGatewayForBoard s board with
  | error e => simp [hnone, reachedAgents]
  | ok g =>
    obtain ⟨hends, hcalls⟩ := cleanup_agents texts gateway (boardAgents s board.id)
    dsimp only
    rcases hrun : deleteBoardAgents texts (boardAgents s board.id) gateway with ⟨e | u, calls⟩
    all_goals
      rw [hrun] at hends hcalls
      refine ⟨?_, hcalls⟩
      rw [and_iff_right (.inr ⟨g, rfl⟩), ← hends]
      simp

theorem deleteRows_boardStatements (s : RowStore) (boardId : Uuid) :
    deleteRows s (boardStatements boardId ((boardTaskIds boardId).eval s.rows) ((boardAgents s boardId).map (·.id))) =
      deleteRows s (plannedFor s boardId) := by
  rw [deleteRows, run?_boardStatements]
  rfl

/-- What a deletion comes to: its answer and the database are those of the statements, if they are run. -/
theorem deleteBoard_eq (gatewayAgents : List String) : deleteBoard texts s board gateway gatewayAgents =
    { answer := ((cleanUpGateway texts s board (boardAgents s board.id) gateway).1 >>= fun _ =>
        deleteRows s (plannedFor s board.id)).map fun _ => ()
      store := ((cleanUpGateway texts s board (boardAgents s board.id) gateway).1 >>= fun _ =>
        deleteRows s (plannedFor s board.id)).toOption.getD s
      gatewayAgents := gatewayAgents.filter fun k =>
        .agentsDelete k ∉ (cleanUpGateway texts s board (boardAgents s board.id) gateway).2 } := by
  unfold deleteBoard
  simp only [deleteRows_boardStatements]
  cases (cleanUpGateway texts s board (boardAgents s board.id) gateway).1 >>= fun _ =>
    deleteRows s (plannedFor s board.id) <;> rfl

theorem deleteBoard_succeeds (hboard : .board board ∈ s) (gatewayAgents : List String) :
    (deleteBoard texts s board gateway gatewayAgents).answer = .ok () ↔
      ((board.gatewayId = none ∨ ∃ g, requireGatewayForBoard s board = .ok g) ∧
        ∀ a ∈ cleanupAgents s board, agentFails texts gateway a = false) ∧ ∀ r ∈ s, BoardKeeps s board.id r := by
  rw [deleteBoard_eq, ← cleanUpGateway_iff.1, ← exists_deleteRows_board hboard]
  dsimp only
  rcases (cleanUpGateway texts s board (boardAgents s board.id) gateway).1 with e | u
  · exact iff_of_false nofun nofun
  · show (deleteRows s (plannedFor s board.id)).map _ = _ ↔ _
    cases deleteRows s (plannedFor s board.id) with
    | error e => exact iff_of_false nofun nofun
    | ok t => exact iff_of_true rfl ⟨rfl, t, rfl⟩

/-- No agent of the gateway has been removed from it. -/
def GatewayKept (texts : KeyTexts) (s : RowStore) (board : BoardRefs) (gateway : CleanupGateway)
    (gatewayAgents : List String) : Prop :=
  ∀ a ∈ reachedAgents texts gateway (cleanupAgents s board),
    (gateway (.agentsDelete (texts.agentKey a))).done = true → texts.agentKey a ∉ gatewayAgents

variable {gatewayAgents : List String}

theorem gatewayKept_iff : GatewayKept texts s board gateway gatewayAgents ↔
    (deleteBoard texts s board gateway gatewayAgents).gatewayAgents = gatewayAgents := by
  rw [deleteBoard_eq, List.filter_eq_self]
  simp only [decide_eq_true_eq, cleanUpGateway_iff.2]
  constructor
  · rintro h k hk ⟨a, ha, rfl, hdone⟩
    exact h a ha hdone hk
  · exact fun h a ha hdone hk => h _ hk ⟨a, ha, rfl, hdone⟩

theorem completeOrNothing_of_ok (h : (deleteBoard texts s board gateway gatewayAgents).answer = .ok ()) :
    CompleteOrNothing s board gatewayAgents (deleteBoard texts s board gateway gatewayAgents) := by
  rw [CompleteOrNothing, h]
  rw [deleteBoard_eq] at h ⊢
  dsimp only at h ⊢
  cases hran : (cleanUpGateway texts s board (boardAgents s board.id) gateway).1 >>= fun _ =>
      deleteRows s (plannedFor s board.id) with
  | error e =>
    rw [hran] at h
    cases h
  | ok t =>
    obtain ⟨_, -, hdeleted⟩ := bind_eq_ok.mp hran
    exact complete_of_deleteRows hdeleted

theorem completeOrNothing_iff_of_failed (h : (deleteBoard texts s board gateway gatewayAgents).answer ≠ .ok ()) :
    CompleteOrNothing s board gatewayAgents (deleteBoard texts s board gateway gatewayAgents) ↔
      GatewayKept texts s board gateway gatewayAgents := by
  rw [gatewayKept_iff]
  cases hanswer : (deleteBoard texts s board gateway gatewayAgents).answer with
  | ok u => exact absurd hanswer h
  | error e =>
    rw [CompleteOrNothing, hanswer]
    refine and_iff_right fun r => ?_
    rw [deleteBoard_eq] at hanswer ⊢
    cases hran : (cleanUpGateway texts s board (boardAgents s board.id) gateway).1 >>= fun _ =>
        deleteRows s (plannedFor s board.id) with
    | ok t =>
      rw [hran] at hanswer
      cases hanswer
    | error e => exact Iff.rfl

/-- **A board is deleted completely or not at all** exactly where no agent is removed from its gateway, or no clean-up
fails and no row that stays names one that goes. -/
theorem boardDeletion_iff (hboard : .board board ∈ s) (gatewayAgents : List String) :
    CompleteOrNothing s board gatewayAgents (deleteBoard texts s board gateway gatewayAgents) ↔
      GatewayKept texts s board gateway gatewayAgents ∨
        ((∀ a ∈ cleanupAgents s board, agentFails texts gateway a = false) ∧ ∀ r ∈ s, BoardKeeps s board.id r) := by
  have hsucceeds := @deleteBoard_succeeds texts s board gateway hboard gatewayAgents
  by_cases hanswer : (deleteBoard texts s board gateway gatewayAgents).answer = .ok ()
  · obtain ⟨⟨-, hpass⟩, hkeeps⟩ := hsucceeds.mp hanswer
    exact iff_of_true (completeOrNothing_of_ok hanswer) (.inr ⟨hpass, hkeeps⟩)
  · rw [completeOrNothing_iff_of_failed hanswer]
    refine ⟨.inl, ?_⟩
    rintro (hkept | ⟨hpass, hkeeps⟩)
    · exact hkept
    · -- there was no gateway to call
      have hnothing : cleanupAgents s board = [] := by
        unfold cleanupAgents
        split
        · rfl
        · cases hgateway : requireGatewayForBoard s board with
          | error _ => rfl
          | ok g => exact absurd (hsucceeds.mpr ⟨⟨.inr ⟨g, hgateway⟩, hpass⟩, hkeeps⟩) hanswer
      intro a ha
      rw [hnothing] at ha
      exact absurd ha List.not_mem_nil

end Deletion

def staffedRows : List Row :=
  [.organization 1, .gateway { id := 6, organizationId := 1, url := "ws://gateway", workspaceRoot := "/work" },
   .board { id := 2, organizationId := 1, gatewayId := some 6 },
   .agent { id := 7, boardId := some 2, gatewayId := 6, name := "Ada" },
    .task { id := 4, boardId := some 2, title := "Ship" }]

def staffedStore : RowStore := .ofRows staffedRows (by decide) (by decide)

def staffedExecutedStore : RowStore :=
  .ofRows (staffedRows ++
    [.silo { id := 3, organizationId := 1 },
     .taskExecutionRun
       { id := 5, organizationId := 1, boardId := 2, taskId := 4, siloId := 3, roleSlug := "worker", status := .succeeded }])
    (by decide) (by decide)

def staffedBoard : BoardRefs := { id := 2, organizationId := 1, gatewayId := some 6 }

def willingGateway : CleanupGateway := fun _ => { done := true, answer := .ok ⟨⟩ }

def asciiTexts : KeyTexts where
  lower text := String.ofList (text.toList.map Char.toLower)
  uuidHex := "0"

theorem staffedBoard_mem : Row.board staffedBoard ∈ staffedStore :=
  List.mem_cons_of_mem _ (List.mem_cons_of_mem _ List.mem_cons_self)

/-- **A board with an executed task** is not deleted, but its agent is gone from the gateway. -/
theorem not_boardDeletion : ¬ ∀ (texts : KeyTexts) (s : RowStore) (board : BoardRefs) (gateway : CleanupGateway)
    (gatewayAgents : List String), .board board ∈ s →
      CompleteOrNothing s board gatewayAgents (deleteBoard texts s board gateway gatewayAgents) := by
  intro h
  let agent : AgentRow := { id := 7, boardId := some 2, gatewayId := 6, name := "Ada" }
  let agentId := asciiTexts.agentKey agent
  have hboard : Row.board staffedBoard ∈ staffedExecutedStore :=
    List.mem_cons_of_mem _ (List.mem_cons_of_mem _ List.mem_cons_self)
  have hfailed : (deleteBoard asciiTexts staffedExecutedStore staffedBoard willingGateway [agentId]).answer ≠ .ok () := by
    intro hanswer
    have hkeeps := ((@deleteBoard_succeeds asciiTexts staffedExecutedStore staffedBoard willingGateway hboard
      [agentId]).mp hanswer).2 _ (List.mem_append_right _ (List.mem_cons_of_mem _ List.mem_cons_self))
    exact hkeeps.1 rfl
  have hkept := (completeOrNothing_iff_of_failed hfailed).mp
    (h asciiTexts staffedExecutedStore staffedBoard willingGateway [agentId] hboard)
  have hgateway : (requireGatewayForBoard staffedExecutedStore staffedBoard).isOk = true := by decide
  have hagents : cleanupAgents staffedExecutedStore staffedBoard = [agent] := by
    rw [cleanupAgents, if_neg nofun]
    cases hready : requireGatewayForBoard staffedExecutedStore staffedBoard with
    | ok g => rfl
    | error e =>
      rw [hready] at hgateway
      cases hgateway
  have hreached : agent ∈ reachedAgents asciiTexts willingGateway (cleanupAgents staffedExecutedStore staffedBoard) := by
    rw [hagents, reachedAgents]
    exact List.mem_cons_self
  exact hkept agent hreached rfl (List.mem_singleton_self agentId)

theorem boardDeletion_staffed : CompleteOrNothing staffedStore staffedBoard ["mc-7"]
    (deleteBoard asciiTexts staffedStore staffedBoard willingGateway ["mc-7"]) := by
  have h := @boardDeletion_iff asciiTexts staffedStore staffedBoard willingGateway staffedBoard_mem ["mc-7"]
  refine h.mpr (.inr ⟨fun a _ => ?_, ?_⟩)
  · rfl
  · simp [staffedStore, staffedRows, Store.mem_def, Store.ofRows, BoardKeeps, staffedBoard]

end SiloForge.Cascades
