import SiloForge.Agents.Outcomes

/-!
# Agents live where their board lives

The row of an agent repeats the gateway of its board and keeps the key of its session there. Creations, ensured leads
and heartbeats write both from the board; the update of a board leaves the copies of its agents as they are, and the
PATCH of an agent commits a move before it looks at the key.

* `AtHome` : the copies agree with the board, or with the gateway of a main agent;
* `leavesBehind` : the requests that leave an agent behind;
* `homesKept` : in a run without one, every agent is at home in every state.
-/

namespace SiloForge

open Lib

/-- An agent has the gateway of its board and the key it should have; one without a board has the main key of its
gateway. -/
def AtHome (s : AgentDb) (agent : PlacedAgent) : Prop :=
  match agent.boardId with
  | none => (s.gateways.get? agent.gatewayId).any
      (fun gateway => agent.openclawSessionId = some (gatewaySessionKey gateway.id)) = true
  | some boardId => (s.boards.get? boardId).any (fun board => board.gatewayId = some agent.gatewayId) = true ∧
      agent.openclawSessionId = (resolveSessionKey agent).toOption

instance (s : AgentDb) (agent : PlacedAgent) : Decidable (AtHome s agent) := by
  unfold AtHome
  split <;> infer_instance

def HomesKept (s : AgentDb) : Prop := ∀ agent ∈ s.agents.rows, AtHome s agent

instance (s : AgentDb) : Decidable (HomesKept s) :=
  inferInstanceAs (Decidable (∀ agent ∈ s.agents.rows, AtHome s agent))

/-- The request leaves an agent behind: it changes the gateway of a board with agents, moves a lead to another board,
or takes the main flag from an agent. -/
def leavesBehind (s : AgentDb) : AgentRequest → Bool
  | .updateBoard boardId userId payload =>
    (s.boards.get? boardId).any fun board =>
      (requireBoardAccess s.access userId board.toBoard true).isOk && payload.maxAgents ≠ some none &&
        (payload.gatewayId.any fun gatewayId => board.gatewayId ≠ some gatewayId &&
          (requireOrgGateway s gatewayId board.organizationId).isOk) && !(s.onBoard boardId).isEmpty
  | .updateAgent agentId member payload _ _ =>
    (s.agents.get? agentId).any fun agent =>
      (requireAgentAccess s agent member true).isOk && (validateAgentUpdateInputs s member payload).isOk &&
        payload.name ≠ some none && (payload.boardId.join.bind s.boards.get?).any fun board =>
          board.gatewayId.isSome && (payload.isGatewayMain = some false ||
            payload.isGatewayMain = none && agent.isBoardLead && agent.boardId.any (· ≠ board.id))
  | _ => false

/-! ## Rows at home -/

section Rows
variable {s t : AgentDb} {agent row : PlacedAgent}

theorem atHome_iff_main (h : agent.boardId = none) : AtHome s agent ↔ ∃ gateway,
    s.gateways.get? agent.gatewayId = some gateway ∧
      agent.openclawSessionId = some (gatewaySessionKey gateway.id) := by
  unfold AtHome
  rw [h]
  simp only [Option.any_eq_true, decide_eq_true_eq]

theorem atHome_iff_onBoard {boardId : Uuid} (h : agent.boardId = some boardId) : AtHome s agent ↔
    (∃ board, s.boards.get? boardId = some board ∧ board.gatewayId = some agent.gatewayId) ∧
      agent.openclawSessionId =
        some (if agent.isBoardLead then boardLeadSessionKey boardId else boardAgentSessionKey agent.id) := by
  unfold AtHome resolveSessionKey
  rw [h]
  simp only [Option.any_eq_true, decide_eq_true_eq, Except.toOption]

theorem AtHome.congr (hboards : t.boards = s.boards) (hgateways : t.gateways = s.gateways) (h : AtHome s agent) :
    AtHome t agent := by
  unfold AtHome at h ⊢
  rwa [hboards, hgateways]

theorem sessionKeyOf_ne_empty (agentId : String) : sessionKeyOf agentId ≠ "" := by
  intro h
  have htext := congrArg String.toList h
  simp [sessionKeyOf] at htext

theorem runSessionKey_main {gateway other : OrgGateway}
    (hkey : agent.openclawSessionId = some (gatewaySessionKey gateway.id)) :
    runSessionKey agent (.main other) = gatewaySessionKey gateway.id := by
  have hne : gatewaySessionKey gateway.id ≠ "" := sessionKeyOf_ne_empty _
  rw [runSessionKey, hkey, Option.filter_some, if_pos (decide_eq_true hne), Option.getD_some]
  exact strip_sessionKeyOf _

theorem AtHome.key_eq {key : Option String} (h : AtHome s agent) (hkey : RunKey agent key) :
    key = agent.openclawSessionId := by
  cases hkey with
  | kept => rfl
  | onBoard boardId on =>
    rw [((atHome_iff_onBoard on).mp h).2]
    unfold resolveSessionKey
    rw [on]
    rfl
  | asMain other main =>
    obtain ⟨gateway, -, hkey⟩ := (atHome_iff_main main).mp h
    rw [runSessionKey_main hkey, hkey]

theorem AtHome.provisioned (h : AtHome s agent) (hrow : ProvisionedAs agent row) : AtHome s row := by
  have hkey : row.openclawSessionId = agent.openclawSessionId := h.key_eq hrow.key
  cases hon : agent.boardId with
  | none =>
    rw [atHome_iff_main (hrow.boardId.trans hon), hrow.gatewayId, hkey]
    exact (atHome_iff_main hon).mp h
  | some boardId =>
    have hid : row.id = agent.id := hrow.rewrites.1
    rw [atHome_iff_onBoard (hrow.boardId.trans hon), hrow.gatewayId, hrow.isBoardLead, hid, hkey]
    exact (atHome_iff_onBoard hon).mp h

theorem AtHome.mutated {payload : AgentUpdate} {mutated : PlacedAgent} (h : AtHome s agent)
    (hmutated : AgentMutated s agent payload mutated)
    (hstays : ∀ board, payload.boardId = some (some board.id) → s.boards.get? board.id = some board →
      board.gatewayId.isSome = true → payload.isGatewayMain ≠ some false ∧
        (payload.isGatewayMain = none → agent.isBoardLead = true → agent.boardId.any (· ≠ board.id) = false)) :
    AtHome s mutated := by
  cases hmutated with
  | madeMain board gateway requested place => exact (atHome_iff_main rfl).mpr ⟨gateway, place.gateway, rfl⟩
  | unmadeMain board gatewayId requested given found gateway =>
    exact absurd requested (hstays board given found (by rw [gateway]; rfl)).1
  | stayedMain gateway requested main found =>
    obtain ⟨own, hown, hkey⟩ := (atHome_iff_main main).mp h
    exact (atHome_iff_main (by exact main)).mpr ⟨own, hown, hkey⟩
  | moved board gatewayId requested main given found gateway =>
    cases hon : agent.boardId with
    | none =>
      obtain ⟨own, hown, -⟩ := (atHome_iff_main hon).mp h
      rw [getMainAgentGateway, hon] at main
      cases hown.symm.trans main
    | some boardId =>
      obtain ⟨-, hkey⟩ := (atHome_iff_onBoard hon).mp h
      refine (atHome_iff_onBoard rfl).mpr ⟨⟨board, found, gateway⟩, ?_⟩
      show agent.openclawSessionId = some (if agent.isBoardLead then _ else _)
      rw [hkey]
      split
      · rename_i hlead
        have hsame := (hstays board given found (by rw [gateway]; rfl)).2 requested hlead
        rw [hon] at hsame
        rw [show boardId = board.id by simpa using hsame]
      · rfl
  | renamed requested main given => exact h

end Rows

/-! ## One request -/

theorem HomesKept.wrote {s t : AgentDb} {row : PlacedAgent} (h : HomesKept s) (hwrote : Wrote s row t)
    (hrow : AtHome s row) : HomesKept t := by
  intro agent hagent
  rcases hwrote.mem.mp hagent with rfl | ⟨hold, -⟩
  · exact hrow.congr hwrote.boards hwrote.gateways
  · exact (h agent hold).congr hwrote.boards hwrote.gateways

theorem HomesKept.boardUpdated {s : AgentDb} {board : BoardRow} {gatewayId : Uuid} {maxAgents : Int}
    (h : HomesKept s) (hfound : s.boards.get? board.id = some board)
    (hstays : board.gatewayId = some gatewayId ∨ s.onBoard board.id = []) :
    HomesKept { s with boards := s.boards.put { board with gatewayId := some gatewayId, maxAgents } } := by
  intro agent hagent
  have hhome := h agent hagent
  cases hon : agent.boardId with
  | none =>
    obtain ⟨gateway, hgateway, hkey⟩ := (atHome_iff_main hon).mp hhome
    exact (atHome_iff_main hon).mpr ⟨gateway, hgateway, hkey⟩
  | some boardId =>
    obtain ⟨⟨current, hcurrent, hgateway⟩, hkey⟩ := (atHome_iff_onBoard hon).mp hhome
    refine (atHome_iff_onBoard hon).mpr ⟨?_, hkey⟩
    dsimp only
    rw [Table.get?_put]
    split
    · rename_i hsame
      obtain rfl : boardId = board.id := hsame
      obtain rfl := Option.some.inj (hfound.symm.trans hcurrent)
      refine ⟨_, by rw [hcurrent]; rfl, ?_⟩
      rcases hstays with hkept | hempty
      · exact hkept.symm.trans hgateway
      · have hmem : agent ∈ s.onBoard board.id := List.mem_filter.mpr ⟨hagent, decide_eq_true hon⟩
        rw [hempty] at hmem
        cases hmem
    · exact ⟨current, hcurrent, hgateway⟩

theorem isOk_eq_true {ε α : Type} {x : Except ε α} {a : α} (h : x = .ok a) : x.isOk = true := by rw [h]; rfl

theorem gatewayId_of_given {board : BoardRow} {payload : BoardUpdate} {gatewayId : Uuid}
    (given : payload.gatewayId.or board.gatewayId = some gatewayId) : board.gatewayId = some gatewayId ∨
      payload.gatewayId = some gatewayId ∧ board.gatewayId ≠ some gatewayId := by
  by_cases hsame : board.gatewayId = some gatewayId
  · exact .inl hsame
  · rcases Option.or_eq_some_iff.mp given with hgiven | ⟨-, hkept⟩
    · exact .inr ⟨hgiven, hsame⟩
    · exact absurd hkept hsame

/-- **One request** that leaves nobody behind keeps every agent at home. -/
theorem homesKept_of_mem {casing : LetterCase} {s t : AgentDb} {request : AgentRequest} (h : HomesKept s)
    (hstays : leavesBehind s request = false) (ht : t ∈ respondAgents casing s request) : HomesKept t := by
  cases outcome_of_mem ht with
  | created board gateway place on unique fresh wrote =>
    exact h.wrote wrote ((atHome_iff_onBoard rfl).mpr ⟨⟨board, place.found, place.gatewayId⟩, rfl⟩)
  | heartbeatCreated board gateway place given unknown fresh wrote =>
    exact h.wrote wrote ((atHome_iff_onBoard rfl).mpr ⟨⟨board, place.found, place.gatewayId⟩, rfl⟩)
  | reprovisioned agent row found kept wrote =>
    exact h.wrote wrote ((h agent (Table.mem_of_get? found)).provisioned kept)
  | patched agent mutated row found access valid named mutation kept wrote =>
    refine h.wrote wrote (AtHome.provisioned ((h agent (Table.mem_of_get? found)).mutated mutation ?_) kept)
    intro board given hboard hgateway
    simp only [leavesBehind, found, isOk_eq_true access, isOk_eq_true valid, named, given, hboard, hgateway,
      Option.any_some, Option.join_some, Option.bind_some, ne_eq, not_false_eq_true, decide_true, Bool.true_and,
      Bool.or_eq_false_iff, decide_eq_false_iff_not] at hstays
    exact ⟨hstays.1, fun hrequested hlead => by simpa [hrequested, hlead] using hstays.2⟩
  | leadFound board gateway place id agent found wrote =>
    obtain ⟨hon, hlead⟩ := List.mem_filter.mp (List.mem_of_mem_head? found)
    have honBoard : agent.boardId = some board.id := by simpa using (List.mem_filter.mp hon).2
    refine h.wrote wrote ((atHome_iff_onBoard (by exact honBoard)).mpr ⟨⟨board, place.found, place.gatewayId⟩, ?_⟩)
    show _ = some (if agent.isBoardLead then _ else _)
    rw [if_pos hlead]
  | leadCreated board gateway place id leaderless fresh wrote =>
    exact h.wrote wrote ((atHome_iff_onBoard rfl).mpr ⟨⟨board, place.found, place.gatewayId⟩, rfl⟩)
  | mainCreated gateway found fresh wrote => exact h.wrote wrote ((atHome_iff_main rfl).mpr ⟨gateway, found, rfl⟩)
  | mainFound gateway found agent mem onGateway main wrote =>
    refine h.wrote wrote ((atHome_iff_main (by exact main)).mpr ⟨gateway, ?_, rfl⟩)
    show s.gateways.get? agent.gatewayId = some gateway
    rw [onGateway, found]
  | deleted => exact fun agent hagent => h agent (Table.mem_deleteWhere.mp hagent).1
  | @boardUpdated boardId userId payload board gatewayId maxAgents found access given ready bounded =>
    obtain rfl : board.id = boardId := Table.key_of_get? found
    refine h.boardUpdated found ((gatewayId_of_given given).imp_right ?_)
    rintro ⟨hgiven, hsame⟩
    obtain ⟨gateway, hready⟩ := ready
    simpa [leavesBehind, found, isOk_eq_true access, bounded, hgiven, hsame, isOk_eq_true hready] using hstays

/-- **Agents live where their board lives** in every state of a run in which no request leaves one behind. -/
theorem homesKept {casing : LetterCase} {s : AgentDb} {requests : List AgentRequest} (hs : HomesKept s)
    (h : (agentMachine casing).Along (fun s request => leavesBehind s request = false) s requests) :
    ∀ t ∈ (agentMachine casing).committed s requests, HomesKept t :=
  Machine.committed_inv HomesKept (fun _ _ hs hstays _ ht => homesKept_of_mem hs hstays ht) hs h

namespace Sample

def oneCase : LetterCase := ⟨id, LetterCase.id_lower, LetterCase.id_wildcards⟩

def placed : AgentDb :=
  { members := ⟨[{ id := 1, organizationId := 1, userId := 1, role := .owner, allBoardsWrite := true }],
      List.nodup_singleton _⟩
    gateways := ⟨[{ id := 1, url := "ws://one", workspaceRoot := "/one", organizationId := 1 },
      { id := 2, url := "ws://two", workspaceRoot := "/two", organizationId := 1 }], by decide⟩
    boards := ⟨[{ id := 1, organizationId := 1, gatewayId := some 1 },
      { id := 2, organizationId := 1, gatewayId := some 2 }], by decide⟩
    agents := ⟨[newMainAgent 1 { id := 1, url := "", workspaceRoot := "", organizationId := 1 } "First",
      newMainAgent 2 { id := 2, url := "", workspaceRoot := "", organizationId := 1 } "Second",
      { id := 3, boardId := some 1, isBoardLead := true, name := "Lead", gatewayId := 1
        openclawSessionId := some (boardLeadSessionKey 1), hasToken := true },
      { id := 4, boardId := some 1, name := "Worker", gatewayId := 1
        openclawSessionId := some (boardAgentSessionKey 4), hasToken := true }], by decide⟩ }

def placer : OrganizationMember := { id := 1, organizationId := 1, userId := 1, role := .owner, allBoardsWrite := true }

def movesBoard : AgentRequest := .updateBoard 1 1 { gatewayId := some 2 }

def movesWorker : AgentRequest := .updateAgent 4 placer { boardId := some (some 2) } false true

theorem homesKept_placed : HomesKept placed := by decide

end Sample

theorem homesKept_moved : ((agentMachine Sample.oneCase).committed Sample.placed
    [Sample.movesWorker, .ensureBoardLeadAgent 2 5 none true]).Forall HomesKept :=
  List.forall_iff_forall_mem.mpr (homesKept Sample.homesKept_placed (by decide))

/-- A board that changes its gateway leaves its agents on the old one. -/
theorem not_homesKept :
    ¬ ∀ (casing : LetterCase) (s : AgentDb) (requests : List AgentRequest), HomesKept s →
      ∀ t ∈ (agentMachine casing).committed s requests, HomesKept t := by
  intro h
  have hlost : ∃ t ∈ (agentMachine Sample.oneCase).committed Sample.placed [Sample.movesBoard], ¬ HomesKept t := by
    decide
  obtain ⟨t, ht, hlost⟩ := hlost
  exact hlost (h _ _ _ Sample.homesKept_placed t ht)

end SiloForge
