import SiloForge.Agents.Homes
import SiloForge.Agents.Sessions

/-!
# One lead per board

A board is given a lead after a look whether it has one, and a PATCH takes a lead to another board without a look.

* `OneLead` : no board has two leads;
* `writesNoLead_of_planned` : an agent is a lead from its insertion on, or never;
* `crowdsLead` : the commits that bring a lead to a board that has one;
* `oneLead` : at most one lead per board, in every run without such a commit.
-/

namespace SiloForge

open Lib

def OneLead (s : AgentDb) : Prop :=
  ∀ boardId, ∀ agent ∈ s.leads boardId, ∀ other ∈ s.leads boardId, agent = other

variable {s : AgentDb} {agent : PlacedAgent}

theorem mem_leads {boardId : Uuid} :
    agent ∈ s.leads boardId ↔ agent ∈ s.agents ∧ agent.boardId = some boardId ∧ agent.isBoardLead = true := by
  rw [AgentDb.leads, AgentDb.onBoard, List.mem_filter, List.mem_filter, decide_eq_true_iff, and_assoc, ← Table.mem_def]

theorem oneLead_iff : OneLead s ↔ ∀ agent ∈ s.agents.rows, ∀ other ∈ s.agents.rows,
    agent.isBoardLead = true → other.isBoardLead = true → agent.boardId ≠ none → agent.boardId = other.boardId →
      agent = other := by
  constructor
  · intro h agent hagent other hother hlead hlead' hon hsame
    obtain ⟨boardId, hid⟩ := Option.ne_none_iff_exists'.mp hon
    exact h boardId agent (mem_leads.mpr ⟨hagent, hid, hlead⟩) other
      (mem_leads.mpr ⟨hother, hsame.symm.trans hid, hlead'⟩)
  · intro h boardId agent hagent other hother
    obtain ⟨hmem, hon, hlead⟩ := mem_leads.mp hagent
    obtain ⟨hmem', hon', hlead'⟩ := mem_leads.mp hother
    exact h agent hmem other hmem' hlead hlead' (by rw [hon]; exact nofun) (hon.trans hon'.symm)

instance (s : AgentDb) : Decidable (OneLead s) := decidable_of_iff' _ oneLead_iff

/-! ## Who becomes a lead -/

def WritesNoLead : AgentWrite → Prop
  | .update loaded new => new.isBoardLead = true → loaded.isBoardLead = true
  | _ => True

theorem writesNoLead_of_updates {P : PlacedAgent → Prop} {lead : Bool} (hP : ∀ row, P row → row.isBoardLead = lead)
    {writes : List AgentWrite} (hagent : lead = true → agent.isBoardLead = true) (h : Updates P agent writes) :
    ∀ write ∈ writes, WritesNoLead write := by
  induction writes generalizing agent with
  | nil => exact fun write hwrite => absurd hwrite List.not_mem_nil
  | cons write writes ih =>
    cases write with
    | update loaded new =>
      obtain ⟨rfl, -, hrow, hrest⟩ := h
      have hnew : new.isBoardLead = lead := hP new hrow
      exact List.forall_mem_cons.mpr ⟨fun hlead => hagent (hnew.symm.trans hlead),
        ih (fun hlead => hnew.trans hlead) hrest⟩
    | insert agent => exact h.elim
    | delete agentId => exact h.elim
    | updateBoard loaded new => exact h.elim

theorem AgentMutated.isBoardLead {mutated : PlacedAgent} {payload : AgentUpdate}
    (h : AgentMutated s agent payload mutated) (hlead : mutated.isBoardLead = true) : agent.isBoardLead = true := by
  cases h with
  | madeMain board gateway requested place => cases hlead
  | unmadeMain board gatewayId requested given found gateway => exact hlead
  | stayedMain gateway requested main found => cases hlead
  | moved board gatewayId requested main given found gateway => exact hlead
  | renamed requested main given => exact hlead

theorem writesNoLead_newAgent (agent : PlacedAgent) (board : BoardRow) (gateway : OrgGateway) (reached : Bool) :
    ∀ write ∈ newAgentWrites agent board gateway reached, WritesNoLead write := by
  refine List.forall_mem_cons.mpr ⟨trivial, List.forall_mem_singleton.mpr fun hlead => ?_⟩
  unfold PlacedAgent.provisioned at hlead
  split at hlead <;> exact hlead

/-- **No request makes an agent a lead** that is there. -/
theorem writesNoLead_of_planned {casing : LetterCase} {request : AgentRequest} {writes : List AgentWrite}
    (h : Planned casing s request writes) : ∀ write ∈ writes, WritesNoLead write := by
  cases h with
  | nothing => exact fun write hwrite => absurd hwrite List.not_mem_nil
  | created board gateway place on lead limit unique => exact writesNoLead_newAgent _ _ _ _
  | heartbeatCreated board gateway place given unknown => exact writesNoLead_newAgent _ _ _ _
  | reprovisioned agent found updates =>
    exact writesNoLead_of_updates (fun row hrow => hrow.isBoardLead) id updates
  | patched agent mutated found access valid named mutation updates =>
    exact writesNoLead_of_updates (fun row hrow => hrow.isBoardLead) mutation.isBoardLead updates
  | leadFound board gateway place id agent found => exact List.forall_mem_singleton.mpr fun hlead => hlead
  | leadCreated board gateway place id leaderless => exact writesNoLead_newAgent _ _ _ _
  | mainCreated gateway found => exact List.forall_mem_singleton.mpr trivial
  | mainFound gateway found agent mem onGateway main => exact List.forall_mem_singleton.mpr nofun
  | deleted agentId => exact List.forall_mem_singleton.mpr trivial
  | boardUpdated board gatewayId maxAgents found access given ready bounded =>
    exact List.forall_mem_singleton.mpr trivial

/-! ## A second lead -/

/-- The commit brings a lead to a board that has one: by an insertion, or by the move of a lead. -/
def AgentWrite.crowdsLead (s : AgentDb) : AgentWrite → Bool
  | .insert agent => agent.isBoardLead && agent.boardId.any fun boardId => !(s.leads boardId).isEmpty
  | .update loaded new =>
    (s.agents.get? loaded.id).any fun current =>
      let row := new.writtenOver loaded current
      row.isBoardLead && row.boardId ≠ current.boardId && row.boardId.any fun boardId => !(s.leads boardId).isEmpty
  | _ => false

def crowdsLead (s : AgentSessions) : RequestAction → Bool
  | .commit id => (s.opened.get? id).any fun p => p.writes.head?.any (·.crowdsLead s.db)
  | _ => false

theorem OneLead.of_rows {t : AgentDb} (h : OneLead s) (row : PlacedAgent)
    (hrows : ∀ agent ∈ t.agents, agent = row ∨ agent ∈ s.agents ∧ agent.id ≠ row.id)
    (hrow : ∀ boardId, row.boardId = some boardId → row.isBoardLead = true → s.leads boardId = [] ∨
      ∃ current ∈ s.leads boardId, current.id = row.id) : OneLead t := by
  intro boardId agent hagent other hother
  obtain ⟨hmem, hon, hlead⟩ := mem_leads.mp hagent
  obtain ⟨hmem', hon', hlead'⟩ := mem_leads.mp hother
  -- Beside the row that was written there is no other lead.
  have hbeside : row.boardId = some boardId → row.isBoardLead = true → ∀ x ∈ s.agents, x.id ≠ row.id →
      x.boardId = some boardId → x.isBoardLead = true → False := by
    intro hrowOn hrowLead x hx hne hxOn hxLead
    have hxLeads : x ∈ s.leads boardId := mem_leads.mpr ⟨hx, hxOn, hxLead⟩
    rcases hrow boardId hrowOn hrowLead with hempty | ⟨current, hcurrent, hid⟩
    · rw [hempty] at hxLeads
      cases hxLeads
    · exact hne (h boardId x hxLeads current hcurrent ▸ hid)
  rcases hrows agent hmem with rfl | ⟨hold, hne⟩
  · rcases hrows other hmem' with rfl | ⟨hold', hne'⟩
    · rfl
    · exact (hbeside hon hlead other hold' hne' hon' hlead').elim
  · rcases hrows other hmem' with rfl | ⟨hold', hne'⟩
    · exact (hbeside hon' hlead' agent hold hne hon hlead).elim
    · exact h boardId agent (mem_leads.mpr ⟨hold, hon, hlead⟩) other (mem_leads.mpr ⟨hold', hon', hlead'⟩)

/-- **One commit** that brings no second lead. -/
theorem OneLead.apply {t : AgentDb} {write : AgentWrite} (h : OneLead s) (hnone : WritesNoLead write)
    (hfree : write.crowdsLead s = false) (ht : write.apply s = .ok t) : OneLead t := by
  cases write with
  | insert agent =>
    obtain ⟨agents, hinsert, rfl⟩ : ∃ agents, s.agents.insert? agent = some agents ∧ { s with agents } = t := by
      simpa only [AgentWrite.apply, bind_eq_ok, orFail_eq_ok, pure_eq_ok] using ht
    have hfresh := Table.get?_eq_none.mp (Table.insert?_eq_some hinsert).2
    refine h.of_rows agent (fun x hx => ?_) fun boardId hon hlead => .inl ?_
    · exact ((Table.mem_insert? hinsert).mp hx).elim (fun hold => .inr ⟨hold, hfresh x hold⟩) .inl
    · simpa [AgentWrite.crowdsLead, hon, hlead] using hfree
  | update loaded new =>
    obtain ⟨current, hcurrent, rfl⟩ : ∃ current, s.agents.get? loaded.id = some current ∧
        { s with agents := s.agents.put (new.writtenOver loaded current) } = t := by
      simpa only [AgentWrite.apply, bind_eq_ok, orFail_eq_ok, pure_eq_ok] using ht
    refine h.of_rows (new.writtenOver loaded current) (fun x hx => ?_) fun boardId hon hlead => ?_
    · exact (Table.mem_put.mp hx).elim (fun hold => .inr hold) fun hnew => .inl hnew.1
    · by_cases hmoved : (new.writtenOver loaded current).boardId = current.boardId
      · refine .inr ⟨current, mem_leads.mpr ⟨Table.mem_of_get? hcurrent, hmoved.symm.trans hon, ?_⟩, rfl⟩
        by_cases hsame : new.isBoardLead = loaded.isBoardLead
        · simpa [PlacedAgent.writtenOver, hsame] using hlead
        · rw [PlacedAgent.writtenOver, writtenColumn_of_ne hsame] at hlead
          exact absurd (hlead.trans (hnone hlead).symm) hsame
      · rw [hon] at hmoved
        refine .inl ?_
        simpa [AgentWrite.crowdsLead, hcurrent, hon, hlead, hmoved] using hfree
  | delete agentId =>
    cases ht
    intro boardId agent hagent other hother
    obtain ⟨hmem, hrest⟩ := mem_leads.mp hagent
    obtain ⟨hmem', hrest'⟩ := mem_leads.mp hother
    exact h boardId agent (mem_leads.mpr ⟨(Table.mem_deleteWhere.mp hmem).1, hrest⟩) other
      (mem_leads.mpr ⟨(Table.mem_deleteWhere.mp hmem').1, hrest'⟩)
  | updateBoard loaded new =>
    obtain ⟨current, -, rfl⟩ : ∃ current, s.boards.get? loaded.id = some current ∧
        { s with boards := s.boards.put (new.writtenOver loaded current) } = t := by
      simpa only [AgentWrite.apply, bind_eq_ok, orFail_eq_ok, pure_eq_ok] using ht
    exact h

/-! ## Every run -/

/-- No open request is to make an agent a lead that is there. -/
def OpenSound (s : AgentSessions) : Prop := ∀ p ∈ s.opened, ∀ write ∈ p.writes, WritesNoLead write

section Run
variable {casing : LetterCase} {s t : AgentSessions} {action : RequestAction}

theorem OpenSound.step (h : OpenSound s) (hstep : AgentStep casing s action t) : OpenSound t := by
  cases hstep with
  | opened writes opened checked inserted =>
    intro p hp
    rcases (Table.mem_insert? inserted).mp hp with hp | rfl
    · exact h p hp
    · exact writesNoLead_of_planned (planned_of_ok checked)
  | committed p write writes db found next applied =>
    intro q hq
    rcases Table.mem_put.mp hq with ⟨hq, -⟩ | ⟨rfl, -⟩
    · exact h q hq
    · intro write' hwrite'
      exact h p (Table.mem_of_get? found) write' (next ▸ List.mem_cons_of_mem write hwrite')
  | failed p found fails => exact fun p hp => h p (Table.mem_deleteWhere.mp hp).1
  | gaveUp => exact fun p hp => h p (Table.mem_deleteWhere.mp hp).1

/-- **One action** that brings no second lead. -/
theorem oneLead_of_step (h : OneLead s.db) (hsound : OpenSound s) (hfree : crowdsLead s action = false)
    (hstep : AgentStep casing s action t) : OneLead t.db := by
  cases hstep with
  | opened writes opened checked inserted => exact h
  | committed p write writes db found next applied =>
    refine h.apply (hsound p (Table.mem_of_get? found) write (next ▸ List.mem_cons_self ..)) ?_ applied
    simpa only [SiloForge.crowdsLead, found, next, Option.any_some, List.head?_cons] using hfree
  | failed p found fails => exact h
  | gaveUp => exact h

end Run

/-- **At most one lead per board** in every state of a run in which no commit brings a lead to a board that has one. -/
theorem oneLead {casing : LetterCase} {db : AgentDb} {actions : List RequestAction} (hdb : OneLead db)
    (h : (agentSessionsMachine casing).Along (fun s action => crowdsLead s action = false) { db } actions) :
    ∀ t ∈ (agentSessionsMachine casing).committed { db } actions, OneLead t.db := by
  have hstart : OneLead db ∧ OpenSound { db } := ⟨hdb, fun p hp => absurd hp (Table.not_mem_empty p)⟩
  intro t ht
  refine (Machine.committed_inv (fun s => OneLead s.db ∧ OpenSound s) ?_ hstart h t ht).1
  intro s action hs hfree u hu
  have hstep := agentStep_of_mem hu
  exact ⟨oneLead_of_step hs.1 hs.2 hfree hstep, hs.2.step hstep⟩

namespace Sample

theorem oneLead_placed : OneLead placed := by decide

def movesLead : AgentRequest := .updateAgent 3 placer { boardId := some (some 2) } false true

end Sample

theorem oneLead_ensured : ((agentSessionsMachine Sample.oneCase).committed { db := Sample.placed }
    [.check 1 (.ensureBoardLeadAgent 2 5 none true), .commit 1, .commit 1, .check 2 Sample.movesWorker,
      .commit 2]).Forall fun t => OneLead t.db :=
  List.forall_iff_forall_mem.mpr (oneLead Sample.oneLead_placed (by decide))

/-- A PATCH takes a lead to a board that has just been given its own. -/
theorem not_oneLead :
    ¬ ∀ (casing : LetterCase) (db : AgentDb) (actions : List RequestAction), OneLead db →
      ∀ t ∈ (agentSessionsMachine casing).committed { db } actions, OneLead t.db := by
  intro h
  have hleads : ∃ t ∈ (agentSessionsMachine Sample.oneCase).committed { db := Sample.placed }
      [.check 1 (.ensureBoardLeadAgent 2 5 none true), .commit 1, .check 2 Sample.movesLead, .commit 2],
      ¬ OneLead t.db := by
    decide
  obtain ⟨t, ht, hleads⟩ := hleads
  exact hleads (h _ _ _ Sample.oneLead_placed t ht)

end SiloForge
