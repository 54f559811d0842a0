import SiloForge.Agents.Homes
import SiloForge.Agents.Sessions

/-!
# The cap on workers

A lead may create workers up to the cap of its board. A creation counts the workers first and is committed later, when
creations that counted the same workers may have been committed.

* `onlyLeadCreations` : the requests are creations by leads;
* `noteOvertaken` : how many workers came to its board since each open request counted;
* `Counted`, `allCounted_next` : what an open creation counted, and what came since, is what there is;
* `exceedsRoom`, `capHolds_iff` : the cap is kept when, and only when, no creation is overtaken by as many as it found
  room for.
-/

namespace SiloForge

open Lib

/-! ## Creations by leads -/

def onlyLeadCreations : RequestAction → Bool
  | .check _ (.createAgent _ (.agent _) _ _) => true
  | .check _ _ => false
  | .commit _ => true
  | .giveUp _ => true

def AgentWrite.agentBoard? : AgentWrite → Option Uuid
  | .insert agent => agent.boardId
  | .update _ new => new.boardId
  | _ => none

def boardOf (s : AgentSessions) (id : Nat) : Option Uuid :=
  (s.opened.get? id).bind fun p => p.writes.head?.bind (·.agentBoard?)

def insertedOn (s : AgentSessions) : RequestAction → Option Uuid
  | .commit id => (s.opened.get? id).bind fun p =>
    match p.writes with
    | .insert agent :: _ => if ((AgentWrite.insert agent).apply s.db).isOk then agent.boardId else none
    | _ => none
  | _ => none

/-- How many agents came to the board of each open request since it counted. -/
abbrev Overtaken := Nat → Nat

def noteOvertaken (s : AgentSessions) (action : RequestAction) (_ : AgentSessions) (overtaken : Overtaken) : Overtaken :=
  fun id =>
    match action with
    | .check checked _ => if id = checked then 0 else overtaken id
    | _ => if (insertedOn s action).isSome ∧ insertedOn s action = boardOf s id then overtaken id + 1 else overtaken id

def WithinCap (s : AgentDb) (boardId : Uuid) : Prop :=
  (s.boards.get? boardId).all (fun board => (countNonLeadAgentsForBoard s boardId : Int) ≤ board.maxAgents) = true

instance (s : AgentDb) (boardId : Uuid) : Decidable (WithinCap s boardId) := inferInstanceAs (Decidable (_ = true))

/-- What the cap promises of a state an action commits: the board of a creation's commit is within it. -/
def CapKept (s : AgentSessions) (action : RequestAction) (t : AgentSessions) : Prop :=
  ∀ id, action = .commit id → ∀ p, s.opened.get? id = some p → ∀ write ∈ p.writes.head?,
    (write.apply s.db).isOk = true → ∀ boardId, write.agentBoard? = some boardId → WithinCap t.db boardId

/-- A creation is committed that was overtaken by as many as it found room for. -/
def exceedsRoom (s : AgentSessions) (overtaken : Overtaken) (action : RequestAction) : Bool :=
  (insertedOn s action).any fun boardId =>
    match action with
    | .commit id => (s.opened.get? id).any fun p => (p.seen.boards.get? boardId).any fun board =>
      board.maxAgents ≤ (countNonLeadAgentsForBoard p.seen boardId : Int) + overtaken id
    | _ => false

/-! ## What the creations counted -/

/-- An open creation: what it counted and what came to its board since is what there is. -/
structure Counted (s : AgentSessions) (overtaken : Overtaken) (p : OpenRequest) (agent : PlacedAgent)
    (board : BoardRow) : Prop where
  boards : p.seen.boards = s.db.boards
  room : (countNonLeadAgentsForBoard p.seen board.id : Int) < board.maxAgents
  found : s.db.boards.get? board.id = some board
  on : agent.boardId = some board.id
  worker : agent.isBoardLead = false
  writes : p.writes <:+ [.insert agent, .update agent agent]
  counted : p.writes = [.insert agent, .update agent agent] →
    countNonLeadAgentsForBoard s.db board.id = countNonLeadAgentsForBoard p.seen board.id + overtaken p.id

def AllCounted (s : AgentSessions) (overtaken : Overtaken) : Prop :=
  ∀ p ∈ s.opened, ∃ agent board, Counted s overtaken p agent board

theorem countNonLead_insert {s : AgentDb} {agent : PlacedAgent} {agents : Table PlacedAgent}
    (hinsert : s.agents.insert? agent = some agents) (hworker : agent.isBoardLead = false) (boardId : Uuid) :
    countNonLeadAgentsForBoard { s with agents } boardId =
      countNonLeadAgentsForBoard s boardId + if agent.boardId = some boardId then 1 else 0 := by
  unfold countNonLeadAgentsForBoard AgentDb.onBoard
  rw [(Table.insert?_eq_some hinsert).1, List.filter_append, List.filter_append, List.length_append]
  by_cases hon : agent.boardId = some boardId <;> simp [hon, hworker]

theorem apply_update_same {s t : AgentDb} {agent : PlacedAgent} (h : (AgentWrite.update agent agent).apply s = .ok t) :
    t = s := by
  obtain ⟨current, hcurrent, rfl⟩ : ∃ current, s.agents.get? agent.id = some current ∧
      { s with agents := s.agents.put (agent.writtenOver agent current) } = t := by
    simpa only [AgentWrite.apply, bind_eq_ok, orFail_eq_ok, pure_eq_ok] using h
  have hsame : agent.writtenOver agent current = current := by
    unfold PlacedAgent.writtenOver
    simp only [writtenColumn_unchanged]
  rw [hsame, Table.put_of_mem (Table.mem_of_get? hcurrent)]

section Step
variable {casing : LetterCase} {s t : AgentSessions} {overtaken overtaken' : Overtaken} {action : RequestAction}
  {p : OpenRequest} {agent : PlacedAgent} {board : BoardRow}

variable {writes : List AgentWrite} {db : AgentDb} {new : PlacedAgent} {agents : Table PlacedAgent}

theorem insertedOn_insert {id : Nat} (hfound : s.opened.get? id = some p) (hnext : p.writes = .insert agent :: writes)
    (happlied : (AgentWrite.insert agent).apply s.db = .ok db) :
    insertedOn s (.commit id) = agent.boardId := by
  simp only [insertedOn, hfound, Option.bind_some, hnext]
  rw [if_pos (isOk_eq_true happlied)]

theorem insertedOn_update {id : Nat} {loaded : PlacedAgent} (hfound : s.opened.get? id = some p)
    (hnext : p.writes = .update loaded new :: writes) :
    insertedOn s (.commit id) = none := by
  simp only [insertedOn, hfound, Option.bind_some, hnext]

theorem insertedOn_failed {id : Nat} (hfound : s.opened.get? id = some p)
    (hfails : ∀ write ∈ p.writes.head?, (write.apply s.db).isOk = false) : insertedOn s (.commit id) = none := by
  simp only [insertedOn, hfound, Option.bind_some]
  split
  · rename_i new rest hnext
    rw [hfails (.insert new) (by rw [hnext]; rfl)]
    rfl
  · rfl

theorem noteOvertaken_of_none (t : AgentSessions) (overtaken : Overtaken) (hnone : insertedOn s action = none)
    (hcheck : ∀ checked request, action ≠ .check checked request) :
    noteOvertaken s action t overtaken = overtaken := by
  funext id
  unfold noteOvertaken
  split
  · exact absurd rfl (hcheck _ _)
  · rw [hnone]
    exact if_neg (by simp)

theorem Counted.congr (h : Counted s overtaken p agent board) (hdb : t.db = s.db)
    (hover : overtaken' p.id = overtaken p.id) : Counted t overtaken' p agent board where
  boards := by rw [hdb]; exact h.boards
  room := h.room
  found := by rw [hdb]; exact h.found
  on := h.on
  worker := h.worker
  writes := h.writes
  counted hfull := by rw [hdb, hover]; exact h.counted hfull

theorem Counted.shorter {write : AgentWrite} (h : Counted s overtaken p agent board)
    (hnext : p.writes = write :: writes) (hboards : t.db.boards = s.db.boards) :
    Counted t overtaken' { p with writes } agent board where
  boards := h.boards.trans hboards.symm
  room := h.room
  found := by rw [hboards]; exact h.found
  on := h.on
  worker := h.worker
  writes := (List.suffix_cons write writes).trans (hnext ▸ h.writes)
  counted hfull := by
    have hlength := (hnext ▸ h.writes).length_le
    have hwrites : writes.length = 2 := congrArg List.length hfull
    simp only [List.length_cons, hwrites, List.length_nil] at hlength
    omega

theorem Counted.boardOf (h : Counted s overtaken p agent board) (hp : p ∈ s.opened)
    (hfull : p.writes = [.insert agent, .update agent agent]) : boardOf s p.id = some board.id := by
  rw [SiloForge.boardOf, show s.opened.get? p.id = some p from Table.get?_key hp, Option.bind_some, hfull]
  exact h.on

theorem Counted.inserted (h : Counted s overtaken p agent board)
    (hdb : t.db = { s.db with agents }) (hinsert : s.db.agents.insert? new = some agents)
    (hworker : new.isBoardLead = false)
    (hover : p.writes = [.insert agent, .update agent agent] →
      overtaken' p.id = overtaken p.id + if new.boardId = some board.id then 1 else 0) :
    Counted t overtaken' p agent board where
  boards := by rw [hdb]; exact h.boards
  room := h.room
  found := by rw [hdb]; exact h.found
  on := h.on
  worker := h.worker
  writes := h.writes
  counted hfull := by rw [hdb, countNonLead_insert hinsert hworker, hover hfull, h.counted hfull, Nat.add_assoc]

theorem suffix_of_next {write : AgentWrite} (h : write :: writes <:+ [.insert agent, .update agent agent]) :
    write = .insert agent ∧ writes = [.update agent agent] ∨ write = .update agent agent ∧ writes = [] := by
  rcases List.suffix_cons_iff.mp h with heq | h
  · cases heq
    exact .inl ⟨rfl, rfl⟩
  · rcases List.suffix_cons_iff.mp h with heq | h
    · cases heq
      exact .inr ⟨rfl, rfl⟩
    · cases List.suffix_nil.mp h

theorem counted_of_check {id agentId leadId : Uuid} {payload : AgentCreate} {reached : Bool}
    (h : checkAgentRequest casing s.db (.createAgent agentId (.agent leadId) payload reached) = .ok writes)
    (hdb : t.db = s.db) (hover : overtaken' id = 0) :
    ∃ agent board, Counted t overtaken'
      { id, seen := s.db, request := .createAgent agentId (.agent leadId) payload reached, writes } agent board := by
  obtain ⟨board, gateway, hon, place, hlead, hlimit, -, rfl⟩ := createAgent_eq_ok h
  have hroom : (countNonLeadAgentsForBoard s.db board.id : Int) < board.maxAgents := by
    rw [enforceBoardSpawnLimitForLead, if_pos (hlead leadId rfl)] at hlimit
    exact require_eq_ok.mp hlimit
  have hwrites : newAgentWrites (persistedWorker agentId board gateway payload.name) board gateway reached =
      [.insert (persistedWorker agentId board gateway payload.name),
        .update (persistedWorker agentId board gateway payload.name)
          (persistedWorker agentId board gateway payload.name)] := by
    rw [newAgentWrites, PlacedAgent.provisioned_eq_self (persistedWorker_key agentId board gateway payload.name)]
  refine ⟨persistedWorker agentId board gateway payload.name, board, ?_⟩
  rw [hwrites]
  exact
    { boards := by rw [hdb]
      room := hroom
      found := by rw [hdb]; exact place.found
      on := rfl
      worker := rfl
      writes := List.suffix_rfl
      counted := fun _ => by rw [hdb, hover]; rfl }

theorem AllCounted.close (h : AllCounted s overtaken) {id : Nat} (hnone : insertedOn s action = none)
    (hcheck : ∀ checked request, action ≠ .check checked request) :
    AllCounted (s.close id) (noteOvertaken s action (s.close id) overtaken) := by
  intro q hq
  obtain ⟨agent, board, hcounted⟩ := h q (Table.mem_deleteWhere.mp hq).1
  rw [noteOvertaken_of_none _ _ hnone hcheck]
  exact ⟨agent, board, hcounted.congr rfl rfl⟩

theorem exists_creation_of_onlyLead {id : Nat} {request : AgentRequest}
    (h : onlyLeadCreations (.check id request) = true) :
    ∃ agentId leadId payload reached, request = .createAgent agentId (.agent leadId) payload reached := by
  unfold onlyLeadCreations at h
  split at h
  · rename_i heq
    cases heq
    exact ⟨_, _, _, _, rfl⟩
  · cases h
  · rename_i heq
    cases heq
  · rename_i heq
    cases heq

theorem capKept_commit {id : Nat} {write : AgentWrite} (hfound : s.opened.get? id = some p)
    (hnext : p.writes = write :: writes)
    (h : ∀ boardId, write.agentBoard? = some boardId → WithinCap t.db boardId) : CapKept s (.commit id) t := by
  rintro _ ⟨⟩ q hq write' hwrite - boardId hboardId
  obtain rfl := Option.some.inj (hfound.symm.trans hq)
  rw [hnext] at hwrite
  cases hwrite
  exact h boardId hboardId

/-- **One action** keeps what the creations counted. -/
theorem allCounted_step (h : AllCounted s overtaken) (hlead : onlyLeadCreations action = true)
    (hstep : AgentStep casing s action t) : AllCounted t (noteOvertaken s action t overtaken) := by
  cases hstep with
  | @opened id request writes opened checked inserted =>
    intro q hq
    rcases (Table.mem_insert? inserted).mp hq with hq | rfl
    · have hne : q.id ≠ id := Table.get?_eq_none.mp (Table.insert?_eq_some inserted).2 q hq
      obtain ⟨agent, board, hcounted⟩ := h q hq
      exact ⟨agent, board, hcounted.congr rfl (if_neg hne)⟩
    · obtain ⟨agentId, leadId, payload, reached, rfl⟩ := exists_creation_of_onlyLead hlead
      exact counted_of_check checked rfl (if_pos rfl)
  | @committed id p write writes db found next applied =>
    obtain rfl : p.id = id := Table.key_of_get? found
    obtain ⟨agent, board, hp⟩ := h p (Table.mem_of_get? found)
    intro q hq
    rcases suffix_of_next (next ▸ hp.writes) with ⟨rfl, rfl⟩ | ⟨rfl, rfl⟩
    · obtain ⟨agents, hinsert, rfl⟩ : ∃ agents, s.db.agents.insert? agent = some agents ∧
          { s.db with agents } = db := by
        simpa only [AgentWrite.apply, bind_eq_ok, orFail_eq_ok, pure_eq_ok] using applied
      rcases Table.mem_put.mp hq with ⟨hq, hne⟩ | ⟨rfl, -⟩
      · obtain ⟨other, otherBoard, hcounted⟩ := h q hq
        refine ⟨other, otherBoard, hcounted.inserted rfl hinsert hp.worker ?_⟩
        intro hfull
        show (if _ then _ else _) = _
        rw [insertedOn_insert found next applied, hp.on, hcounted.boardOf hq hfull]
        by_cases hsame : board.id = otherBoard.id <;> simp [hsame]
      · exact ⟨agent, board, hp.shorter next rfl⟩
    · obtain rfl := apply_update_same applied
      rw [noteOvertaken_of_none _ _ (insertedOn_update found next) fun _ _ he => by cases he]
      rcases Table.mem_put.mp hq with ⟨hq, -⟩ | ⟨rfl, -⟩
      · obtain ⟨other, otherBoard, hcounted⟩ := h q hq
        exact ⟨other, otherBoard, hcounted.congr rfl rfl⟩
      · exact ⟨agent, board, hp.shorter next rfl⟩
  | failed p found fails => exact h.close (insertedOn_failed found fails) fun _ _ he => by cases he
  | gaveUp => exact h.close rfl fun _ _ he => by cases he

/-! ## The cap -/

/-- The boards of the creations whose row is committed are within their cap. -/
def OpenWithin (s : AgentSessions) : Prop :=
  ∀ p ∈ s.opened, ∀ loaded new, p.writes.head? = some (.update loaded new) → ∀ boardId, new.boardId = some boardId →
    WithinCap s.db boardId

theorem withinCap_iff (hfound : db.boards.get? board.id = some board) :
    WithinCap db board.id ↔ (countNonLeadAgentsForBoard db board.id : Int) ≤ board.maxAgents := by
  rw [WithinCap, hfound, Option.all_some, decide_eq_true_iff]

theorem Counted.withinCap_iff (h : Counted s overtaken p agent board) (hnext : p.writes = .insert agent :: writes)
    (hinsert : s.db.agents.insert? agent = some agents) :
    WithinCap { s.db with agents } board.id ↔
      (countNonLeadAgentsForBoard p.seen board.id : Int) + overtaken p.id < board.maxAgents := by
  have hfull : p.writes = [.insert agent, .update agent agent] := by
    rcases suffix_of_next (hnext ▸ h.writes) with ⟨-, rfl⟩ | ⟨hne, -⟩
    · exact hnext
    · cases hne
  have hcount := countNonLead_insert hinsert h.worker board.id
  rw [if_pos h.on, h.counted hfull] at hcount
  rw [SiloForge.withinCap_iff (show ({ s.db with agents } : AgentDb).boards.get? board.id = some board from h.found),
    hcount]
  omega

theorem Counted.exceedsRoom_eq (h : Counted s overtaken p agent board) (hfound : s.opened.get? p.id = some p)
    (hnext : p.writes = .insert agent :: writes) (happlied : (AgentWrite.insert agent).apply s.db = .ok db) :
    exceedsRoom s overtaken (.commit p.id) =
      decide (board.maxAgents ≤ (countNonLeadAgentsForBoard p.seen board.id : Int) + overtaken p.id) := by
  have hseen : p.seen.boards.get? board.id = some board := h.boards ▸ h.found
  rw [exceedsRoom, insertedOn_insert hfound hnext happlied, h.on, Option.any_some]
  dsimp only
  rw [hfound, Option.any_some, hseen, Option.any_some]

theorem WithinCap.insert {boardId : Uuid} (h : WithinCap db boardId) (hinsert : db.agents.insert? new = some agents)
    (hworker : new.isBoardLead = false) (hon : new.boardId = some boardId → WithinCap { db with agents } boardId) :
    WithinCap { db with agents } boardId := by
  by_cases hsame : new.boardId = some boardId
  · exact hon hsame
  · have hcount := countNonLead_insert hinsert hworker boardId
    rw [if_neg hsame, Nat.add_zero] at hcount
    unfold WithinCap at h ⊢
    rwa [hcount]

theorem OpenWithin.close (h : OpenWithin s) (id : Nat) : OpenWithin (s.close id) :=
  fun p hp => h p (Table.mem_deleteWhere.mp hp).1

/-- **One action** that exceeds no room keeps the cap. -/
theorem capKept_step (h : AllCounted s overtaken) (hwithin : OpenWithin s) (hlead : onlyLeadCreations action = true)
    (hroom : exceedsRoom s overtaken action = false) (hstep : AgentStep casing s action t) :
    CapKept s action t ∧ OpenWithin t := by
  cases hstep with
  | @opened id request writes opened checked inserted =>
    refine ⟨by rintro _ ⟨⟩, fun q hq => ?_⟩
    rcases (Table.mem_insert? inserted).mp hq with hq | rfl
    · exact hwithin q hq
    · obtain ⟨agentId, leadId, payload, reached, rfl⟩ := exists_creation_of_onlyLead hlead
      obtain ⟨board, gateway, -, -, -, -, -, rfl⟩ := createAgent_eq_ok checked
      rintro _ _ ⟨⟩
  | @committed id p write writes db found next applied =>
    obtain rfl : p.id = id := Table.key_of_get? found
    obtain ⟨agent, board, hp⟩ := h p (Table.mem_of_get? found)
    rcases suffix_of_next (next ▸ hp.writes) with ⟨rfl, rfl⟩ | ⟨rfl, rfl⟩
    · obtain ⟨agents, hinsert, rfl⟩ : ∃ agents, s.db.agents.insert? agent = some agents ∧
          { s.db with agents } = db := by
        simpa only [AgentWrite.apply, bind_eq_ok, orFail_eq_ok, pure_eq_ok] using applied
      have hcap : WithinCap { s.db with agents } board.id := by
        rw [hp.exceedsRoom_eq found next applied, decide_eq_false_iff_not, not_le] at hroom
        exact (hp.withinCap_iff next hinsert).mpr hroom
      have hon : ∀ boardId, agent.boardId = some boardId → WithinCap { s.db with agents } boardId := by
        intro boardId hboardId
        rwa [← Option.some.inj (hp.on.symm.trans hboardId)]
      refine ⟨capKept_commit found next hon, fun q hq loaded new hnext boardId hboardId => ?_⟩
      · rcases Table.mem_put.mp hq with ⟨hq, -⟩ | ⟨rfl, -⟩
        · exact (hwithin q hq loaded new hnext boardId hboardId).insert hinsert hp.worker (hon boardId)
        · cases hnext
          exact hon boardId hboardId
    · obtain rfl := apply_update_same applied
      have hcap : ∀ boardId, agent.boardId = some boardId → WithinCap s.db boardId :=
        hwithin p (Table.mem_of_get? found) agent agent (by rw [next]; rfl)
      refine ⟨capKept_commit found next hcap, fun q hq loaded new hnext boardId hboardId => ?_⟩
      · rcases Table.mem_put.mp hq with ⟨hq, -⟩ | ⟨rfl, -⟩
        · exact hwithin q hq loaded new hnext boardId hboardId
        · cases hnext
  | failed p found fails =>
    refine ⟨?_, hwithin.close _⟩
    rintro _ ⟨⟩ q hq write hwrite hok
    obtain rfl := Option.some.inj (found.symm.trans hq)
    rw [fails write hwrite] at hok
    cases hok
  | gaveUp => exact ⟨by rintro _ ⟨⟩, hwithin.close _⟩

theorem exceedsRoom_eq_false (h : AllCounted s overtaken)
    (hkept : ∀ t ∈ (agentSessionsMachine casing).commits s action, CapKept s action t) :
    exceedsRoom s overtaken action = false := by
  cases action with
  | check id request => rfl
  | giveUp id => rfl
  | commit id =>
    cases hon : insertedOn s (.commit id) with
    | none => rw [exceedsRoom, hon, Option.any_none]
    | some boardId =>
      obtain ⟨p, hfound, hinserted⟩ := Option.bind_eq_some_iff.mp hon
      obtain rfl : p.id = id := Table.key_of_get? hfound
      split at hinserted
      · rename_i agent writes hnext
        split at hinserted
        · rename_i hok
          obtain ⟨new, board, hp⟩ := h p (Table.mem_of_get? hfound)
          cases happlied : (AgentWrite.insert agent).apply s.db with
          | error e =>
            rw [happlied] at hok
            cases hok
          | ok db =>
            obtain ⟨agents, hinsert, rfl⟩ : ∃ agents, s.db.agents.insert? agent = some agents ∧
                { s.db with agents } = db := by
              simpa only [AgentWrite.apply, bind_eq_ok, orFail_eq_ok, pure_eq_ok] using happlied
            have hnew : new = agent := by
              rcases suffix_of_next (hnext ▸ hp.writes) with ⟨heq, -⟩ | ⟨hne, -⟩
              · cases heq
                rfl
              · cases hne
            subst hnew
            have hstep : s.step casing (.commit p.id) =
                some { db := { s.db with agents }, opened := s.opened.put { p with writes } } := by
              rw [AgentSessions.step, hfound, Option.map_some, AgentSessions.commitNext, hnext]
              dsimp only
              rw [happlied]
            have hcap := hkept _ (mem_agentSessions.mpr hstep) p.id rfl p hfound (.insert new) (by rw [hnext]; rfl)
              (isOk_eq_true happlied) board.id hp.on
            rw [hp.exceedsRoom_eq hfound hnext happlied, decide_eq_false_iff_not, not_le]
            exact (hp.withinCap_iff hnext hinsert).mp hcap
        · cases hinserted
      · cases hinserted

end Step

/-! ## Every run -/

/-- The requests, with notes beside them of how many workers came to each one's board. -/
def countedSessions (casing : LetterCase) : Machine (AgentSessions × Overtaken) RequestAction :=
  (agentSessionsMachine casing).watch noteOvertaken

def CapHolds (casing : LetterCase) (db : AgentDb) (actions : List RequestAction) : Prop :=
  (countedSessions casing).Along
    (fun s action => ∀ t ∈ (agentSessionsMachine casing).commits s.1 action, CapKept s.1 action t)
    ({ db }, fun _ => 0) actions

theorem allCounted_next {casing : LetterCase} {s : AgentSessions × Overtaken} {action : RequestAction}
    (h : AllCounted s.1 s.2) (hlead : onlyLeadCreations action = true) :
    AllCounted ((countedSessions casing).next s action).1 ((countedSessions casing).next s action).2 := by
  refine (countedSessions casing).next_of_each (Q := fun s => AllCounted s.1 s.2) h fun t ht => ?_
  obtain ⟨hmem, hnotes⟩ := Machine.mem_watch.mp ht
  rw [hnotes]
  exact allCounted_step h hlead (agentStep_of_mem hmem)

theorem roomKept_of_capHolds {casing : LetterCase} {db : AgentDb} {actions : List RequestAction}
    (hlead : ∀ action ∈ actions, onlyLeadCreations action = true) (h : CapHolds casing db actions) :
    (countedSessions casing).Along (fun s action => exceedsRoom s.1 s.2 action = false)
      ({ db }, fun _ => 0) actions := by
  refine Machine.Along.of_inv (fun s => AllCounted s.1 s.2) ?_ ?_ (fun p hp => absurd hp (Table.not_mem_empty p))
    (Machine.Along.and h (Machine.along_of_mem _ hlead))
  · exact fun s action hs hP => allCounted_next hs hP.2
  · exact fun s action hs hP => exceedsRoom_eq_false hs hP.1

/-- **The cap is kept** in a run of creations by leads when, and only when, none is committed after as many others
came to its board as it had found room for. -/
theorem capHolds_iff {casing : LetterCase} {db : AgentDb} {actions : List RequestAction}
    (hlead : ∀ action ∈ actions, onlyLeadCreations action = true) : CapHolds casing db actions ↔
      (countedSessions casing).Along (fun s action => exceedsRoom s.1 s.2 action = false)
        ({ db }, fun _ => 0) actions := by
  refine ⟨roomKept_of_capHolds hlead, fun h => ?_⟩
  refine Machine.Along.of_inv (fun s => AllCounted s.1 s.2 ∧ OpenWithin s.1) ?_ ?_
    ⟨fun p hp => absurd hp (Table.not_mem_empty p), fun p hp => absurd hp (Table.not_mem_empty p)⟩
    (h.and (Machine.along_of_mem _ hlead))
  · intro s action hs hP
    refine ⟨allCounted_next hs.1 hP.2, ?_⟩
    refine (countedSessions casing).next_of_each (Q := fun s => OpenWithin s.1) hs.2 fun t ht => ?_
    exact (capKept_step hs.1 hs.2 hP.2 hP.1 (agentStep_of_mem (Machine.mem_watch.mp ht).1)).2
  · exact fun s action hs hP t ht => (capKept_step hs.1 hs.2 hP.2 hP.1 (agentStep_of_mem ht)).1

namespace Sample

def asksWorker (id agentId : Nat) (name : String) : RequestAction :=
  .check id (.createAgent agentId (.agent 3) { name } true)

def roomForOne : AgentDb :=
  { placed with boards := ⟨[{ id := 1, organizationId := 1, gatewayId := some 1, maxAgents := 2 }], by decide⟩ }

end Sample

theorem capHolds_one : CapHolds Sample.oneCase Sample.roomForOne
    [Sample.asksWorker 1 5 "Second", .commit 1, .commit 1, Sample.asksWorker 2 6 "Third", .commit 2] :=
  (capHolds_iff (by decide)).mpr (by decide)

/-- Two creations that count the same workers are both committed. -/
theorem not_capHolds :
    ¬ ∀ (casing : LetterCase) (db : AgentDb) (actions : List RequestAction),
      (∀ action ∈ actions, onlyLeadCreations action = true) → CapHolds casing db actions := by
  intro h
  have hcap := h Sample.oneCase Sample.roomForOne
    [Sample.asksWorker 1 5 "Second", Sample.asksWorker 2 6 "Third", .commit 1, .commit 2] (by decide)
  exact absurd (roomKept_of_capHolds (by decide) hcap) (by decide)

end SiloForge
