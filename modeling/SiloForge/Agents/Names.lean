import SiloForge.Agents.Homes

/-!
# The names of agents

A new agent of a user or a lead is refused where the database finds a name `ILIKE` the requested one on the boards of
the gateway. The request's name is the pattern, so its wildcards match other names; and heartbeats, leads, renamed and
moved agents and moved boards are not checked at all.

* `NamesUnique` : no two agents of the boards of one gateway have equal names up to letter case;
* `reusesName`, `namesUnique_of_mem` : the requests that give a name a second time, and the others;
* `AnswersName`, `answersName_iff` : the check is right about a name in every state when the name is plain;
* `namesUnique` : both together.
-/

namespace SiloForge

open Lib

def AgentDb.boardGateway (s : AgentDb) (boardId : Option Uuid) : Option Uuid :=
  (boardId.bind s.boards.get?).bind (·.gatewayId)

variable {s : AgentDb} {casing : LetterCase} {gatewayId : Uuid}

theorem mem_onGatewayBoards {agent : PlacedAgent} :
    agent ∈ s.onGatewayBoards gatewayId ↔ agent ∈ s.agents ∧ s.boardGateway agent.boardId = some gatewayId := by
  rw [AgentDb.onGatewayBoards, List.mem_filter, ← Table.mem_def, AgentDb.boardGateway]
  simp only [Option.any_eq_true, decide_eq_true_eq, Option.bind_eq_some_iff]
  constructor
  · rintro ⟨hmem, boardId, hon, board, hfound, hgateway⟩
    exact ⟨hmem, board, ⟨boardId, hon, hfound⟩, hgateway⟩
  · rintro ⟨hmem, board, ⟨boardId, hon, hfound⟩, hgateway⟩
    exact ⟨hmem, boardId, hon, board, hfound, hgateway⟩

/-- No two agents of the boards of one gateway have names that are equal up to letter case. -/
def NamesUnique (casing : LetterCase) (s : AgentDb) : Prop :=
  ∀ gatewayId, ∀ agent ∈ s.onGatewayBoards gatewayId, ∀ other ∈ s.onGatewayBoards gatewayId,
    casing.SameName agent.name other.name → agent.id = other.id

theorem namesUnique_iff : NamesUnique casing s ↔
    ∀ agent ∈ s.agents.rows, ∀ other ∈ s.agents.rows, s.boardGateway agent.boardId ≠ none →
      s.boardGateway agent.boardId = s.boardGateway other.boardId → casing.SameName agent.name other.name →
      agent.id = other.id := by
  constructor
  · intro h agent hagent other hother hgateway hsame
    obtain ⟨gatewayId, hid⟩ := Option.ne_none_iff_exists'.mp hgateway
    exact h gatewayId agent (mem_onGatewayBoards.mpr ⟨hagent, hid⟩) other
      (mem_onGatewayBoards.mpr ⟨hother, hsame.symm.trans hid⟩)
  · intro h gatewayId agent hagent other hother
    obtain ⟨hagent, hid⟩ := mem_onGatewayBoards.mp hagent
    obtain ⟨hother, hid'⟩ := mem_onGatewayBoards.mp hother
    exact h agent hagent other hother (by rw [hid]; exact nofun) (hid.trans hid'.symm)

instance (casing : LetterCase) (s : AgentDb) : Decidable (NamesUnique casing s) := decidable_of_iff' _ namesUnique_iff

/-! ## Names given again -/

def nameTaken (casing : LetterCase) (s : AgentDb) (gatewayId : Option Uuid) (agentId : Uuid) (name : String) : Bool :=
  gatewayId.any fun gatewayId => (s.onGatewayBoards gatewayId).any fun other =>
    other.id ≠ agentId && casing.SameName name other.name

/-- The check of a new agent looks for the name itself: it has no blanks at its ends and no backslash. -/
def checkedAsGiven (name : String) : Bool := name ≠ "" && strip name = name && '\\' ∉ name.toList

def patchedBoardId (s : AgentDb) (agent : PlacedAgent) (payload : AgentUpdate) : Option Uuid :=
  match payload.isGatewayMain with
  | some true => none
  | some false => payload.boardId.join
  | none => if (getMainAgentGateway s agent).isSome then none else payload.boardId.join.or agent.boardId

/-- The request gives a name a second time: a creation whose check looks for another text, any other writer of a name
or a board that finds the name taken there. -/
def reusesName (casing : LetterCase) (s : AgentDb) : AgentRequest → Bool
  | .createAgent agentId actor payload _ =>
    !checkedAsGiven payload.name &&
      nameTaken casing s (s.boardGateway (createdBoardId s payload actor)) agentId payload.name
  | .heartbeatOrCreateAgent agentId (.user _) payload _ =>
    (heartbeatLookup s payload).isNone && nameTaken casing s (s.boardGateway payload.boardId) agentId payload.name
  | .updateAgent agentId member payload _ _ =>
    (s.agents.get? agentId).any fun agent =>
      (requireAgentAccess s agent member true).isOk && (validateAgentUpdateInputs s member payload).isOk &&
        payload.name ≠ some none &&
        nameTaken casing s (s.boardGateway (patchedBoardId s agent payload)) agent.id (payload.nameOf agent)
  | .ensureBoardLeadAgent boardId agentId agentName _ =>
    nameTaken casing s (s.boardGateway (some boardId)) (((s.leads boardId).head?.map (·.id)).getD agentId)
      (desiredLeadName agentName)
  | .updateBoard boardId userId payload =>
    (s.boards.get? boardId).any fun board =>
      (requireBoardAccess s.access userId board.toBoard true).isOk && payload.maxAgents ≠ some none &&
        payload.gatewayId.any fun gatewayId => board.gatewayId ≠ some gatewayId &&
          (requireOrgGateway s gatewayId board.organizationId).isOk &&
          (s.onBoard boardId).any fun agent => (s.onBoard boardId ++ s.onGatewayBoards gatewayId).any fun other =>
            other.id ≠ agent.id && casing.SameName agent.name other.name
  | _ => false

section Taken
variable {casing : LetterCase} {s t : AgentDb} {agent row : PlacedAgent} {agentId : Uuid} {name : String}

theorem free_of_nameTaken (h : nameTaken casing s (some gatewayId) agentId name = false)
    {other : PlacedAgent} (hother : other ∈ s.onGatewayBoards gatewayId) (hne : other.id ≠ agentId) :
    ¬ casing.SameName name other.name := by
  intro hsame
  have htaken : nameTaken casing s (some gatewayId) agentId name = true := by
    rw [nameTaken, Option.any_some]
    exact List.any_eq_true.mpr ⟨other, hother, by simp [hne, hsame]⟩
  rw [htaken] at h
  cases h

theorem NamesUnique.wrote (h : NamesUnique casing s) (hwrote : Wrote s row t)
    (hfree : ∀ gatewayId, s.boardGateway row.boardId = some gatewayId → ∀ other ∈ s.onGatewayBoards gatewayId,
      other.id ≠ row.id → ¬ casing.SameName row.name other.name) : NamesUnique casing t := by
  have hgateways : ∀ boardId, t.boardGateway boardId = s.boardGateway boardId := fun boardId => by
    rw [AgentDb.boardGateway, hwrote.boards]
    rfl
  have hold : ∀ {gatewayId}, ∀ other ∈ t.onGatewayBoards gatewayId,
      other = row ∨ other.id ≠ row.id ∧ other ∈ s.onGatewayBoards gatewayId := by
    intro gatewayId other hother
    obtain ⟨hmem, hgateway⟩ := mem_onGatewayBoards.mp hother
    rw [hgateways] at hgateway
    exact (hwrote.mem.mp hmem).imp_right fun hmem => ⟨hmem.2, mem_onGatewayBoards.mpr ⟨hmem.1, hgateway⟩⟩
  intro gatewayId agent hagent other hother hsame
  have hplace := (mem_onGatewayBoards.mp hagent).2
  have hplace' := (mem_onGatewayBoards.mp hother).2
  rw [hgateways] at hplace hplace'
  rcases hold agent hagent with rfl | ⟨hne, hagent⟩
  · rcases hold other hother with rfl | ⟨hne', hother⟩
    · rfl
    · exact absurd hsame (hfree gatewayId hplace other hother hne')
  · rcases hold other hother with rfl | ⟨-, hother⟩
    · exact absurd hsame.symm (hfree gatewayId hplace' agent hagent hne)
    · exact h gatewayId agent hagent other hother hsame

end Taken

/-! ## The check of a new agent -/

section Check
variable {casing : LetterCase} {s : AgentDb} {board : BoardRow} {gateway : OrgGateway} {name text : String}

theorem anyNameLike_eq_ok {agents : List PlacedAgent} {pattern : String} {found : Bool}
    (h : anyNameLike casing agents pattern = .ok found) :
    found = agents.any fun a => casing.ilike pattern a.name = some true := by
  unfold anyNameLike at h
  split at h
  · cases h
  · exact (Except.ok.inj h).symm

theorem plainPattern_lowerText (casing : LetterCase) (name : String) :
    PlainPattern (casing.lowerText name) ↔ PlainPattern name.toList := by
  simp only [PlainPattern, LetterCase.lowerText, List.forall_mem_map]
  refine forall₂_congr fun c _ => not_congr ⟨fun hmem => ?_, fun hmem => ?_⟩
  · have hkept : c = casing.lower c := (casing.wildcards _ hmem c).mp rfl
    rwa [← hkept] at hmem
  · rwa [(casing.wildcards _ hmem c).mpr rfl]

theorem ilike_of_sameName (hplain : '\\' ∉ name.toList) (hsame : casing.SameName name text) :
    casing.ilike name text = some true := by
  rw [LetterCase.ilike, ← show casing.lowerText name = casing.lowerText text from hsame]
  refine like_self fun hescape => hplain ?_
  obtain ⟨c, hc, hlower⟩ := List.mem_map.mp hescape
  rwa [(casing.wildcards '\\' (by decide) c).mp hlower] at hc

theorem ilike_plain (hplain : PlainPattern name.toList) (text : String) :
    casing.ilike name text = some (decide (casing.SameName text name)) :=
  like_plain ((plainPattern_lowerText casing name).mpr hplain) (casing.lowerText text)

theorem free_of_ensureUniqueAgentName (h : ensureUniqueAgentName casing s board gateway (strip name) = .ok ())
    (hgiven : checkedAsGiven name = true) {other : PlacedAgent} (hother : other ∈ s.onGatewayBoards gateway.id) :
    ¬ casing.SameName name other.name := by
  simp only [checkedAsGiven, Bool.and_eq_true, decide_eq_true_eq] at hgiven
  obtain ⟨⟨hne, hstrip⟩, hplain⟩ := hgiven
  rw [hstrip, ensureUniqueAgentName, if_neg hne] at h
  obtain ⟨_, -, h⟩ := bind_eq_ok.mp h
  obtain ⟨_, -, h⟩ := bind_eq_ok.mp h
  obtain ⟨existing, hexisting, h⟩ := bind_eq_ok.mp h
  rw [require_eq_ok] at h
  intro hsame
  have hfound : existing = true := by
    rw [anyNameLike_eq_ok hexisting]
    exact List.any_eq_true.mpr ⟨other, hother, decide_eq_true (ilike_of_sameName hplain hsame)⟩
  rw [hfound] at h
  cases h

def NameInUse (casing : LetterCase) (s : AgentDb) (board : BoardRow) (gateway : OrgGateway) (name : String) : Prop :=
  ∃ agent ∈ s.onBoard board.id ++ s.onGatewayBoards gateway.id, casing.SameName agent.name name

/-- The check refuses a name that is in use as a conflict, and accepts any other. -/
def AnswersName (casing : LetterCase) (s : AgentDb) (board : BoardRow) (gateway : OrgGateway) (name : String) : Prop :=
  (NameInUse casing s board gateway name →
    ∃ message, ensureUniqueAgentName casing s board gateway name = .error (.text 409 message)) ∧
  (¬ NameInUse casing s board gateway name → ensureUniqueAgentName casing s board gateway name = .ok ())

theorem anyNameLike_plain (hplain : PlainPattern name.toList) (agents : List PlacedAgent) :
    anyNameLike casing agents name = .ok (agents.any fun a => casing.SameName a.name name) := by
  rw [anyNameLike, if_neg (by simp [ilike_plain hplain])]
  simp only [ilike_plain hplain, Option.some.injEq, decide_eq_true_eq]

theorem answersName_of_plain (hne : name ≠ "") (hplain : PlainPattern name.toList) :
    AnswersName casing s board gateway name := by
  have hcheck : ensureUniqueAgentName casing s board gateway name = (do
      require ((s.onBoard board.id).any (fun a => casing.SameName a.name name) = false)
        (.text 409 "An agent with this name already exists on this board.")
      require ((s.onGatewayBoards gateway.id).any (fun a => casing.SameName a.name name) = false)
        (.text 409 "An agent with this name already exists in this gateway workspace.")) := by
    rw [ensureUniqueAgentName, if_neg hne, anyNameLike_plain hplain, anyNameLike_plain hplain]
    rfl
  unfold AnswersName
  rw [hcheck, NameInUse]
  by_cases hboard : (s.onBoard board.id).any (fun a => casing.SameName a.name name) = false
  · by_cases hgateway : (s.onGatewayBoards gateway.id).any (fun a => casing.SameName a.name name) = false
    · refine ⟨fun huse => ?_, fun _ => ?_⟩
      · obtain ⟨agent, hagent, hsame⟩ := huse
        rcases List.mem_append.mp hagent with hagent | hagent
        · exact absurd hsame (by simpa using List.any_eq_false.mp hboard agent hagent)
        · exact absurd hsame (by simpa using List.any_eq_false.mp hgateway agent hagent)
      · simp only [require, if_pos hboard, if_pos hgateway]
        rfl
    · refine ⟨fun _ => ⟨_, by simp only [require, if_pos hboard, if_neg hgateway]; rfl⟩, fun hfree => ?_⟩
      obtain ⟨agent, hagent, hsame⟩ := List.any_eq_true.mp (Bool.not_eq_false _ ▸ hgateway)
      exact absurd ⟨agent, List.mem_append_right _ hagent, of_decide_eq_true hsame⟩ hfree
  · refine ⟨fun _ => ⟨_, by simp only [require, if_neg hboard]; rfl⟩, fun hfree => ?_⟩
    obtain ⟨agent, hagent, hsame⟩ := List.any_eq_true.mp (Bool.not_eq_false _ ▸ hboard)
    exact absurd ⟨agent, List.mem_append_left _ hagent, of_decide_eq_true hsame⟩ hfree

def onlyAgent (name : String) : AgentDb :=
  { gateways := ⟨[{ id := 1, url := "", workspaceRoot := "", organizationId := 1 }], by simp⟩
    boards := ⟨[{ id := 1, organizationId := 1, gatewayId := some 1 }], by simp⟩
    agents := ⟨[{ id := 1, boardId := some 1, name, gatewayId := 1 }], by simp⟩ }

theorem nameInUse_onlyAgent : NameInUse casing (onlyAgent text) { id := 1, organizationId := 1, gatewayId := some 1 }
    { id := 1, url := "", workspaceRoot := "", organizationId := 1 } name ↔ casing.SameName text name := by
  have hagents : (onlyAgent text).onBoard 1 ++ (onlyAgent text).onGatewayBoards 1 =
      (onlyAgent text).agents.rows ++ (onlyAgent text).agents.rows := rfl
  unfold NameInUse
  rw [hagents]
  simp [onlyAgent]

theorem anyNameLike_onlyAgent : anyNameLike casing (onlyAgent text).agents.rows name =
    match casing.ilike name text with
    | none => .error (.status 500)
    | some found => .ok found := by
  cases hlike : casing.ilike name text <;> simp [anyNameLike, onlyAgent, hlike]

theorem ensureUniqueAgentName_onlyAgent (hne : name ≠ "") :
    ensureUniqueAgentName casing (onlyAgent text) { id := 1, organizationId := 1, gatewayId := some 1 }
        { id := 1, url := "", workspaceRoot := "", organizationId := 1 } name =
      match casing.ilike name text with
      | none => .error (.status 500)
      | some true => .error (.text 409 "An agent with this name already exists on this board.")
      | some false => .ok () := by
  have hboard : (onlyAgent text).onBoard 1 = (onlyAgent text).agents.rows := rfl
  have hgateway : (onlyAgent text).onGatewayBoards 1 = (onlyAgent text).agents.rows := rfl
  rw [ensureUniqueAgentName, if_neg hne, hboard, hgateway, anyNameLike_onlyAgent]
  rcases casing.ilike name text with _ | _ | _ <;> rfl

theorem not_answersName_onlyAgent (hne : name ≠ "")
    (hfound : casing.ilike name text ≠ some (decide (casing.SameName text name))) :
    ¬ AnswersName casing (onlyAgent text) { id := 1, organizationId := 1, gatewayId := some 1 }
      { id := 1, url := "", workspaceRoot := "", organizationId := 1 } name := by
  rintro ⟨hused, hfree⟩
  rw [ensureUniqueAgentName_onlyAgent hne, nameInUse_onlyAgent] at hused hfree
  by_cases hsame : casing.SameName text name
  · obtain ⟨message, hconflict⟩ := hused hsame
    rw [decide_eq_true hsame] at hfound
    rcases hlike : casing.ilike name text with _ | _ | _ <;> rw [hlike] at hconflict hfound
    · cases hconflict
    · cases hconflict
    · exact hfound rfl
  · have hok := hfree hsame
    rw [decide_eq_false hsame] at hfound
    rcases hlike : casing.ilike name text with _ | _ | _ <;> rw [hlike] at hok hfound
    · cases hok
    · exact hfound rfl
    · cases hok

/-- Any other name is answered wrongly in some state. -/
theorem exists_not_answersName (casing : LetterCase) (hplain : ¬ PlainPattern name.toList) :
    ∃ text, ¬ AnswersName casing (onlyAgent text) { id := 1, organizationId := 1, gatewayId := some 1 }
      { id := 1, url := "", workspaceRoot := "", organizationId := 1 } name := by
  have hne : name ≠ "" := by
    rintro rfl
    exact hplain fun c hc => absurd hc List.not_mem_nil
  -- A letter in the one case that stands for both.
  have hletter : casing.lower 'a' ≠ '_' := fun h => absurd ((casing.wildcards '_' (by decide) 'a').mp h) (by decide)
  rw [← plainPattern_lowerText casing] at hplain
  obtain ⟨text, hchars, hlike⟩ := exists_like_ne hplain hletter
  have hlower : casing.lowerText (String.ofList text) = text := by
    rw [LetterCase.lowerText, String.toList_ofList]
    refine (List.map_congr_left (g := id) fun d hd => ?_).trans (List.map_id text)
    rcases hchars d hd with rfl | hmem
    · exact casing.lower_lower 'a'
    · obtain ⟨c, -, rfl⟩ := List.mem_map.mp hmem
      exact casing.lower_lower c
  refine ⟨String.ofList text, not_answersName_onlyAgent hne ?_⟩
  rw [LetterCase.ilike, hlower]
  simp only [LetterCase.SameName, hlower]
  exact hlike

/-- **The check is right about a name** in every state when, and only when, it is a text without wildcards. -/
theorem answersName_iff (casing : LetterCase) (name : String) :
    (∀ s board gateway, GatewayOf s board gateway → AnswersName casing s board gateway name) ↔
      name ≠ "" ∧ PlainPattern name.toList := by
  have hplace : ∀ text, GatewayOf (onlyAgent text) { id := 1, organizationId := 1, gatewayId := some 1 }
      { id := 1, url := "", workspaceRoot := "", organizationId := 1 } := fun text => ⟨rfl, rfl, rfl⟩
  constructor
  · intro h
    have hplain : PlainPattern name.toList := by
      by_contra hwild
      obtain ⟨text, hwrong⟩ := exists_not_answersName casing hwild
      exact hwrong (h _ _ _ (hplace text))
    refine ⟨?_, hplain⟩
    rintro rfl
    obtain ⟨message, hconflict⟩ := (h _ _ _ (hplace "")).1 (nameInUse_onlyAgent.mpr rfl)
    cases hconflict
  · rintro ⟨hne, hplain⟩ s board gateway -
    exact answersName_of_plain hne hplain

end Check

/-! ## One request -/

theorem AgentMutated.placed {agent mutated : PlacedAgent} {payload : AgentUpdate}
    (h : AgentMutated s agent payload mutated) : mutated.id = agent.id ∧
      mutated.boardId = patchedBoardId s agent payload ∧ mutated.name = payload.nameOf agent := by
  unfold patchedBoardId
  cases h with
  | madeMain board gateway requested place => rw [requested]; exact ⟨rfl, rfl, rfl⟩
  | unmadeMain board gatewayId requested given found gateway => rw [requested, given]; exact ⟨rfl, rfl, rfl⟩
  | stayedMain gateway requested main found =>
    have hmain : getMainAgentGateway s agent = some gateway := by rw [getMainAgentGateway, main]; exact found
    rw [requested, hmain]
    exact ⟨rfl, main, rfl⟩
  | moved board gatewayId requested main given found gateway => rw [requested, main, given]; exact ⟨rfl, rfl, rfl⟩
  | renamed requested main given => rw [requested, main, given]; exact ⟨rfl, rfl, rfl⟩

theorem NamesUnique.boardUpdated {board : BoardRow}
    {maxAgents : Int} (h : NamesUnique casing s) (hfound : s.boards.get? board.id = some board)
    (hfree : board.gatewayId = some gatewayId ∨ ∀ agent ∈ s.onBoard board.id,
      ∀ other ∈ s.onBoard board.id ++ s.onGatewayBoards gatewayId,
        casing.SameName agent.name other.name → agent.id = other.id) :
    NamesUnique casing { s with boards := s.boards.put { board with gatewayId := some gatewayId, maxAgents } } := by
  -- An agent of the gateway's boards is on the board, or was there before.
  have hplaced : ∀ {agent : PlacedAgent} {newId : Uuid},
      agent ∈ ({ s with boards := s.boards.put { board with gatewayId := some gatewayId, maxAgents } } :
        AgentDb).onGatewayBoards newId →
      agent ∈ s.onBoard board.id ∧ newId = gatewayId ∨ agent ∈ s.onGatewayBoards newId := by
    intro agent newId hagent
    obtain ⟨hmem, hgateway⟩ := mem_onGatewayBoards.mp hagent
    obtain ⟨current, hcurrent, hid⟩ := Option.bind_eq_some_iff.mp hgateway
    obtain ⟨boardId, hon, hget⟩ := Option.bind_eq_some_iff.mp hcurrent
    rw [Table.get?_put] at hget
    split at hget
    · rename_i hsame
      obtain ⟨old, -, rfl⟩ := Option.map_eq_some_iff.mp hget
      obtain rfl : boardId = board.id := hsame
      exact .inl ⟨List.mem_filter.mpr ⟨hmem, decide_eq_true hon⟩, (Option.some.inj hid).symm⟩
    · refine .inr (mem_onGatewayBoards.mpr ⟨hmem, ?_⟩)
      rw [AgentDb.boardGateway, hon, Option.bind_some, hget, Option.bind_some, hid]
  rcases hfree with hkept | hfree
  · have hstays : ∀ agent ∈ s.onBoard board.id, agent ∈ s.onGatewayBoards gatewayId := by
      intro agent hagent
      obtain ⟨hmem, hon⟩ := List.mem_filter.mp hagent
      refine mem_onGatewayBoards.mpr ⟨hmem, ?_⟩
      rw [AgentDb.boardGateway, of_decide_eq_true hon, Option.bind_some, hfound, Option.bind_some, hkept]
    have hold : ∀ {agent : PlacedAgent} {newId : Uuid}, agent ∈ s.onBoard board.id ∧ newId = gatewayId ∨
        agent ∈ s.onGatewayBoards newId → agent ∈ s.onGatewayBoards newId := by
      rintro agent newId (⟨hagent, rfl⟩ | hagent)
      · exact hstays agent hagent
      · exact hagent
    exact fun newId agent hagent other hother => h newId agent (hold (hplaced hagent)) other (hold (hplaced hother))
  · intro newId agent hagent other hother hsame
    have hother := hplaced hother
    rcases hplaced hagent with ⟨hon, hnew⟩ | hold
    · subst hnew
      exact hfree agent hon other (List.mem_append.mpr (hother.imp_left And.left)) hsame
    · rcases hother with ⟨hon, hnew⟩ | hother
      · subst hnew
        exact (hfree other hon agent (List.mem_append_right _ hold) hsame.symm).symm
      · exact h newId agent hold other hother hsame

theorem NamesUnique.deleted (h : NamesUnique casing s) (agentId : Uuid) :
    NamesUnique casing { s with agents := s.agents.deleteWhere fun a => a.id = agentId } := by
  have hold : ∀ {agent : PlacedAgent} {gatewayId : Uuid},
      agent ∈ AgentDb.onGatewayBoards { s with agents := s.agents.deleteWhere fun a => a.id = agentId } gatewayId →
        agent ∈ s.onGatewayBoards gatewayId := by
    intro agent gatewayId hagent
    obtain ⟨hmem, hgateway⟩ := mem_onGatewayBoards.mp hagent
    exact mem_onGatewayBoards.mpr ⟨(Table.mem_deleteWhere.mp hmem).1, hgateway⟩
  exact fun gatewayId agent hagent other hother => h gatewayId agent (hold hagent) other (hold hother)

/-- A board that gets another gateway brings no name that is in use there. -/
theorem free_of_moved {board : BoardRow} {userId : Uuid} {payload : BoardUpdate} {gateway : OrgGateway}
    (hfresh : reusesName casing s (.updateBoard board.id userId payload) = false)
    (hfound : s.boards.get? board.id = some board)
    (haccess : requireBoardAccess s.access userId board.toBoard true = .ok ())
    (hbounded : payload.maxAgents ≠ some none) (hgiven : payload.gatewayId = some gatewayId)
    (hmoves : board.gatewayId ≠ some gatewayId)
    (hready : requireOrgGateway s gatewayId board.organizationId = .ok gateway) :
    ∀ agent ∈ s.onBoard board.id, ∀ other ∈ s.onBoard board.id ++ s.onGatewayBoards gatewayId,
      casing.SameName agent.name other.name → agent.id = other.id := by
  intro agent hagent other hother hname
  by_contra hne
  simp only [reusesName, hfound, Option.any_some, isOk_eq_true haccess, hbounded, hgiven, hmoves,
    isOk_eq_true hready, ne_eq, not_false_eq_true, decide_true, Bool.true_and] at hfresh
  refine List.any_eq_false.mp hfresh agent hagent (List.any_eq_true.mpr ⟨other, hother, ?_⟩)
  simp [Ne.symm hne, hname]

/-- **One request** that gives no name again keeps the names unique. -/
theorem namesUnique_of_mem {t : AgentDb} {request : AgentRequest} (h : NamesUnique casing s)
    (hfresh : reusesName casing s request = false) (ht : t ∈ respondAgents casing s request) :
    NamesUnique casing t := by
  cases outcome_of_mem ht with
  | @created agentId actor payload reached t board gateway place on unique fresh wrote =>
    refine h.wrote wrote fun gatewayId hgateway other hother hne => ?_
    have hown : s.boardGateway (some board.id) = some gateway.id := by
      rw [AgentDb.boardGateway, Option.bind_some, place.found, Option.bind_some, place.gatewayId]
    obtain rfl := Option.some.inj (hown.symm.trans hgateway)
    cases hgiven : checkedAsGiven payload.name with
    | true => exact free_of_ensureUniqueAgentName unique hgiven hother
    | false =>
      rw [reusesName, hgiven, Bool.not_false, Bool.true_and, on, hown] at hfresh
      exact free_of_nameTaken hfresh hother hne
  | heartbeatCreated board gateway place given unknown fresh wrote =>
    refine h.wrote wrote fun gatewayId hgateway other hother hne => ?_
    simp only [reusesName, unknown, Option.isNone_none, Bool.true_and, given] at hfresh
    rw [show s.boardGateway (some board.id) = some gatewayId from hgateway] at hfresh
    exact free_of_nameTaken hfresh hother hne
  | reprovisioned agent row found kept wrote =>
    refine h.wrote wrote fun gatewayId hgateway other hother hne hsame => hne ?_
    rw [kept.boardId] at hgateway
    rw [kept.name] at hsame
    have hagent := mem_onGatewayBoards.mpr ⟨Table.mem_of_get? found, hgateway⟩
    exact (h gatewayId agent hagent other hother hsame).symm.trans kept.rewrites.1.symm
  | patched agent mutated row found access valid named mutation kept wrote =>
    refine h.wrote wrote fun gatewayId hgateway other hother hne => ?_
    obtain ⟨hid, hboardId, hname⟩ := mutation.placed
    rw [kept.boardId, hboardId] at hgateway
    rw [kept.rewrites.1, hid] at hne
    rw [kept.name, hname]
    simp only [reusesName, found, Option.any_some, isOk_eq_true access, isOk_eq_true valid, named, ne_eq,
      not_false_eq_true, decide_true, Bool.true_and, hgateway] at hfresh
    exact free_of_nameTaken hfresh hother hne
  | leadFound board gateway place id agent found wrote =>
    refine h.wrote wrote fun gatewayId hgateway other hother hne => ?_
    have hon : agent.boardId = some board.id := by
      simpa using (List.mem_filter.mp (List.mem_filter.mp (List.mem_of_mem_head? found)).1).2
    subst id
    rw [reusesName, found, show s.boardGateway (some board.id) = some gatewayId from hon ▸ hgateway] at hfresh
    exact free_of_nameTaken hfresh hother hne
  | leadCreated board gateway place id leaderless fresh wrote =>
    refine h.wrote wrote fun gatewayId hgateway other hother hne => ?_
    subst id
    rw [reusesName, leaderless, show s.boardGateway (some board.id) = some gatewayId from hgateway] at hfresh
    exact free_of_nameTaken hfresh hother hne
  | mainCreated gateway found fresh wrote => exact h.wrote wrote (by rintro _ ⟨⟩)
  | mainFound gateway found agent mem onGateway main wrote =>
    refine h.wrote wrote fun gatewayId hgateway => ?_
    dsimp only at hgateway
    rw [main] at hgateway
    cases hgateway
  | deleted => exact h.deleted _
  | @boardUpdated boardId userId payload board gatewayId maxAgents found access given ready bounded =>
    obtain rfl : board.id = boardId := Table.key_of_get? found
    refine h.boardUpdated found ((gatewayId_of_given given).imp_right ?_)
    rintro ⟨hgiven, hmoves⟩
    obtain ⟨gateway, hready⟩ := ready
    exact free_of_moved hfresh found access bounded hgiven hmoves hready

/-- **Names are unique** in every state of a run in which no request gives a name again, and the
check of a new agent is right in every state about the names without wildcards only. -/
theorem namesUnique (casing : LetterCase) :
    (∀ s requests, NamesUnique casing s →
      (agentMachine casing).Along (fun s request => reusesName casing s request = false) s requests →
      ∀ t ∈ (agentMachine casing).committed s requests, NamesUnique casing t) ∧
    ∀ name, (∀ s board gateway, GatewayOf s board gateway → AnswersName casing s board gateway name) ↔
      name ≠ "" ∧ PlainPattern name.toList :=
  ⟨fun _ _ hs h => Machine.committed_inv (NamesUnique casing)
    (fun _ _ hs hfresh _ ht => namesUnique_of_mem hs hfresh ht) hs h, answersName_iff casing⟩

namespace Sample

def renamesWorker (name : String) : AgentRequest := .updateAgent 4 placer { name := some (some name) } false true

def createsWorker (name : String) : AgentRequest := .createAgent 5 (.user placer) { boardId := some 1, name } true

theorem namesUnique_placed : NamesUnique oneCase placed := by decide

end Sample

theorem namesUnique_renamed :
    (∀ t ∈ (agentMachine Sample.oneCase).committed Sample.placed
      [Sample.renamesWorker "Builder", Sample.createsWorker "100%"], NamesUnique Sample.oneCase t) ∧
    AnswersName Sample.oneCase Sample.placed { id := 1, organizationId := 1, gatewayId := some 1 }
      { id := 1, url := "ws://one", workspaceRoot := "/one", organizationId := 1 } "Builder" :=
  ⟨(namesUnique Sample.oneCase).1 _ _ Sample.namesUnique_placed (by decide),
    ((namesUnique Sample.oneCase).2 "Builder").mpr ⟨by decide, by decide⟩ _ _ _ ⟨rfl, rfl, rfl⟩⟩

/-- A worker is renamed to the name of its lead. -/
theorem not_namesUnique : ¬ ∀ casing : LetterCase,
    (∀ s requests, NamesUnique casing s →
      ∀ t ∈ (agentMachine casing).committed s requests, NamesUnique casing t) ∧
    ∀ s board gateway name, GatewayOf s board gateway → AnswersName casing s board gateway name := by
  intro h
  have hlost : ∃ t ∈ (agentMachine Sample.oneCase).committed Sample.placed [Sample.renamesWorker "Lead"],
      ¬ NamesUnique Sample.oneCase t := by
    decide
  obtain ⟨t, ht, hlost⟩ := hlost
  exact hlost ((h Sample.oneCase).1 _ _ Sample.namesUnique_placed t ht)

end SiloForge
