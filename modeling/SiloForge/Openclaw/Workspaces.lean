import SiloForge.Agents.Rows

/-!
# The ids and workspaces of agents on a gateway

An agent is told from others by the session key it is given: it is that of its gateway's main agent, of the lead of a board,
or of an agent of a board. The id on the gateway is read off the key, and the workspace is named by a slug of the id.

* `AgentSeat`, `givenSessionKey` : what tells an agent from others, and the key it is given;
* `letters_slugify` : a slug keeps the letters and digits of a text;
* `AgentSeat.agentId`, `workspacePath_keyed` : the id and the directory of an agent with its key;
* `agents_apart` : agents on different seats have different ids and workspaces.
-/

namespace SiloForge

open Lib

/-! ## Seats -/

/-- What tells an agent of a gateway from the others: it is the main agent, the lead of a board, or itself. -/
inductive AgentSeat where
  | main
  | lead (boardId : Uuid)
  | member (agentId : Uuid)
  deriving DecidableEq

def Agent.seat (agent : Agent) : AgentSeat :=
  match agent.boardId, agent.isBoardLead with
  | none, _ => .main
  | some boardId, true => .lead boardId
  | some _, false => .member agent.id

/-- The session key of an agent: by the identity helper for the main agent, and by `resolve_session_key` on a board. -/
def givenSessionKey (gatewayId : Uuid) (agent : Agent) : String :=
  match agent.boardId with
  | none => gatewaySessionKey gatewayId
  | some _ => boardSessionKey agent

def AgentRow.keyed (agent : AgentRow) (gatewayId : Uuid) : AgentRow :=
  { agent with openclawSessionId := some (givenSessionKey gatewayId agent.toAgent) }

/-! ## Slugs -/

def letters (cs : List Char) : List Char := cs.filter KeyTexts.isSlugChar

theorem letters_append (cs ds : List Char) : letters (cs ++ ds) = letters cs ++ letters ds := List.filter_append ..

theorem letters_slugChars (afterDash : Bool) (cs : List Char) : letters (KeyTexts.slugChars afterDash cs) = letters cs := by
  have hdash : KeyTexts.isSlugChar '-' ≠ true := by decide
  induction cs generalizing afterDash with
  | nil => rfl
  | cons c cs ih =>
    unfold letters at ih ⊢
    rw [KeyTexts.slugChars]
    split
    · rename_i hc
      rw [List.filter_cons_of_pos hc, List.filter_cons_of_pos hc, ih]
    rename_i hc
    rw [List.filter_cons_of_neg hc]
    split
    · exact ih true
    · rw [List.filter_cons_of_neg hdash]
      exact ih true

theorem letters_dropWhile (cs : List Char) : letters (cs.dropWhile (· = '-')) = letters cs := by
  induction cs with
  | nil => rfl
  | cons c cs ih =>
    rw [List.dropWhile_cons]
    split
    · rename_i hc
      have hdash : KeyTexts.isSlugChar c ≠ true := by
        rw [of_decide_eq_true hc]
        decide
      unfold letters at ih ⊢
      rw [List.filter_cons_of_neg hdash, ih]
    · rfl

theorem letters_reverse (cs : List Char) : letters cs.reverse = (letters cs).reverse := List.filter_reverse ..

/-- `str.lower` leaves a text in lower case as it is. -/
def KeyTexts.KeepsLower (texts : KeyTexts) : Prop :=
  ∀ s : String, (∀ c ∈ s.toList, KeyTexts.isSlugChar c = true ∨ c = '-') → texts.lower s = s

theorem letters_slugify {texts : KeyTexts} (hlower : texts.KeepsLower) {s : String}
    (h : ∀ c ∈ s.toList, KeyTexts.isSlugChar c = true ∨ c = '-') (hne : letters s.toList ≠ []) :
    letters (texts.slugify s).toList = letters s.toList := by
  have hslug : letters ((((KeyTexts.slugChars false (texts.lower s).toList).dropWhile (· = '-')).reverse.dropWhile
      (· = '-')).reverse) = letters s.toList := by
    rw [letters_reverse, letters_dropWhile, letters_reverse, List.reverse_reverse, letters_dropWhile, letters_slugChars,
      hlower s h]
  unfold KeyTexts.slugify
  dsimp only
  rw [if_neg fun hnil => ?_, String.toList_ofList]
  · exact hslug
  · rw [hnil] at hslug
    exact hne hslug.symm

/-! ## Texts of uuids -/

theorem isSlugChar_hexChar {d : Nat} (h : d < 16) : KeyTexts.isSlugChar (Uuid.hexChar d) = true := by
  interval_cases d <;> decide

theorem slugChar_or_dash_of_mem_format {u : Uuid} {c : Char} (h : c ∈ (Uuid.format u).toList) :
    KeyTexts.isSlugChar c = true ∨ c = '-' := by
  unfold Uuid.format at h
  rw [String.toList_ofList] at h
  refine (Uuid.mem_groups h).symm.imp_left fun hmem => ?_
  obtain ⟨d, hd, rfl⟩ := Uuid.mem_hexDigits hmem
  exact isSlugChar_hexChar hd

theorem letters_format (u : Uuid) : letters (Uuid.format u).toList = Uuid.hexDigits 32 u := by
  have hdash : '-' ∉ Uuid.hexDigits 32 u := Uuid.not_mem_hexDigits (by decide)
  unfold letters Uuid.format
  rw [String.toList_ofList]
  refine (List.filter_congr fun c hc => ?_).trans (Uuid.filter_groups hdash)
  rcases Uuid.mem_groups hc with rfl | hc
  · decide
  · obtain ⟨d, hd, rfl⟩ := Uuid.mem_hexDigits hc
    have hne : Uuid.hexChar d ≠ '-' := fun he => hdash (he ▸ hc)
    rw [isSlugChar_hexChar hd, decide_eq_true hne]

theorem hexDigits_inj {u v : Uuid} (hu : u < 2 ^ 128) (hv : v < 2 ^ 128)
    (h : Uuid.hexDigits 32 u = Uuid.hexDigits 32 v) : u = v := by
  have hread : ∀ w < 2 ^ 128, (Uuid.hexDigits 32 w).foldl Uuid.readDigit (some 0) = some w := by
    intro w hw
    rw [Uuid.foldl_readDigit_hexDigits, Nat.zero_mul, Nat.zero_add, Nat.mod_eq_of_lt (by omega)]
  have hsome := hread u hu
  rw [h, hread v hv] at hsome
  exact (Option.some.inj hsome).symm

/-! ## Keys -/

namespace AgentSeat

def uuid (gatewayId : Uuid) : AgentSeat → Uuid
  | main => gatewayId
  | lead boardId => boardId
  | member agentId => agentId

def idWord : AgentSeat → String
  | main => "mc-gateway-"
  | lead _ => "lead-"
  | member _ => "mc-"

/-- The directory of a main agent has its historical name. -/
def workspaceWord : AgentSeat → String
  | main => "gateway-"
  | lead _ => "lead-"
  | member _ => "mc-"

def agentId (gatewayId : Uuid) (seat : AgentSeat) : String := seat.idWord ++ Uuid.format (seat.uuid gatewayId)

def workspaceKey (gatewayId : Uuid) (seat : AgentSeat) : String := seat.workspaceWord ++ Uuid.format (seat.uuid gatewayId)

def Fits : AgentSeat → Prop
  | main => True
  | lead u | member u => u < 2 ^ 128

theorem plain_key {word : String} (hword : ∀ c ∈ word.toList, KeyTexts.isSlugChar c = true ∨ c = '-') (u : Uuid) :
    ∀ c ∈ (word ++ Uuid.format u).toList, KeyTexts.isSlugChar c = true ∨ c = '-' := by
  intro c hc
  rw [String.toList_append] at hc
  exact (List.mem_append.mp hc).elim (hword c) slugChar_or_dash_of_mem_format

theorem plain_words (seat : AgentSeat) :
    (∀ c ∈ seat.idWord.toList, KeyTexts.isSlugChar c = true ∨ c = '-') ∧
      ∀ c ∈ seat.workspaceWord.toList, KeyTexts.isSlugChar c = true ∨ c = '-' := by
  have hwords : ∀ word ∈ ["mc-gateway-", "gateway-", "lead-", "mc-"], ∀ c ∈ word.toList,
      KeyTexts.isSlugChar c = true ∨ c = '-' := by
    have hall : ∀ word ∈ ["mc-gateway-", "gateway-", "lead-", "mc-"],
        (word.toList.all fun c => KeyTexts.isSlugChar c = true ∨ c = '-') = true := by decide
    exact fun word hmem c hc => of_decide_eq_true (List.all_eq_true.mp (hall word hmem) c hc)
  cases seat with
  | main => exact ⟨hwords "mc-gateway-" (by decide), hwords "gateway-" (by decide)⟩
  | lead boardId => exact ⟨hwords "lead-" (by decide), hwords "lead-" (by decide)⟩
  | member agentId => exact ⟨hwords "mc-" (by decide), hwords "mc-" (by decide)⟩

theorem letters_key (word : String) (u : Uuid) :
    letters (word ++ Uuid.format u).toList = letters word.toList ++ Uuid.hexDigits 32 u := by
  rw [String.toList_append, letters_append, letters_format]

variable {gatewayId : Uuid} {seat seat' : AgentSeat}

/-- A key tells the seat, if its word tells the kind of the seat. -/
theorem eq_of_letters_eq (word : AgentSeat → String)
    (hword : ∀ u v, letters (word main).toList ≠ letters (word (lead u)).toList ∧
      letters (word main).toList ≠ letters (word (member u)).toList ∧
      letters (word (lead u)).toList ≠ letters (word (member v)).toList)
    (hfits : seat.Fits) (hfits' : seat'.Fits)
    (h : letters (word seat ++ Uuid.format (seat.uuid gatewayId)).toList =
      letters (word seat' ++ Uuid.format (seat'.uuid gatewayId)).toList) : seat = seat' := by
  rw [letters_key, letters_key] at h
  obtain ⟨hwords, hdigits⟩ := List.append_inj' h (by rw [Uuid.length_hexDigits, Uuid.length_hexDigits])
  cases seat with
  | main =>
    cases seat' with
    | main => rfl
    | lead v => exact absurd hwords (hword v v).1
    | member v => exact absurd hwords (hword v v).2.1
  | lead u =>
    cases seat' with
    | main => exact absurd hwords.symm (hword u u).1
    | lead v => exact congrArg lead (hexDigits_inj hfits hfits' hdigits)
    | member v => exact absurd hwords (hword u v).2.2
  | member u =>
    cases seat' with
    | main => exact absurd hwords.symm (hword u u).2.1
    | lead v => exact absurd hwords.symm (hword v u).2.2
    | member v => exact congrArg member (hexDigits_inj hfits hfits' hdigits)

theorem agentId_inj (hfits : seat.Fits) (hfits' : seat'.Fits) (h : seat.agentId gatewayId = seat'.agentId gatewayId) :
    seat = seat' := by
  refine eq_of_letters_eq idWord (fun _ _ => ⟨?_, ?_, ?_⟩) hfits hfits' (congrArg (letters ·.toList) h)
  · show letters "mc-gateway-".toList ≠ letters "lead-".toList
    decide
  · show letters "mc-gateway-".toList ≠ letters "mc-".toList
    decide
  · show letters "lead-".toList ≠ letters "mc-".toList
    decide

theorem slugify_workspaceKey_inj {texts : KeyTexts} (hlower : texts.KeepsLower)
    (hfits : seat.Fits) (hfits' : seat'.Fits)
    (h : texts.slugify (seat.workspaceKey gatewayId) = texts.slugify (seat'.workspaceKey gatewayId)) : seat = seat' := by
  have hletters : ∀ seat : AgentSeat, letters (texts.slugify (seat.workspaceKey gatewayId)).toList =
      letters (seat.workspaceKey gatewayId).toList := by
    intro seat
    refine letters_slugify hlower (plain_key seat.plain_words.2 _) fun hnil => ?_
    unfold workspaceKey at hnil
    rw [letters_key] at hnil
    have hlength := congrArg List.length (List.append_eq_nil_iff.mp hnil).2
    rw [Uuid.length_hexDigits] at hlength
    cases hlength
  have hkeys := congrArg (letters ·.toList) h
  rw [hletters, hletters] at hkeys
  refine eq_of_letters_eq workspaceWord (fun _ _ => ⟨?_, ?_, ?_⟩) hfits hfits' hkeys
  · show letters "gateway-".toList ≠ letters "lead-".toList
    decide
  · show letters "gateway-".toList ≠ letters "mc-".toList
    decide
  · show letters "lead-".toList ≠ letters "mc-".toList
    decide

theorem colon_not_mem_agentId (gatewayId : Uuid) (seat : AgentSeat) : ':' ∉ (seat.agentId gatewayId).toList := by
  intro hmem
  exact (plain_key seat.plain_words.1 (seat.uuid gatewayId) ':' hmem).elim (by decide) (by decide)

theorem agentId_ne_empty (gatewayId : Uuid) (seat : AgentSeat) : seat.agentId gatewayId ≠ "" := by
  intro h
  have hletters := congrArg (letters ·.toList) h
  unfold agentId at hletters
  rw [letters_key] at hletters
  have hlength := congrArg List.length hletters
  rw [List.length_append, Uuid.length_hexDigits] at hlength
  exact absurd hlength (Nat.succ_ne_zero _)

theorem workspaceKey_eq (gatewayId : Uuid) (seat : AgentSeat) : seat.workspaceKey gatewayId =
    if "mc-gateway-".toList.isPrefixOf (seat.agentId gatewayId).toList then
      String.ofList ((seat.agentId gatewayId).toList.drop "mc-".length)
    else seat.agentId gatewayId := by
  cases seat with
  | main =>
    have htext : (main.agentId gatewayId).toList = "mc-gateway-".toList ++ (Uuid.format gatewayId).toList :=
      String.toList_append
    rw [htext, if_pos (List.isPrefixOf_iff_prefix.mpr (List.prefix_append _ _))]
    refine String.toList_injective ?_
    rw [String.toList_ofList]
    exact String.toList_append
  | lead boardId =>
    refine (if_neg fun hprefix => ?_).symm
    have htext : ((lead boardId).agentId gatewayId).toList = "lead-".toList ++ (Uuid.format boardId).toList :=
      String.toList_append
    rw [htext] at hprefix
    cases hprefix
  | member agentId =>
    refine (if_neg fun hprefix => ?_).symm
    have htext : ((member agentId).agentId gatewayId).toList = "mc-".toList ++ (Uuid.format agentId).toList :=
      String.toList_append
    rw [htext] at hprefix
    obtain ⟨rest, hrest⟩ := List.isPrefixOf_iff_prefix.mp hprefix
    have hsplit : "mc-gateway-".toList = "mc-".toList ++ 'g' :: "ateway-".toList := rfl
    rw [hsplit, List.append_assoc] at hrest
    have hformat := (List.append_cancel_left hrest).symm
    have hmem : 'g' ∈ (Uuid.format agentId).toList := hformat ▸ List.mem_cons_self
    unfold Uuid.format at hmem
    rw [String.toList_ofList] at hmem
    exact Uuid.not_mem_format (by decide) (by decide) hmem

end AgentSeat

/-! ## Agents with their keys -/

theorem givenSessionKey_eq (gatewayId : Uuid) (agent : Agent) :
    givenSessionKey gatewayId agent = sessionKeyOf (agent.seat.agentId gatewayId) := by
  unfold givenSessionKey boardSessionKey Agent.seat
  cases agent.boardId with
  | none => rfl
  | some boardId =>
    cases agent.isBoardLead with
    | true => rfl
    | false => rfl

theorem agentKey_keyed (texts : KeyTexts) (gatewayId : Uuid) (agent : AgentRow) :
    texts.agentKey (agent.keyed gatewayId) = agent.seat.agentId gatewayId :=
  agentKey_of_sessionKey texts (congrArg some (givenSessionKey_eq gatewayId agent.toAgent))
    (AgentSeat.colon_not_mem_agentId _ _) (AgentSeat.agentId_ne_empty _ _)

theorem workspacePath_keyed (texts : KeyTexts) (gatewayId : Uuid) (agent : AgentRow) (workspaceRoot : String) :
    texts.workspacePath (agent.keyed gatewayId) workspaceRoot =
      String.ofList (workspaceRoot.toList.reverse.dropWhile (· = '/')).reverse ++ "/workspace-" ++
        texts.slugify (agent.seat.workspaceKey gatewayId) := by
  unfold KeyTexts.workspacePath
  dsimp only
  rw [agentKey_keyed, ← AgentSeat.workspaceKey_eq]

theorem lifecycleSessionKey_eq {target : RunTarget} {agent : AgentRow} (hboard : target.boardId = agent.boardId)
    (hkey : agent.openclawSessionId = none ∨
      agent.openclawSessionId = some (givenSessionKey target.gateway.id agent.toAgent)) :
    lifecycleSessionKey target agent = .ok (givenSessionKey target.gateway.id agent.toAgent) := by
  unfold lifecycleSessionKey
  cases hon : agent.boardId with
  | some boardId =>
    rw [hboard, hon]
    unfold givenSessionKey
    rw [hon]
  | none =>
    rw [hboard, hon]
    have hgiven : givenSessionKey target.gateway.id agent.toAgent = gatewaySessionKey target.gateway.id := by
      unfold givenSessionKey
      rw [hon]
    have hne : gatewaySessionKey target.gateway.id ≠ "" := sessionKeyOf_ne_nil _
    rw [hgiven] at hkey ⊢
    have hstored : strip ((agent.openclawSessionId.filter (· ≠ "")).getD (gatewaySessionKey target.gateway.id)) =
        gatewaySessionKey target.gateway.id := by
      rcases hkey with hkey | hkey
      · rw [hkey]
        exact strip_sessionKeyOf _
      · rw [hkey, Option.filter_some, if_pos (decide_eq_true hne)]
        exact strip_sessionKeyOf _
    dsimp only
    rw [hstored]
    refine bind_eq_ok.mpr ⟨(), if_pos rfl, bind_eq_ok.mpr ⟨(), if_pos hne, rfl⟩⟩

/-- **Agents never share a workspace.** -/
theorem agents_apart {texts : KeyTexts} (hlower : texts.KeepsLower) (gateway : GatewayRow) {agents : Set AgentRow}
    (hfits : ∀ a ∈ agents, a.seat.Fits) (hseats : agents.Pairwise fun a b => a.seat ≠ b.seat) :
    (agents.Pairwise fun a b => texts.agentKey (a.keyed gateway.id) ≠ texts.agentKey (b.keyed gateway.id) ∧
      texts.workspacePath (a.keyed gateway.id) gateway.workspaceRoot ≠
        texts.workspacePath (b.keyed gateway.id) gateway.workspaceRoot) ∧
    (∀ a ∈ agents, a.openclawSessionId = none ∨ a = a.keyed gateway.id →
      ∀ target : RunTarget, target.gateway = gateway → target.boardId = a.boardId →
        lifecycleSessionKey target a = .ok (givenSessionKey gateway.id a.toAgent)) ∧
    ∀ a ∈ agents, a.openclawSessionId = none → texts.agentKey a = texts.slugify a.name := by
  refine ⟨fun a ha b hb hne => ⟨fun hids => ?_, fun hpaths => ?_⟩, ?_, fun a _ hnone => ?_⟩
  · rw [agentKey_keyed, agentKey_keyed] at hids
    exact hseats ha hb hne (AgentSeat.agentId_inj (hfits a ha) (hfits b hb) hids)
  · rw [workspacePath_keyed, workspacePath_keyed] at hpaths
    have hslugs := List.append_cancel_left (String.toList_append.symm.trans
      ((congrArg String.toList hpaths).trans String.toList_append))
    exact hseats ha hb hne (AgentSeat.slugify_workspaceKey_inj hlower (hfits a ha) (hfits b hb)
      (String.toList_injective hslugs))
  · rintro a - hkey target rfl hboard
    refine lifecycleSessionKey_eq hboard (hkey.imp_right fun heq => ?_)
    exact congrArg AgentRow.openclawSessionId heq
  · unfold KeyTexts.agentKey
    rw [hnone]
    rfl

def asciiLower : KeyTexts where
  lower text := String.ofList (text.toList.map Char.toLower)
  uuidHex := "0"

theorem toLower_of_isSlugChar {c : Char} (h : KeyTexts.isSlugChar c = true ∨ c = '-') : c.toLower = c := by
  refine dif_neg fun hupper => ?_
  rcases h with h | rfl
  · change ((decide _ && decide _) || (decide _ && decide _)) = true at h
    rw [Bool.or_eq_true, Bool.and_eq_true, Bool.and_eq_true, decide_eq_true_eq, decide_eq_true_eq, decide_eq_true_eq,
      decide_eq_true_eq] at h
    obtain ⟨hlow, hhigh⟩ := hupper
    rcases h with ⟨h, -⟩ | ⟨-, h⟩
    · exact absurd (UInt32.le_trans h hhigh) (by decide)
    · exact absurd (UInt32.le_trans hlow h) (by decide)
  · exact absurd hupper.1 (by decide)

theorem keepsLower_asciiLower : asciiLower.KeepsLower := by
  intro s h
  have hmap : s.toList.map Char.toLower = s.toList :=
    (List.map_congr_left fun c hc => toLower_of_isSlugChar (h c hc)).trans (List.map_id' _)
  show String.ofList (s.toList.map Char.toLower) = s
  rw [hmap, String.ofList_toList]

def leadOf (id boardId : Uuid) : AgentRow where
  id := id
  boardId := some boardId
  isBoardLead := true
  name := "Lead Agent"
  gatewayId := 9

/-- Two leads of one name. -/
theorem agents_apart_example : asciiLower.workspacePath ((leadOf 1 3).keyed 9) "/root" ≠
    asciiLower.workspacePath ((leadOf 2 4).keyed 9) "/root" := by
  have hfits : ∀ a ∈ ({leadOf 1 3, leadOf 2 4} : Set AgentRow), a.seat.Fits := by
    rintro a (rfl | rfl)
    · show 3 < 2 ^ 128
      decide
    · show 4 < 2 ^ 128
      decide
  have hseats : ({leadOf 1 3, leadOf 2 4} : Set AgentRow).Pairwise fun a b => a.seat ≠ b.seat := by
    rintro a (rfl | rfl) b (rfl | rfl) hne
    · exact absurd rfl hne
    · decide
    · decide
    · exact absurd rfl hne
  have hapart := (agents_apart keepsLower_asciiLower { id := 9, url := "", workspaceRoot := "/root" } hfits hseats).1
  exact (hapart (Set.mem_insert _ _) (Set.mem_insert_of_mem _ rfl)
    fun h => absurd (congrArg AgentRow.toAgent h) (by decide)).2

/-- Two leads of one name without their keys have one workspace. -/
theorem unkeyed_agents_share : ∃ a b : AgentRow, a.seat ≠ b.seat ∧ a.seat.Fits ∧ b.seat.Fits ∧
    a.openclawSessionId = none ∧ b.openclawSessionId = none ∧
    asciiLower.agentKey a = asciiLower.agentKey b ∧ asciiLower.workspacePath a "/root" = asciiLower.workspacePath b "/root" :=
  ⟨leadOf 1 3, leadOf 2 4, by decide, by show 3 < 2 ^ 128; decide, by show 4 < 2 ^ 128; decide, rfl, rfl, rfl, rfl⟩

end SiloForge
