import SiloForge.Openclaw.Gateway
import SiloForge.Openclaw.Lifecycle
import SiloForge.Openclaw.ToolsFile

/-!
# Provisioning

The gateway calls of a lifecycle run: the agent is created or updated, its files are rendered and written, its session is
reset, and it is woken. What an agent may have edited is left as it is by an update, and a board lead has the files
deleted that it is no longer to have.

* `setAgentFiles`, `provision`, `applyAgentLifecycle` : the calls;
* `gatewayRun` : what comes of them, and the calls that are done;
* `does_applyAgentLifecycle` : they leave the file with the token alone, or write it with the token of the run.
-/

namespace SiloForge

open Lib CallM

structure GatewayRow where
  id : Uuid
  url : String
  workspaceRoot : String

/-- Where the agent of a run is: on a gateway, and on a board unless it is the gateway's main agent. -/
structure RunTarget where
  gateway : GatewayRow
  boardId : Option Uuid

structure Templates where
  keys : KeyTexts
  baseUrl : String
  baseUrl_oneLine : OneLine baseUrl.toList
  /-- What TOOLS.md has after the token. -/
  toolsRest : AgentRow → String → String
  /-- The other files, by their names, for an agent and a token. -/
  render : String → AgentRow → String → Except RunError String

/-! ## Names of files -/

def defaultGatewayFiles : List String :=
  ["AGENTS.md", "HEARTBEAT.md", "IDENTITY.md", "MEMORY.md", "SOUL.md", "TOOLS.md", "USER.md"]

def leadGatewayFiles : List String :=
  ["AGENTS.md", "BOOTSTRAP.md", "HEARTBEAT.md", "IDENTITY.md", "MEMORY.md", "SOUL.md", "TOOLS.md", "USER.md"]

/-- A lead under the manager of the agents of boards. -/
def RunTarget.managesLead (target : RunTarget) (agent : AgentRow) : Bool := target.boardId.isSome && agent.isBoardLead

def fileNames (target : RunTarget) (agent : AgentRow) : List String :=
  if target.managesLead agent then leadGatewayFiles else defaultGatewayFiles

/-- `_preserve_files`: USER.md of a main agent is not for it to edit. -/
def preserveFiles (target : RunTarget) : List String :=
  if target.boardId = none then ["MEMORY.md"] else ["MEMORY.md", "USER.md"]

/-- `_stale_file_candidates`, in their order; none where nothing is to be deleted. -/
def staleFileCandidates (target : RunTarget) (agent : AgentRow) : List String :=
  if target.managesLead agent then
    ["AGENTS.md", "APIS.md", "BOOTSTRAP.md", "HEARTBEAT.md", "IDENTITY.md", "LEARNINGS.md", "MEMORY.md", "ROLE.md",
      "ROUTING.md", "SOUL.md", "STATUS.md", "TOOLS.md", "USER.md", "WORKFLOW.md"]
  else []

/-! ## Rendering -/

def Templates.toolsMd (templates : Templates) (agent : AgentRow) (authToken : String) : String :=
  SiloForge.toolsMd templates.baseUrl authToken (templates.toolsRest agent authToken)

def renderFile (templates : Templates) (agent : AgentRow) (authToken name : String) : Except RunError String :=
  if name = "TOOLS.md" then .ok (templates.toolsMd agent authToken) else templates.render name agent authToken

def renderAgentFiles (templates : Templates) (agent : AgentRow) (authToken : String) (includeBootstrap : Bool) :
    List String → Except RunError (List (String × String))
  | [] => .ok []
  | name :: names =>
    if name = "BOOTSTRAP.md" ∧ includeBootstrap = false then
      renderAgentFiles templates agent authToken includeBootstrap names
    else do
      let content ← renderFile templates agent authToken name
      let rest ← renderAgentFiles templates agent authToken includeBootstrap names
      return (name, content) :: rest

def shouldIncludeBootstrap (action : String) (forceBootstrap : Bool) (existingFiles : List (String × Json)) : Bool :=
  if action ≠ "update" ∨ forceBootstrap then true
  else if existingFiles = [] then false
  else (Json.lookup existingFiles "BOOTSTRAP.md").all fun entry => entry.getTruthy? "missing" = none

/-! ## Calls -/

structure ProvisionOptions where
  action : String
  forceBootstrap : Bool := false
  overwrite : Bool := false

def ProvisionOptions.preserves (options : ProvisionOptions) (target : RunTarget) (existingFiles : List (String × Json))
    (name : String) : Bool :=
  options.action = "update" ∧ options.overwrite = false ∧ name ∈ preserveFiles target ∧
    ((Json.lookup existingFiles name).any fun entry => entry.truthy && (entry.getTruthy? "missing").isNone)

section Calls
variable (templates : Templates) (target : RunTarget) (agent : AgentRow) (agentId : String)

/-- The rendered files are written, one after the other; the names the gateway does not support are left. -/
def writeFiles (options : ProvisionOptions) (existingFiles : List (String × Json)) :
    List (String × String) → GatewayM (List String)
  | [] => pure []
  | (name, content) :: rest =>
    if content = "" ∨ options.preserves target existingFiles name then writeFiles options existingFiles rest
    else do
      let refused ← rescueGateway
        (do
          let _ ← call (.filesSet agentId name content)
          pure [])
        fun message =>
          if hasMarker "unsupported file" (templates.keys.lower message) then pure [name] else raise (.gateway message)
      let others ← writeFiles options existingFiles rest
      pure (refused ++ others)

def deleteFiles : List String → GatewayM Unit
  | [] => pure ()
  | name :: names => do
    rescueGateway
      (do
        let _ ← call (.filesDelete agentId name)
        pure ())
      fun message =>
        if ["unsupported", "unknown method", "not found", "no such file"].any
            (hasMarker · (templates.keys.lower message)) then pure ()
        else raise (.gateway message)
    deleteFiles names

def setAgentFiles (rendered : List (String × String)) (existingFiles : List (String × Json))
    (options : ProvisionOptions) : GatewayM Unit := do
  let unsupported ← writeFiles templates target agentId options existingFiles rendered
  if agent.isBoardLead ∧ unsupported ≠ [] then
    raise (.raised ("Gateway rejected required lead workspace files as unsupported: " ++
      String.intercalate ", " unsupported))
  else
    deleteFiles templates agentId ((staleFileCandidates target agent).filter fun name =>
      (Json.lookup existingFiles name).isSome ∧ name ∉ rendered.map Prod.fst)

def provision (authToken : String) (options : ProvisionOptions) : GatewayM Unit := do
  upsertAgent templates.keys { agentId, name := agent.name,
                               workspacePath := templates.keys.workspacePath agent target.gateway.workspaceRoot,
                               heartbeat := heartbeatConfigOf agent }
  let existingFiles ← listAgentFiles agentId
  let rendered ← ofExcept (renderAgentFiles templates agent authToken
    (shouldIncludeBootstrap options.action options.forceBootstrap existingFiles) (fileNames target agent))
  setAgentFiles templates target agent agentId rendered existingFiles options

def wakeupText (verb : String) : String :=
  "Hello " ++ agent.name ++ ". Your workspace has been " ++ verb ++ ".\n\n" ++
    "Start the agent. If BOOTSTRAP.md exists, read it first, then read AGENTS.md. Begin heartbeats after startup."

/-- A session that is not there needs no reset. -/
def resetAgentSession (sessionKey : String) : GatewayM Unit :=
  rescueGateway
    (do
      let _ ← call (.sessionsReset sessionKey)
      pure ())
    fun message => if isMissingSessionError templates.keys message then pure () else raise (.gateway message)

/-- The message that wakes the agent is the last call. -/
def wakeAgent (sessionKey : String) (options : LifecycleOptions) : GatewayM Unit := do
  let _ ← call (.sessionsPatch sessionKey (if agent.name = "" then none else some agent.name))
  let verb := (options.wakeupVerb.filter (· ≠ "")).getD (if options.action = "provision" then "provisioned" else "updated")
  let _ ← call (.chatSend sessionKey (wakeupText agent verb) options.deliverWakeup)
  pure ()

/-- `apply_agent_lifecycle`, for an agent with its session key: create, write the files, reset, wake. -/
def applyAgentLifecycle (sessionKey authToken : String) (options : LifecycleOptions) : GatewayM Unit := do
  provision templates target agent agentId authToken
    { action := options.action, forceBootstrap := options.forceBootstrap }
  onlyIf options.resetSession (resetAgentSession templates sessionKey)
  onlyIf options.wake (wakeAgent agent sessionKey options)

end Calls

/-! ## A run -/

def boardSessionKey (agent : Agent) : String :=
  match agent.isBoardLead, agent.boardId with
  | true, some boardId => boardLeadSessionKey boardId
  | _, _ => boardAgentSessionKey agent.id

/-- The session key of the agent, if it can have one where it is. -/
def lifecycleSessionKey (target : RunTarget) (agent : AgentRow) : Except RunError String :=
  match target.boardId with
  | none => do
    require (agent.boardId = none) (.raised "board is required for board-scoped agent lifecycle")
    let key := strip ((agent.openclawSessionId.filter (· ≠ "")).getD (gatewaySessionKey target.gateway.id))
    require (key ≠ "") (.raised "gateway main agent session_key is required")
    return key
  | some _ => .ok (boardSessionKey agent.toAgent)

/-- The id of the agent on its gateway: of the gateway's main agent, or by the session key. -/
def gatewayAgentId (texts : KeyTexts) (target : RunTarget) (agent : AgentRow) : String :=
  match target.boardId with
  | none => openclawAgentId target.gateway.id
  | some _ => texts.agentKey agent

/-- The id of an agent of a board: no name is in it. -/
def boardAgentId (agent : Agent) : String :=
  match agent.isBoardLead, agent.boardId with
  | true, some boardId => "lead-" ++ Uuid.format boardId
  | _, _ => "mc-" ++ Uuid.format agent.id

def homeAgentId (target : RunTarget) (agent : Agent) : String :=
  match target.boardId with
  | none => openclawAgentId target.gateway.id
  | some _ => boardAgentId agent

theorem boardSessionKey_eq (agent : Agent) : boardSessionKey agent = sessionKeyOf (boardAgentId agent) := by
  unfold boardSessionKey boardAgentId
  split <;> rfl

theorem boardAgentId_fits (agent : Agent) : ':' ∉ (boardAgentId agent).toList ∧ boardAgentId agent ≠ "" := by
  have hfits : ∀ (before : String) (u : Uuid), ':' ∉ before.toList → before.toList ≠ [] →
      ':' ∉ (before ++ Uuid.format u).toList ∧ before ++ Uuid.format u ≠ "" := by
    intro before u hbefore hne
    have hparts : (before ++ Uuid.format u).toList = before.toList ++ (Uuid.format u).toList := String.toList_append
    constructor
    · rw [hparts]
      exact fun hmem => (List.mem_append.mp hmem).elim hbefore (colon_not_mem_format u)
    · intro hempty
      rw [hempty] at hparts
      exact hne (List.append_eq_nil_iff.mp hparts.symm).1
  unfold boardAgentId
  split
  · exact hfits "lead-" _ (by decide) (by decide)
  · exact hfits "mc-" _ (by decide) (by decide)

theorem gatewayAgentId_eq_homeAgentId {target : RunTarget} {agent : AgentRow} {key : String}
    (h : lifecycleSessionKey target agent = .ok key) (texts : KeyTexts) :
    gatewayAgentId texts target { agent with openclawSessionId := some key } = homeAgentId target agent.toAgent := by
  unfold gatewayAgentId homeAgentId
  unfold lifecycleSessionKey at h
  cases hboard : target.boardId with
  | none => rfl
  | some boardId =>
    rw [hboard] at h
    obtain rfl := Except.ok.inj h
    obtain ⟨hcolon, hne⟩ := boardAgentId_fits agent.toAgent
    exact agentKey_of_sessionKey texts (congrArg some (boardSessionKey_eq agent.toAgent)) hcolon hne

def RunError.ending : RunError → GatewayEnding
  | .gateway message => .gatewayError message
  | .raised message => .raised message
  | .cut => .cut

def GatewayCall.isChatSend : GatewayCall → Bool
  | .chatSend .. => true
  | _ => false

def gatewayRun (templates : Templates) (target : RunTarget) (agent : AgentRow) (authToken : String)
    (options : LifecycleOptions) (gateway : Gateway) : GatewayRun × List GatewayCall :=
  if target.gateway.url = "" then ({ ending := .noUrl }, [])
  else
    match lifecycleSessionKey target agent with
    | .error error => ({ ending := error.ending }, [])
    | .ok key =>
      if target.gateway.workspaceRoot = "" then ({ ending := .raised "gateway_workspace_root is required" }, [])
      else
        let agent := { agent with openclawSessionId := some key }
        let agentId := gatewayAgentId templates.keys target agent
        let run := applyAgentLifecycle templates target agent agentId key authToken options gateway
        let ending :=
          match run.1 with
          | .ok _ => .done
          | .error error => error.ending
        ({ sessionKey := some key, sent := run.2.any GatewayCall.isChatSend, ending }, run.2)

/-! ## The file with the token -/

/-- A call leaves the TOOLS.md of an agent alone, or writes it with a content. -/
def WritesTools (agentId content : String) : GatewayCall → Prop
  | .filesSet a name c => a = agentId → name = "TOOLS.md" → c = content
  | .filesDelete a name => a = agentId → name ≠ "TOOLS.md"
  | _ => True

variable {content : String}

theorem writesTools_of_sparesFiles {agentId : String} {k : GatewayCall} (h : k.SparesFiles) :
    WritesTools agentId content k := by
  cases k with
  | filesSet | filesDelete => exact absurd h id
  | _ => trivial

section Rendered
variable {templates : Templates} {agent : AgentRow} {authToken : String} {includeBootstrap : Bool}

variable {rendered : List (String × String)}

theorem mem_renderAgentFiles {names : List String}
    (h : renderAgentFiles templates agent authToken includeBootstrap names = .ok rendered) (hname : "TOOLS.md" ∈ names) :
    "TOOLS.md" ∈ rendered.map Prod.fst := by
  induction names generalizing rendered with
  | nil => exact absurd hname List.not_mem_nil
  | cons name names ih =>
    unfold renderAgentFiles at h
    split at h
    · rename_i hskipped
      refine ih h ((List.mem_cons.mp hname).resolve_left fun he => ?_)
      rw [← he] at hskipped
      exact absurd hskipped.1 (by decide)
    · obtain ⟨content, -, h⟩ := bind_eq_ok.mp h
      obtain ⟨rest, hrest, h⟩ := bind_eq_ok.mp h
      obtain rfl := pure_eq_ok.mp h
      rw [List.map_cons]
      rcases List.mem_cons.mp hname with rfl | hname
      · exact List.mem_cons_self
      · exact List.mem_cons_of_mem _ (ih hrest hname)

theorem tools_of_mem_renderAgentFiles {names : List String}
    (h : renderAgentFiles templates agent authToken includeBootstrap names = .ok rendered)
    (hmem : ("TOOLS.md", content) ∈ rendered) : content = templates.toolsMd agent authToken := by
  induction names generalizing rendered with
  | nil =>
    obtain rfl := Except.ok.inj h
    exact absurd hmem List.not_mem_nil
  | cons name names ih =>
    unfold renderAgentFiles at h
    split at h
    · exact ih h hmem
    · obtain ⟨written, hwritten, h⟩ := bind_eq_ok.mp h
      obtain ⟨rest, hrest, h⟩ := bind_eq_ok.mp h
      obtain rfl := pure_eq_ok.mp h
      rcases List.mem_cons.mp hmem with hfirst | hmem
      · obtain ⟨rfl, rfl⟩ := Prod.mk.inj hfirst
        unfold renderFile at hwritten
        rw [if_pos rfl] at hwritten
        exact (Except.ok.inj hwritten).symm
      · exact ih hrest hmem

end Rendered

section Does
variable (templates : Templates) (target : RunTarget) (agent : AgentRow) (agentId : String)

theorem does_writeFiles (options : ProvisionOptions) (existingFiles : List (String × Json))
    {rendered : List (String × String)} (h : ∀ c, ("TOOLS.md", c) ∈ rendered → c = content) :
    Does (WritesTools agentId content) (writeFiles templates target agentId options existingFiles rendered) := by
  induction rendered with
  | nil => exact does_pure []
  | cons file rest ih =>
    obtain ⟨name, written⟩ := file
    have hrest := ih fun c hc => h c (List.mem_cons_of_mem _ hc)
    unfold writeFiles
    refine .ite hrest (.bind ?_ fun refused => hrest.bind fun others => does_pure _)
    refine does_rescueGateway (.bind (does_call ?_) fun _ => does_pure []) fun message => ?_
    · rintro - rfl
      exact h written List.mem_cons_self
    · exact .ite (does_pure _) (does_raise _)

theorem does_deleteFiles {names : List String} (h : "TOOLS.md" ∉ names) :
    Does (WritesTools agentId content) (deleteFiles templates agentId names) := by
  induction names with
  | nil => exact does_pure ()
  | cons name names ih =>
    unfold deleteFiles
    refine .bind (does_rescueGateway (.bind (does_call ?_) fun _ => does_pure ()) fun message => ?_) fun _ =>
      ih fun hmem => h (List.mem_cons_of_mem _ hmem)
    · rintro - rfl
      exact h List.mem_cons_self
    · exact .ite (does_pure ()) (does_raise _)

theorem tools_mem_fileNames : "TOOLS.md" ∈ fileNames target agent := by
  unfold fileNames
  split <;> decide

theorem does_provision (authToken : String) (options : ProvisionOptions) :
    Does (WritesTools agentId (templates.toolsMd agent authToken))
      (provision templates target agent agentId authToken options) := by
  unfold provision
  refine .bind ((does_upsertAgent _ _).mono fun _ => writesTools_of_sparesFiles) fun _ => ?_
  refine .bind (.bind (does_call trivial) fun _ => does_pure _) fun existingFiles => ?_
  refine does_ofExcept_bind fun rendered hrendered => ?_
  unfold setAgentFiles
  refine .bind (does_writeFiles _ _ _ _ _ fun c hc => tools_of_mem_renderAgentFiles hrendered hc) fun unsupported => ?_
  refine .ite (does_raise _) (does_deleteFiles _ _ fun hmem => ?_)
  obtain ⟨-, hstale⟩ := List.mem_filter.mp hmem
  exact (of_decide_eq_true hstale).2 (mem_renderAgentFiles hrendered (tools_mem_fileNames target agent))

/-- **A run leaves TOOLS.md alone, or writes it with its token.** -/
theorem does_applyAgentLifecycle (sessionKey authToken : String) (options : LifecycleOptions) :
    Does (WritesTools agentId (templates.toolsMd agent authToken))
      (applyAgentLifecycle templates target agent agentId sessionKey authToken options) := by
  unfold applyAgentLifecycle
  refine .bind (does_provision templates target agent agentId authToken _) fun _ => .bind (.onlyIf ?_ _) fun _ =>
    .onlyIf ?_ _
  · unfold resetAgentSession
    exact does_rescueGateway (.bind (does_call trivial) fun _ => does_pure ())
      fun message => .ite (does_pure ()) (does_raise _)
  · unfold wakeAgent
    exact .bind (does_call trivial) fun _ => .bind (does_call trivial) fun _ => does_pure ()

end Does

def GatewayCall.writesToolsOf (agentId : String) : GatewayCall → Bool
  | .filesSet a name _ => a = agentId ∧ name = "TOOLS.md"
  | _ => false

theorem tools_after_calls {agentId : String} {calls : List GatewayCall}
    (h : ∀ k ∈ calls, WritesTools agentId content k) (files : GatewayFiles) :
    calls.foldl GatewayFiles.after files agentId "TOOLS.md" =
      if calls.any (GatewayCall.writesToolsOf agentId) then some content else files agentId "TOOLS.md" := by
  refine CallM.observe_foldl (fun files : GatewayFiles => files agentId "TOOLS.md") (fun k hk hwrites files => ?_)
    (fun k hk hwrites files => ?_) files
  · cases k with
    | filesSet a name c =>
      obtain ⟨rfl, rfl⟩ := of_decide_eq_true hwrites
      obtain rfl := h _ hk rfl rfl
      exact if_pos ⟨rfl, rfl⟩
    | _ => cases hwrites
  · cases k with
    | filesSet a name c =>
      have hother := of_decide_eq_false hwrites
      exact if_neg fun he => hother ⟨he.1.symm, he.2.symm⟩
    | filesDelete a name =>
      exact if_neg fun he => h _ hk he.1.symm he.2.symm
    | _ => rfl

/-- **TOOLS.md after a run** is as it was, or shows the token of the run. -/
theorem tools_after_gatewayRun (templates : Templates) (target : RunTarget) (agent : AgentRow) {authToken : String}
    (htoken : OneLine authToken.toList) (options : LifecycleOptions) (gateway : Gateway) (files : GatewayFiles) :
    let calls := (gatewayRun templates target agent authToken options gateway).2
    ∃ content, shownToken content = some authToken ∧
      calls.foldl GatewayFiles.after files (homeAgentId target agent.toAgent) "TOOLS.md" =
        if calls.any (GatewayCall.writesToolsOf (homeAgentId target agent.toAgent)) then some content
        else files (homeAgentId target agent.toAgent) "TOOLS.md" := by
  have hshows : ∀ agent, shownToken (templates.toolsMd agent authToken) = some authToken :=
    fun agent => shownToken_toolsMd templates.baseUrl_oneLine htoken _
  unfold gatewayRun
  dsimp only
  split
  · exact ⟨_, hshows agent, rfl⟩
  split
  · exact ⟨_, hshows agent, rfl⟩
  rename_i key hkey
  split
  · exact ⟨_, hshows agent, rfl⟩
  rw [← gatewayAgentId_eq_homeAgentId hkey templates.keys]
  exact ⟨_, hshows _, tools_after_calls (does_applyAgentLifecycle templates target _ _ key authToken options gateway) files⟩

/-! ## Runs that succeed -/

/-- A gateway that answers only what it has done, and has TOOLS.md among the files it supports. -/
structure Gateway.Serves (gateway : Gateway) (keys : KeyTexts) : Prop where
  done : ∀ k answer, (gateway k).answer = .ok answer → (gateway k).done = true
  supports : ∀ agentId content message, (gateway (.filesSet agentId "TOOLS.md" content)).answer = .error (.gateway message) →
    hasMarker "unsupported file" (keys.lower message) = false

theorem Templates.toolsMd_ne_empty (templates : Templates) (agent : AgentRow) (authToken : String) :
    templates.toolsMd agent authToken ≠ "" := by
  intro h
  have hlist := congrArg String.toList h
  unfold Templates.toolsMd SiloForge.toolsMd at hlist
  rw [String.toList_append] at hlist
  simp only [String.toList_append, List.append_assoc] at hlist
  cases hlist

section Reaches
variable {templates : Templates} {gateway : Gateway} (target : RunTarget) (agent : AgentRow) (agentId : String)

theorem reaches_writeFiles (hserves : gateway.Serves templates.keys) {options : ProvisionOptions}
    {existingFiles : List (String × Json)} {rendered : List (String × String)}
    (hname : "TOOLS.md" ∈ rendered.map Prod.fst) (hne : ∀ c, ("TOOLS.md", c) ∈ rendered → c ≠ "") :
    Reaches (fun k => k.writesToolsOf agentId = true) gateway
      (writeFiles templates target agentId options existingFiles rendered) := by
  induction rendered with
  | nil => exact absurd hname List.not_mem_nil
  | cons file rest ih =>
    obtain ⟨name, content⟩ := file
    rw [List.map_cons] at hname
    have hrest (h : name ≠ "TOOLS.md") := ih ((List.mem_cons.mp hname).resolve_left (Ne.symm h))
      fun c hc => hne c (List.mem_cons_of_mem _ hc)
    unfold writeFiles
    by_cases htools : name = "TOOLS.md"
    · subst htools
      refine .ite (fun hskipped => ?_) fun _ => .bind ?_ _
      · rcases hskipped with hempty | hpreserved
        · exact absurd hempty (hne content List.mem_cons_self)
        · unfold ProvisionOptions.preserves preserveFiles at hpreserved
          obtain ⟨-, -, hmem, -⟩ := of_decide_eq_true hpreserved
          split at hmem <;> exact absurd hmem (by decide)
      · have hwrites : (GatewayCall.filesSet agentId "TOOLS.md" content).writesToolsOf agentId = true :=
          decide_eq_true ⟨rfl, rfl⟩
        have hcall : Reaches (fun k => k.writesToolsOf agentId = true) gateway
            (call (.filesSet agentId "TOOLS.md" content)) := reaches_call hwrites (hserves.done _)
        refine .rescue (hcall.bind _) fun error herror => ?_
        cases error with
        | raised message => exact reaches_raise _
        | cut => exact reaches_raise _
        | gateway message =>
          have hsupported := hserves.supports agentId content message (call_pure_error herror)
          refine .ite (fun h => ?_) fun _ => reaches_raise _
          rw [hsupported] at h
          cases h
    · exact .ite (fun _ => hrest htools) fun _ => reaches_bind fun refused _ => .bind (hrest htools) _

theorem reaches_applyAgentLifecycle (hserves : gateway.Serves templates.keys) (sessionKey authToken : String)
    (options : LifecycleOptions) :
    Reaches (fun k => k.writesToolsOf agentId = true) gateway
      (applyAgentLifecycle templates target agent agentId sessionKey authToken options) := by
  unfold applyAgentLifecycle provision
  refine .bind (reaches_bind fun _ _ => reaches_bind fun existingFiles _ => reaches_bind fun rendered hrendered => ?_) _
  unfold setAgentFiles
  refine .bind (reaches_writeFiles target agentId hserves ?_ fun c hc => ?_) _
  · exact mem_renderAgentFiles hrendered (tools_mem_fileNames target agent)
  · rw [tools_of_mem_renderAgentFiles hrendered hc]
    exact templates.toolsMd_ne_empty agent authToken

end Reaches

/-- **A run that succeeds has written TOOLS.md.** -/
theorem writesTools_of_done {templates : Templates} {target : RunTarget} {agent : AgentRow} {authToken : String}
    {options : LifecycleOptions} {gateway : Gateway} (hserves : gateway.Serves templates.keys)
    (hdone : (gatewayRun templates target agent authToken options gateway).1.ending = .done) :
    (gatewayRun templates target agent authToken options gateway).2.any
      (GatewayCall.writesToolsOf (homeAgentId target agent.toAgent)) = true := by
  have herror : ∀ error : RunError, error.ending ≠ .done := by
    intro error
    cases error <;> exact nofun
  unfold gatewayRun at hdone ⊢
  dsimp only at hdone ⊢
  split at hdone
  · cases hdone
  split at hdone
  · exact absurd hdone (herror _)
  rename_i hurl _ key hkey
  split at hdone
  · cases hdone
  rename_i hroot
  rw [if_neg hurl, if_neg hroot, ← gatewayAgentId_eq_homeAgentId hkey templates.keys]
  dsimp only at hdone ⊢
  split at hdone
  · rename_i hresult
    exact List.any_eq_true.mpr (reaches_applyAgentLifecycle target _ _ hserves key authToken options _ hresult)
  · exact absurd hdone (herror _)

end SiloForge
