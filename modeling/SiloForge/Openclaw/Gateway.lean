import SiloForge.Core.Digits
import SiloForge.Lib.Calls
import SiloForge.Openclaw.AgentState

/-!
# The calls of a gateway

An agent lives on a gateway, under an id and a session key made of its uuid. The gateway is called for each thing that is
to be done; a call may be done though its answer is lost.

* `GatewayCall`, `GatewayFiles`, `GatewayFiles.after` : the calls, and what they do to the files of the agents;
* `upsertAgent`, `patchAgentHeartbeats`, `listAgentFiles` : the operations of the control plane;
* `does_upsertAgent` : they write no files.
-/

namespace SiloForge

open Lib CallM

/-- What texts are put through: `str.lower`, and a fresh `uuid4().hex`. -/
structure KeyTexts where
  lower : String → String
  uuidHex : String

def hasMarker (marker text : String) : Bool := text.toList.tails.any fun rest => marker.toList.isPrefixOf rest

/-! ## Names on the gateway -/

namespace KeyTexts

variable (texts : KeyTexts)

def isSlugChar (c : Char) : Bool := c.isLower || c.isDigit

def slugChars (afterDash : Bool) : List Char → List Char
  | [] => []
  | c :: cs =>
    if isSlugChar c then c :: slugChars false cs
    else if afterDash then slugChars true cs
    else '-' :: slugChars true cs

def slugify (value : String) : String :=
  let dashed := slugChars false (texts.lower value).toList
  let slug := ((dashed.dropWhile (· = '-')).reverse.dropWhile (· = '-')).reverse
  if slug = [] then texts.uuidHex else String.ofList slug

/-- `agent_key`: the second part of the session key, or a slug of the name. -/
def agentKey (agent : AgentRow) : String :=
  let sessionKey := (agent.openclawSessionId.getD "").toList
  let part := (sessionKey.drop "agent:".length).takeWhile (· ≠ ':')
  if "agent:".toList.isPrefixOf sessionKey ∧ part ≠ [] then String.ofList part else texts.slugify agent.name

def workspacePath (agent : AgentRow) (workspaceRoot : String) : String :=
  let key := texts.agentKey agent
  let key := if "mc-gateway-".toList.isPrefixOf key.toList then String.ofList (key.toList.drop "mc-".length) else key
  let root := String.ofList (workspaceRoot.toList.reverse.dropWhile (· = '/')).reverse
  root ++ "/workspace-" ++ texts.slugify key

end KeyTexts

def sessionKeyOf (agentId : String) : String := "agent:" ++ agentId ++ ":main"

theorem sessionKeyOf_ne_nil (agentId : String) : sessionKeyOf agentId ≠ "" := by
  intro h
  have htext := congrArg String.toList h
  unfold sessionKeyOf at htext
  rw [String.toList_append, String.toList_append] at htext
  cases htext

def boardLeadSessionKey (boardId : Uuid) : String := sessionKeyOf ("lead-" ++ Uuid.format boardId)

def boardAgentSessionKey (agentId : Uuid) : String := sessionKeyOf ("mc-" ++ Uuid.format agentId)

def gatewaySessionKey (gatewayId : Uuid) : String := sessionKeyOf ("mc-gateway-" ++ Uuid.format gatewayId)

def openclawAgentId (gatewayId : Uuid) : String := "mc-gateway-" ++ Uuid.format gatewayId

theorem agentKey_of_sessionKey (texts : KeyTexts) {agent : AgentRow} {agentId : String}
    (h : agent.openclawSessionId = some (sessionKeyOf agentId)) (hcolon : ':' ∉ agentId.toList) (hne : agentId ≠ "") :
    texts.agentKey agent = agentId := by
  have hkey : (sessionKeyOf agentId).toList = "agent:".toList ++ (agentId.toList ++ ':' :: "main".toList) := by
    have hmain : ":main".toList = ':' :: "main".toList := rfl
    unfold sessionKeyOf
    rw [String.toList_append, String.toList_append, hmain, List.append_assoc]
  have hstart : "agent:".toList.isPrefixOf ("agent:".toList ++ (agentId.toList ++ ':' :: "main".toList)) = true :=
    List.isPrefixOf_iff_prefix.mpr (List.prefix_append _ _)
  have hdrop : ("agent:".toList ++ (agentId.toList ++ ':' :: "main".toList)).drop "agent:".length =
      agentId.toList ++ ':' :: "main".toList := List.drop_left
  have hpart : (agentId.toList ++ ':' :: "main".toList).takeWhile (· ≠ ':') = agentId.toList := by
    have hnot : ∀ c ∈ agentId.toList, decide (c ≠ ':') = true := by
      intro c hc
      refine decide_eq_true ?_
      rintro rfl
      exact hcolon hc
    rw [List.takeWhile_append_of_pos hnot, List.takeWhile_cons_of_neg (by simp), List.append_nil]
  unfold KeyTexts.agentKey
  rw [h, Option.getD_some, hkey]
  dsimp only
  rw [hdrop, hpart, if_pos ⟨hstart, fun he => hne (String.toList_injective he)⟩, String.ofList_toList]

theorem colon_not_mem_format (u : Uuid) : ':' ∉ (Uuid.format u).toList := by
  unfold Uuid.format
  rw [String.toList_ofList]
  exact Uuid.not_mem_format (by decide) (by decide)

/-! ## Calls -/

/-- How a call or a run goes wrong: with the gateway's error, with an `OSError`, a `RuntimeError` or a `ValueError`, or
with anything that nobody catches, the time limit of a worker among them. -/
inductive RunError where
  | gateway (message : String)
  | raised (message : String)
  | cut
  deriving DecidableEq

/-- The calls of a lifecycle run. One that is repeated is told from the first by its attempt. -/
inductive GatewayCall where
  | agentsCreate (name workspace : String)
  | agentsUpdate (attempt : Nat) (agentId name workspace : String)
  | configGet
  | configPatch (patch : Json) (baseHash : Option Json)
  | filesList (agentId : String)
  | filesSet (agentId name content : String)
  | filesDelete (agentId name : String)
  | sessionsReset (key : String)
  | sessionsPatch (key : String) (label : Option String)
  | chatSend (sessionKey message : String) (deliver : Bool)
  deriving DecidableEq

abbrev Gateway := GatewayCall → Reply Json RunError

abbrev GatewayM := CallM GatewayCall Json RunError

/-- The files of the agents, by the id of the agent and the name of the file. -/
def GatewayFiles := String → String → Option String

namespace GatewayFiles

def set (files : GatewayFiles) (agentId name : String) (content : Option String) : GatewayFiles :=
  fun a n => if a = agentId ∧ n = name then content else files a n

def after (files : GatewayFiles) : GatewayCall → GatewayFiles
  | .filesSet agentId name content => files.set agentId name (some content)
  | .filesDelete agentId name => files.set agentId name none
  | _ => files

end GatewayFiles

def GatewayCall.SparesFiles : GatewayCall → Prop
  | .filesSet .. | .filesDelete .. => False
  | _ => True

def rescueGateway {α : Type} (m : GatewayM α) (handle : String → GatewayM α) : GatewayM α :=
  m.rescue fun
    | .gateway message => handle message
    | error => raise error

theorem does_rescueGateway {α : Type} {P : GatewayCall → Prop} {m : GatewayM α} {handle : String → GatewayM α}
    (h : Does P m) (hhandle : ∀ message, Does P (handle message)) : Does P (rescueGateway m handle) := by
  refine h.rescue fun error => ?_
  cases error with
  | gateway message => exact hhandle message
  | raised message => exact does_raise _
  | cut => exact does_raise _

/-! ## JSON as the source compares it -/

namespace Json

/-- `bool(value)`. -/
def truthy : Json → Bool
  | .null => false
  | .bool b => b
  | .int n => n ≠ 0
  | .float bits => bits.extractLsb' 0 63 ≠ 0
  | .str s => s ≠ ""
  | .arr items => !items.isEmpty
  | .obj fields => !fields.isEmpty

def getTruthy? (j : Json) (k : String) : Option Json := (j.get? k).filter truthy

mutual

/-- The value with its numbers as integers, where they are whole. -/
def wholeNumbers : Json → Json
  | .bool b => .int (if b then 1 else 0)
  | .float bits => if floatIsInteger bits then ((floatToInt? bits).map Json.int).getD (.float bits) else .float bits
  | .arr items => .arr (wholeItems items)
  | .obj fields => .obj (wholeFields fields)
  | j => j

def wholeItems : List Json → List Json
  | [] => []
  | j :: rest => j.wholeNumbers :: wholeItems rest

def wholeFields : List (String × Json) → List (String × Json)
  | [] => []
  | (k, j) :: rest => (k, j.wholeNumbers) :: wholeFields rest

end

/-- `a == b`: the order of the keys is of no account, nor is how a number is written. -/
def same (a b : Json) : Bool := a.wholeNumbers.sortKeys.beq b.wholeNumbers.sortKeys

end Json

/-! ## Heartbeats -/

structure HeartbeatEntry where
  agentId : String
  workspacePath : String
  heartbeat : Json

/-- `_heartbeat_entry_map`: an agent has its last entry, at the place of its first. -/
def heartbeatEntryMap (entries : List HeartbeatEntry) : List HeartbeatEntry :=
  entries.foldl (fun seen entry =>
    if seen.any (fun e => e.agentId = entry.agentId) then
      seen.map fun e => if e.agentId = entry.agentId then entry else e
    else seen ++ [entry]) []

def heartbeatConfigOf (agent : AgentRow) : Json :=
  match defaultHeartbeatConfig, agent.heartbeatConfig with
  | .obj defaults, some (.obj fields) => .obj (fields.foldl (fun merged f => Json.setField merged f.1 f.2) defaults)
  | defaults, _ => defaults

def toolsExecHostPatch (configData : Json) : Option Json :=
  match (configData.get? "tools").bind fun tools => tools.get? "exec" with
  | some (.obj exec) =>
    if (Json.obj exec).getTruthy? "host" = none then some (.obj [("exec", .obj [("host", .str "gateway")])]) else none
  | _ => some (.obj [("exec", .obj [("host", .str "gateway")])])

def defaultChannelHeartbeatVisibility : List (String × Json) :=
  [("showOk", .bool false), ("showAlerts", .bool true), ("useIndicator", .bool true)]

/-- `_channel_heartbeat_visibility_patch`: the missing keys are filled. -/
def channelHeartbeatVisibilityPatch (configData : Json) : Option Json :=
  let patch (heartbeat : List (String × Json)) : Json := .obj [("defaults", .obj [("heartbeat", .obj heartbeat)])]
  match ((configData.get? "channels").bind fun channels => channels.get? "defaults").bind
      fun defaults => defaults.get? "heartbeat" with
  | some (.obj heartbeat) =>
    let missing := defaultChannelHeartbeatVisibility.filter fun f => Json.lookup heartbeat f.1 = none
    if missing = [] then none else some (patch (heartbeat ++ missing))
  | _ => some (patch defaultChannelHeartbeatVisibility)

/-- `_gateway_config_agent_list`: the hash of the configuration, the agents in it, and all of it. -/
def configAgentList (cfg : Json) : Except RunError (Option Json × List Json × Json) :=
  match cfg with
  | .obj _ =>
    match (cfg.getTruthy? "config").or (cfg.getTruthy? "parsed") |>.getD (.obj []) with
    | .obj fields =>
      match ((Json.obj fields).getTruthy? "agents").getD (.obj []) with
      | .obj agents =>
        match ((Json.obj agents).getTruthy? "list").getD (.arr []) with
        | .arr list => .ok (cfg.getTruthy? "hash", list, .obj fields)
        | _ => .error (.gateway "config agents.list is not a list")
      -- no such method on this value
      | _ => .error .cut
    | _ => .error (.gateway "config.get returned invalid config")
  | _ => .error (.gateway "config.get returned invalid payload")

/-- `_updated_agent_list`: the entries of the agents, in their places or last. -/
def updatedAgentList (rawList : List Json) (entries : List HeartbeatEntry) : List Json :=
  let entryOf (raw : Json) : Option HeartbeatEntry :=
    ((raw.get? "id").bind Json.str?).bind fun id => entries.find? fun entry => entry.agentId = id
  let updated := rawList.map fun raw =>
    match raw, entryOf raw with
    | .obj fields, some entry =>
      .obj (Json.setField (Json.setField fields "workspace" (.str entry.workspacePath)) "heartbeat" entry.heartbeat)
    | raw, _ => raw
  let present := rawList.filterMap entryOf |>.map HeartbeatEntry.agentId
  updated ++ (entries.filter fun entry => entry.agentId ∉ present).map fun entry =>
    .obj [("id", .str entry.agentId), ("workspace", .str entry.workspacePath), ("heartbeat", entry.heartbeat)]

/-- `patch_agent_heartbeats`: nothing is sent where nothing changes. -/
def patchAgentHeartbeats (entries : List HeartbeatEntry) : GatewayM Unit := do
  let cfg ← call .configGet
  let (baseHash, rawList, configData) ← ofExcept (configAgentList cfg)
  let newList := updatedAgentList rawList (heartbeatEntryMap entries)
  let channels := channelHeartbeatVisibilityPatch configData
  let tools := toolsExecHostPatch configData
  if Json.same (.arr newList) (.arr rawList) ∧ channels = none ∧ tools = none then pure ()
  else
    let patch := [("agents", Json.obj [("list", .arr newList)])] ++ (channels.map fun j => ("channels", j)).toList ++
      (tools.map fun j => ("tools", j)).toList
    let _ ← call (.configPatch (.obj patch) baseHash)
    pure ()

/-! ## Agents and their files -/

structure AgentRegistration extends HeartbeatEntry where
  name : String

def isMissingAgentError (texts : KeyTexts) (message : String) : Bool :=
  let message := texts.lower message
  ["unknown agent", "no such agent", "agent does not exist"].any (hasMarker · message) ||
    (hasMarker "agent" message && hasMarker "not found" message)

def isMissingSessionError (texts : KeyTexts) (message : String) : Bool :=
  ["not found", "unknown session", "no such session", "session does not exist"].any (hasMarker · (texts.lower message))

def isPresentAgentError (texts : KeyTexts) (message : String) : Bool :=
  ["already", "exist", "duplicate", "conflict"].any (hasMarker · (texts.lower message))

/-- The update of `upsert_agent`, again while an agent just created is not there yet. -/
def updateAgent (texts : KeyTexts) (registration : AgentRegistration) (justCreated : Bool) : Nat → Nat → GatewayM Unit
  | 0, _ => pure ()
  | retries + 1, attempt =>
    rescueGateway
      (do
        let _ ← call (.agentsUpdate attempt registration.agentId registration.name registration.workspacePath)
        pure ())
      fun message =>
        if justCreated ∧ isMissingAgentError texts message ∧ retries ≠ 0 then
          updateAgent texts registration justCreated retries (attempt + 1)
        else raise (.gateway message)

def upsertAgent (texts : KeyTexts) (registration : AgentRegistration) : GatewayM Unit := do
  let justCreated ← rescueGateway
    (do
      let _ ← call (.agentsCreate registration.agentId registration.workspacePath)
      pure true)
    fun message => if isPresentAgentError texts message then pure false else raise (.gateway message)
  updateAgent texts registration justCreated 5 0
  patchAgentHeartbeats [registration.toHeartbeatEntry]

/-- The files of a workspace by their names: each with what the gateway says of it. -/
def fileIndex (payload : Json) : List (String × Json) :=
  match payload.getTruthy? "files" with
  | some (.arr items) =>
    items.foldl (fun index item =>
      let named (key : String) : Option String := ((item.get? key).bind Json.str?).filter (· ≠ "")
      match (named "name").or (named "path") with
      | some name => Json.setField index name item
      | none => index) []
  | _ => []

def listAgentFiles (agentId : String) : GatewayM (List (String × Json)) := do
  let payload ← call (.filesList agentId)
  pure (fileIndex payload)

/-! ## Files are left alone -/

theorem does_patchAgentHeartbeats (entries : List HeartbeatEntry) :
    Does GatewayCall.SparesFiles (patchAgentHeartbeats entries) := by
  unfold patchAgentHeartbeats
  refine (does_call trivial).bind fun cfg => (does_ofExcept _).bind fun ⟨baseHash, rawList, configData⟩ => ?_
  dsimp only
  split
  · exact does_pure ()
  · exact (does_call trivial).bind fun _ => does_pure ()

theorem does_updateAgent (texts : KeyTexts) (registration : AgentRegistration) (justCreated : Bool)
    (retries attempt : Nat) :
    Does GatewayCall.SparesFiles (updateAgent texts registration justCreated retries attempt) := by
  induction retries generalizing attempt with
  | zero => exact does_pure ()
  | succ retries ih =>
    unfold updateAgent
    refine does_rescueGateway ((does_call trivial).bind fun _ => does_pure ()) fun message => ?_
    exact .ite (ih _) (does_raise _)

theorem does_upsertAgent (texts : KeyTexts) (registration : AgentRegistration) :
    Does GatewayCall.SparesFiles (upsertAgent texts registration) := by
  unfold upsertAgent
  refine Does.bind ?_ fun justCreated =>
    (does_updateAgent texts registration justCreated 5 0).bind fun _ => does_patchAgentHeartbeats _
  refine does_rescueGateway ((does_call trivial).bind fun _ => does_pure true) fun message => ?_
  exact .ite (does_pure _) (does_raise _)

end SiloForge
