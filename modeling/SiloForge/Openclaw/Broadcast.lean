import Mathlib.Data.List.Sort
import SiloForge.Agents.Rows
import SiloForge.Core.JsonText
import SiloForge.Openclaw.Backoff
import SiloForge.Openclaw.Credentials

/-!
# Broadcasts to the leads of boards

The main agent of a gateway sends a message to the lead of each board of the gateway, or of those it names. A board without
a lead is given one first. A failure is the result of its board, and the broadcast goes on.

* `ensureBoardLead`, `dispatchGatewayMessage`, `broadcastBoard`, `broadcastLeadMessage` : a broadcast, with the
  messages that the gateway accepts;
* `accepted_iff_returned` : a message is accepted exactly if its dispatch returns;
* `broadcastLeadMessage_reports` : every board is reported.
-/

namespace SiloForge

open Lib

/-! ## What a broadcast meets -/

/-- How a gateway call fails for the one who dispatches a message: with an error of the gateway, with a `ValueError`, or with
any other exception. -/
inductive DispatchFailure where
  | gateway (message : String)
  | value (message : String)
  | other
  deriving DecidableEq

def DispatchFailure.error : DispatchFailure → RunError
  | .gateway message => .gateway message
  | .value message => .raised message
  | .other => .cut

/-- An attempt to send a message: what comes of `sessions.patch`, and of `chat.send`, whose values are not looked at. -/
structure SendAttempt where
  patched : Except DispatchFailure Json
  sent : Except DispatchFailure Json
  now : ℚ
  draw : ℚ

def SendAttempt.attempt (a : SendAttempt) : Attempt Unit where
  outcome :=
    match a.patched, a.sent with
    | .error failure, _ => .error failure.error
    | .ok _, .error failure => .error failure.error
    | .ok _, .ok _ => .ok (some ())
  now := a.now
  draw := a.draw

def SendAttempt.accepts (a : SendAttempt) : Bool :=
  match a.patched, a.sent with
  | .ok _, .ok _ => true
  | _, _ => false

structure SendCall (lower : String → String) where
  start : ℚ
  attempts : List SendAttempt
  ends : (coordinationBackoff.run lower start (attempts.map SendAttempt.attempt)).ended ≠ none

structure LeadRun where
  agentId : Uuid
  token : FreshToken
  input : RunInput

structure BroadcastBoard extends BoardRow where
  createdAt : Time

instance : Keyed BroadcastBoard Uuid := ⟨fun b => b.id⟩

def BoardLeads := Uuid → Option AgentRow

structure BroadcastContext where
  lower : String → String
  pbkdf2 : Pbkdf2
  baseUrl : String
  gateways : Table OrgGateway
  boards : Table BroadcastBoard
  runs : Uuid → LeadRun
  /-- By the session and the message. -/
  sends : String → String → SendCall lower

structure GatewayLeadBroadcastRequest where
  kind : String
  content : String
  correlationId : Option String := none
  boardIds : List Uuid := []
  replyTags : List String := []
  replySource : Option String := none

structure LeadBroadcastResult where
  boardId : Uuid
  leadAgentId : Option Uuid := none
  leadAgentName : Option String := none
  ok : Bool := false
  error : Option String := none
  deriving DecidableEq

structure GatewayLeadBroadcastResponse where
  sent : Nat := 0
  failed : Nat := 0
  results : List LeadBroadcastResult := []

/-- How a broadcast ends by an error: with one that it handles for a board, or by any other exception. -/
inductive BroadcastError where
  | http (detail : String)
  | gateway (message : String)
  | timeout (message : String)
  | value (message : String)
  | other
  deriving DecidableEq

/-- `map_gateway_error_message`, of the exceptions that a broadcast handles. -/
def BroadcastError.message? : BroadcastError → Option String
  | .http detail => some detail
  | .gateway message | .timeout message | .value message => some ("Gateway lead broadcast dispatch failed: " ++ message)
  | .other => none

/-! ## A board -/

section Board
variable (ctx : BroadcastContext)

def buildGatewayLeadMessage (board : BoardRow) (actorAgentName : String) (payload : GatewayLeadBroadcastRequest) : String :=
  let header := if payload.kind = "question" then "GATEWAY MAIN QUESTION" else "GATEWAY MAIN HANDOFF"
  let correlation := strip (payload.correlationId.getD "")
  let correlationLine := if correlation = "" then "" else "Correlation ID: " ++ correlation ++ "\n"
  let tags := if payload.replyTags = [] then ["gateway_main", "lead_reply"] else payload.replyTags
  let tagsJson := "[" ++ String.intercalate ", " (tags.map fun tag => String.ofList (Json.quoted tag)) ++ "]"
  let source := (payload.replySource.filter (· ≠ "")).getD "lead_to_gateway_main"
  header ++ "\nBoard: " ++ board.name ++ "\nBoard ID: " ++ Uuid.format board.id ++ "\nFrom agent: " ++ actorAgentName ++
    "\n" ++ correlationLine ++ "\n" ++ strip payload.content ++ "\n\n" ++
    "Reply to the gateway agent by writing a NON-chat memory item on this board:\n" ++ "POST " ++ ctx.baseUrl ++
    "/api/v1/agent/boards/" ++ Uuid.format board.id ++ "/memory\n" ++ "Body: \x7b\"content\":\"...\",\"tags\":" ++ tagsJson ++
    ",\"source\":\"" ++ source ++ "\"\x7d\n" ++ "Do NOT reply in OpenClaw chat."

def newLeadRow (board : BoardRow) (gateway : GatewayRow) : AgentRow :=
  let run := ctx.runs board.id
  { id := run.agentId, boardId := some board.id, isBoardLead := true, name := "Lead Agent", gatewayId := gateway.id
    heartbeatConfig := some defaultHeartbeatConfig, openclawSessionId := some (boardLeadSessionKey board.id) : AgentRow
    }.mintAgentToken ctx.pbkdf2 run.token.text run.token.salt

def leadGatewayRun (board : BoardRow) (gateway : GatewayRow) : GatewayRun :=
  let run := ctx.runs board.id
  (gatewayRun run.input.templates { gateway, boardId := some board.id }
    ((newLeadRow ctx board gateway).beginLifecycle run.input.begun (.ofLead "provision") none) run.token.text
    (.ofLead "provision") run.input.gateway).1

def GatewayEnding.forCaller : GatewayEnding → Except BroadcastError Unit
  | .done | .noUrl => .ok ()
  | .gatewayError message => .error (.http ("Gateway provision failed: " ++ message))
  | .raised _ => .error (.http "Unexpected error provisioning gateway provisioning.")
  | .cut => .error .other

/-- `ensure_board_lead_agent`: a lead there is gets its name, its gateway and its key, another one is created. -/
def ensureBoardLead (leads : BoardLeads) (board : BoardRow) (gateway : GatewayRow) :
    BoardLeads × Except BroadcastError AgentRow :=
  match leads board.id with
  | some existing =>
    let lead := { existing with
      name := "Lead Agent", gatewayId := gateway.id, openclawSessionId := some (boardLeadSessionKey board.id) }
    (Function.update leads board.id (some lead), .ok lead)
  | none =>
    let run := leadGatewayRun ctx board gateway
    let input := (ctx.runs board.id).input
    let lead := (newLeadRow ctx board gateway).runLifecycle input.begun input.ended (.ofLead "provision") none run
    (Function.update leads board.id (some lead), run.ending.forCaller.map fun _ => lead)

def RetryEnd.forBroadcast : RetryEnd Unit → Except BroadcastError Unit
  | .returned _ => .ok ()
  | .raised (.gateway message) => .error (.gateway message)
  | .raised (.raised message) => .error (.value message)
  | .timedOut message => .error (.timeout message)
  | .raised .cut | .noValue => .error .other

structure LeadMessage where
  boardId : Uuid
  sessionKey : String
  message : String
  deriving DecidableEq

/-- `_dispatch_gateway_message`: the messages the gateway accepts, one for each attempt that it answers, and how it ends. -/
def dispatchGatewayMessage (message : LeadMessage) : List LeadMessage × Except BroadcastError Unit :=
  let call := ctx.sends message.sessionKey message.message
  let result := coordinationBackoff.run ctx.lower call.start (call.attempts.map SendAttempt.attempt)
  let made := call.attempts.take (result.sleeps.length + 1)
  ((made.filter SendAttempt.accepts).map fun _ => message, (result.ended.getD .noValue).forBroadcast)

structure BroadcastState where
  leads : BoardLeads
  response : GatewayLeadBroadcastResponse := {}
  accepted : List LeadMessage := []

def ensureAndMessageLead (leads : BoardLeads) (board : BoardRow) (gateway : GatewayRow) (message : String) :
    BoardLeads × List LeadMessage × Except BroadcastError AgentRow :=
  match ensureBoardLead ctx leads board gateway with
  | (leads, .error e) => (leads, [], .error e)
  | (leads, .ok lead) =>
    match lead.openclawSessionId.filter (· ≠ "") with
    | none => (leads, [], .error (.http "Lead agent has no session key"))
    | some sessionKey =>
      let dispatched := dispatchGatewayMessage ctx { boardId := board.id, sessionKey, message }
      (leads, dispatched.1, dispatched.2.map fun _ => lead)

def broadcastBoard (gateway : GatewayRow) (actorAgentName : String) (payload : GatewayLeadBroadcastRequest)
    (board : BoardRow) (s : BroadcastState) : Except BroadcastError BroadcastState :=
  let (leads, accepted, messaged) :=
    ensureAndMessageLead ctx s.leads board gateway (buildGatewayLeadMessage ctx board actorAgentName payload)
  match messaged with
  | .ok lead => .ok
    { leads, accepted := s.accepted ++ accepted
      response := { s.response with
        sent := s.response.sent + 1
        results := s.response.results ++
          [{ boardId := board.id, leadAgentId := some lead.id, leadAgentName := some lead.name, ok := true }] } }
  | .error e =>
    match e.message? with
    | none => .error e
    | some error => .ok
      { leads, accepted := s.accepted ++ accepted
        response := { s.response with
          failed := s.response.failed + 1
          results := s.response.results ++ [{ boardId := board.id, error := some error }] } }

def broadcastBoards (gateway : GatewayRow) (actorAgentName : String) (payload : GatewayLeadBroadcastRequest) :
    List BroadcastBoard → BroadcastState → Except BroadcastError BroadcastState
  | [], s => .ok s
  | board :: boards, s => do
    let s ← broadcastBoard ctx gateway actorAgentName payload board.toBoardRow s
    broadcastBoards gateway actorAgentName payload boards s

def requireBroadcastActor (actor : AgentRow) : Except BroadcastError OrgGateway := do
  require (actor.boardId = none) (.http "Forbidden")
  let gateway ← orFail (ctx.gateways.get? actor.gatewayId) (.http "Only the dedicated gateway agent may call this endpoint.")
  require (actor.openclawSessionId = some (gatewaySessionKey gateway.id))
    (.http "Only the dedicated gateway agent may call this endpoint.")
  require (strip gateway.url ≠ "") (.http "Gateway url is required")
  return gateway

/-- The boards of the gateway, or those that are named, the newest first. -/
def targetBoards (gateway : GatewayRow) (payload : GatewayLeadBroadcastRequest) : List BroadcastBoard :=
  (ctx.boards.rows.filter fun board => board.gatewayId = some gateway.id ∧
    (payload.boardIds = [] ∨ board.id ∈ payload.boardIds)).insertionSort fun b b' => b'.createdAt ≤ b.createdAt

def broadcastLeadMessage (leads : BoardLeads) (actor : AgentRow) (payload : GatewayLeadBroadcastRequest) :
    Except BroadcastError BroadcastState := do
  let gateway ← requireBroadcastActor ctx actor
  broadcastBoards ctx gateway.toGatewayRow actor.name payload (targetBoards ctx gateway.toGatewayRow payload) { leads }

end Board

/-! ## A dispatch -/

section Dispatch
variable {ctx : BroadcastContext} {lower : String → String} {deadline : ℚ} {b : GatewayBackoff}

theorem accepts_iff (a : SendAttempt) : a.accepts = true ↔ a.attempt.outcome = .ok (some ()) := by
  unfold SendAttempt.accepts SendAttempt.attempt
  cases a.patched with
  | error failure => exact iff_of_false Bool.noConfusion nofun
  | ok value =>
    cases a.sent with
    | error failure => exact iff_of_false Bool.noConfusion nofun
    | ok value => exact iff_of_true rfl rfl

variable (lower deadline b) in
/-- **A message is accepted** in an attempt that is made exactly if the call returns. -/
theorem accepted_iff_returned (as : List SendAttempt) :
    (∃ a ∈ as.take ((GatewayBackoff.attempts lower deadline b (as.map SendAttempt.attempt)).sleeps.length + 1),
        a.accepts = true) ↔
      ∃ value, (GatewayBackoff.attempts lower deadline b (as.map SendAttempt.attempt)).ended = some (.returned value) := by
  induction as generalizing b with
  | nil => exact iff_of_false (fun ⟨_, ha, _⟩ => absurd ha List.not_mem_nil) nofun
  | cons attempt rest ih =>
    rw [List.map_cons]
    by_cases htransient : TransientBefore lower deadline attempt.attempt
    · rw [attempts_transient htransient, List.length_cons, List.take_succ_cons]
      have hrefused : attempt.accepts ≠ true := by
        intro haccepts
        obtain ⟨text, houtcome, -⟩ := htransient
        rw [(accepts_iff attempt).mp haccepts] at houtcome
        cases houtcome
      rw [← ih b.slower]
      constructor
      · rintro ⟨a, ha, haccepts⟩
        rcases List.mem_cons.mp ha with rfl | ha
        · exact absurd haccepts hrefused
        · exact ⟨a, ha, haccepts⟩
      · rintro ⟨a, ha, haccepts⟩
        exact ⟨a, List.mem_cons_of_mem _ ha, haccepts⟩
    · obtain ⟨hended, hsleeps⟩ := attempts_last (b := b) htransient (rest.map SendAttempt.attempt)
      rw [hended, hsleeps]
      constructor
      · rintro ⟨a, ha, haccepts⟩
        obtain rfl := List.mem_singleton.mp ha
        rw [(accepts_iff a).mp haccepts]
        exact ⟨some (), rfl⟩
      · rintro ⟨value, hvalue⟩
        refine ⟨attempt, List.mem_singleton_self _, (accepts_iff attempt).mpr ?_⟩
        have houtcome := outcome_of_returned (Option.some.inj hvalue)
        cases value with
        | none =>
          rw [houtcome] at hvalue
          cases hvalue
        | some value => exact houtcome

def SendAttempt.derails (a : SendAttempt) : Bool :=
  match a.patched, a.sent with
  | .error .other, _ => true
  | .ok _, .error .other => true
  | _, _ => false

def DispatchDerails (ctx : BroadcastContext) (sessionKey message : String) : Prop :=
  let call := ctx.sends sessionKey message
  ∃ before attempt rest, call.attempts = before ++ attempt :: rest ∧
    (∀ a ∈ before, TransientBefore ctx.lower (call.start + coordinationBackoff.timeoutS) a.attempt) ∧ attempt.derails = true

theorem derails_of_lastEnd {timeoutS : ℚ} {context : String} {a : SendAttempt}
    (h : (lastEnd lower timeoutS context a.attempt.outcome).forBroadcast = .error .other) : a.derails = true := by
  have hfailure : ∀ failure : DispatchFailure,
      RetryEnd.forBroadcast (lastEnd lower timeoutS context (.error failure.error)) = .error .other → failure = .other := by
    intro failure hend
    cases failure with
    | value message => cases hend
    | other => rfl
    | gateway message =>
      unfold DispatchFailure.error lastEnd at hend
      dsimp only at hend
      split at hend
      · cases hend
      · cases hend
  unfold SendAttempt.attempt at h
  unfold SendAttempt.derails
  cases hpatched : a.patched with
  | error failure =>
    rw [hpatched] at h
    rw [hfailure failure h]
  | ok value =>
    rw [hpatched] at h
    cases hsent : a.sent with
    | error failure =>
      rw [hsent] at h
      rw [hfailure failure h]
    | ok value =>
      rw [hsent] at h
      cases h

/-- **A dispatch** has its message accepted exactly if it succeeds, and ends with an exception of another kind only if an
attempt does. -/
theorem dispatchGatewayMessage_spec (ctx : BroadcastContext) (message : LeadMessage) :
    (message ∈ (dispatchGatewayMessage ctx message).1 ↔ (dispatchGatewayMessage ctx message).2 = .ok ()) ∧
      (∀ m ∈ (dispatchGatewayMessage ctx message).1, m = message) ∧
      ((dispatchGatewayMessage ctx message).2 = .error .other →
        DispatchDerails ctx message.sessionKey message.message) := by
  have hends := (ctx.sends message.sessionKey message.message).ends
  unfold dispatchGatewayMessage
  dsimp only
  generalize hcall : ctx.sends message.sessionKey message.message = call at hends
  obtain ⟨ended, hended⟩ := Option.ne_none_iff_exists'.mp hends
  unfold GatewayBackoff.run at hended ⊢
  have haccepted := accepted_iff_returned ctx.lower (call.start + coordinationBackoff.timeoutS) coordinationBackoff
    call.attempts
  rw [hended, Option.getD_some]
  refine ⟨?_, fun m hm => ?_, fun hother => ?_⟩
  · rw [hended] at haccepted
    constructor
    · intro hmem
      obtain ⟨a, ha, -⟩ := List.mem_map.mp hmem
      obtain ⟨ha, haccepts⟩ := List.mem_filter.mp ha
      obtain ⟨value, hvalue⟩ := haccepted.mp ⟨a, ha, haccepts⟩
      rw [Option.some.inj hvalue]
      rfl
    · intro hok
      have hreturned : ∃ value, ended = .returned value := by
        cases ended with
        | returned value => exact ⟨value, rfl⟩
        | timedOut text => cases hok
        | noValue => cases hok
        | raised e =>
          cases e with
          | gateway text => cases hok
          | raised text => cases hok
          | cut => cases hok
      obtain ⟨value, rfl⟩ := hreturned
      obtain ⟨a, ha, haccepts⟩ := haccepted.mpr ⟨value, rfl⟩
      exact List.mem_map.mpr ⟨a, List.mem_filter.mpr ⟨ha, haccepts⟩, rfl⟩
  · obtain ⟨a, -, he⟩ := List.mem_map.mp hm
    exact he.symm
  · obtain ⟨before, attempt, rest, hsplit, hbefore, hlast⟩ := exists_last hended
    obtain ⟨before', later, hattempts, rfl, hlater⟩ := List.map_eq_append_iff.mp hsplit
    obtain ⟨attempt', rest', rfl, rfl, rfl⟩ := List.map_eq_cons_iff.mp hlater
    unfold DispatchDerails
    rw [hcall]
    refine ⟨before', attempt', rest', hattempts, fun a ha => hbefore _ (List.mem_map_of_mem ha), ?_⟩
    rw [hlast] at hother
    exact derails_of_lastEnd hother

end Dispatch

/-! ## One board -/

section OneBoard
variable (ctx : BroadcastContext) (gateway : GatewayRow) (actorAgentName : String) (payload : GatewayLeadBroadcastRequest)

def messageTo (board : BoardRow) : LeadMessage where
  boardId := board.id
  sessionKey := boardLeadSessionKey board.id
  message := buildGatewayLeadMessage ctx board actorAgentName payload

/-- What is done for a board ends with an exception that a broadcast does not handle: the lifecycle run of its new lead, or
the dispatch of its message. -/
def BoardDerails (leads : BoardLeads) (board : BoardRow) : Prop :=
  leads board.id = none ∧ (leadGatewayRun ctx board gateway).ending = .cut ∨
    DispatchDerails ctx (boardLeadSessionKey board.id) (buildGatewayLeadMessage ctx board actorAgentName payload)

variable {ctx gateway actorAgentName payload} {leads : BoardLeads} {board : BoardRow}

theorem leadGatewayRun_sessionKey {key : String} (h : (leadGatewayRun ctx board gateway).sessionKey = some key) :
    key = boardLeadSessionKey board.id := by
  unfold leadGatewayRun gatewayRun at h
  dsimp only at h
  split at h
  · cases h
  split at h
  · cases h
  rename_i lifecycleKey hkey
  split at h
  · cases h
  · obtain rfl := Option.some.inj h
    exact (Except.ok.inj hkey).symm

theorem runLifecycle_openclawSessionId {agent : AgentRow} {begun ended : Time} {options : LifecycleOptions}
    {minted : Option TokenHash} {run : GatewayRun} {key : String} (hagent : agent.openclawSessionId = some key)
    (hrun : ∀ k, run.sessionKey = some k → k = key) :
    (agent.runLifecycle begun ended options minted run).openclawSessionId = some key := by
  have hor : run.sessionKey.or agent.openclawSessionId = some key := by
    cases hkey : run.sessionKey with
    | none => exact hagent
    | some k => exact congrArg some (hrun k hkey)
  unfold AgentRow.runLifecycle AgentRow.finishLifecycle
  cases run.ending with
  | cut => exact hagent
  | done => exact hor
  | gatewayError message => exact hor
  | raised message => exact hor
  | noUrl => exact hor

variable (ctx gateway leads board) in
/-- **The lead of a board** is there with its session key, or the board fails; leads of other boards stay as they are. -/
theorem ensureBoardLead_spec :
    (∀ other, other ≠ board.id → (ensureBoardLead ctx leads board gateway).1 other = leads other) ∧
      (∀ lead, (ensureBoardLead ctx leads board gateway).2 = .ok lead →
        lead.openclawSessionId = some (boardLeadSessionKey board.id)) ∧
      ((ensureBoardLead ctx leads board gateway).2 = .error .other →
        leads board.id = none ∧ (leadGatewayRun ctx board gateway).ending = .cut) := by
  unfold ensureBoardLead
  cases hlead : leads board.id with
  | some existing =>
    exact ⟨fun other hne => Function.update_of_ne hne _ _, fun lead hok => Except.ok.inj hok ▸ rfl, nofun⟩
  | none =>
    dsimp only
    refine ⟨fun other hne => Function.update_of_ne hne _ _, fun lead hok => ?_, fun hother => ⟨rfl, ?_⟩⟩
    · cases hcaller : (leadGatewayRun ctx board gateway).ending.forCaller with
      | error e => rw [hcaller] at hok; cases hok
      | ok done =>
        rw [hcaller] at hok
        obtain rfl := Except.ok.inj hok
        exact runLifecycle_openclawSessionId rfl fun _ hkey => leadGatewayRun_sessionKey hkey
    · cases hending : (leadGatewayRun ctx board gateway).ending with
      | cut => rfl
      | done => rw [hending] at hother; cases hother
      | noUrl => rw [hending] at hother; cases hother
      | gatewayError message => rw [hending] at hother; cases hother
      | raised message => rw [hending] at hother; cases hother

theorem ensureAndMessageLead_error {e : BroadcastError} (message : String)
    (h : (ensureBoardLead ctx leads board gateway).2 = .error e) :
    ensureAndMessageLead ctx leads board gateway message =
      ((ensureBoardLead ctx leads board gateway).1, [], .error e) := by
  unfold ensureAndMessageLead
  split
  · rename_i heq
    rw [heq] at h ⊢
    rw [Except.error.inj h]
  · rename_i heq
    rw [heq] at h
    cases h

theorem ensureAndMessageLead_ok {lead : AgentRow} (message : String)
    (h : (ensureBoardLead ctx leads board gateway).2 = .ok lead)
    (hkey : lead.openclawSessionId = some (boardLeadSessionKey board.id)) :
    let dispatched := dispatchGatewayMessage ctx
      { boardId := board.id, sessionKey := boardLeadSessionKey board.id, message }
    ensureAndMessageLead ctx leads board gateway message =
      ((ensureBoardLead ctx leads board gateway).1, dispatched.1, dispatched.2.map fun _ => lead) := by
  have hfilter : lead.openclawSessionId.filter (· ≠ "") = some (boardLeadSessionKey board.id) := by
    rw [hkey]
    exact Option.filter_eq_some_iff.mpr ⟨rfl, decide_eq_true (sessionKeyOf_ne_nil _)⟩
  unfold ensureAndMessageLead
  split
  · rename_i heq
    rw [heq] at h
    cases h
  · rename_i heq
    rw [heq] at h ⊢
    obtain rfl := Except.ok.inj h
    rw [hfilter]

variable (ctx gateway leads board) in
theorem ensureAndMessageLead_spec (message : String) :
    let m : LeadMessage := { boardId := board.id, sessionKey := boardLeadSessionKey board.id, message }
    let done := ensureAndMessageLead ctx leads board gateway message
    (∀ other, other ≠ board.id → done.1 other = leads other) ∧ (∀ m' ∈ done.2.1, m' = m) ∧
      (m ∈ done.2.1 ↔ ∃ lead, done.2.2 = .ok lead) ∧
      (done.2.2 = .error .other → leads board.id = none ∧ (leadGatewayRun ctx board gateway).ending = .cut ∨
        DispatchDerails ctx m.sessionKey message) := by
  intro m
  obtain ⟨hothers, hkey, hcut⟩ := ensureBoardLead_spec ctx gateway leads board
  cases hensured : (ensureBoardLead ctx leads board gateway).2 with
  | error e =>
    rw [ensureAndMessageLead_error message hensured]
    refine ⟨hothers, fun _ hm => absurd hm List.not_mem_nil, iff_of_false List.not_mem_nil ?_, fun he => .inl ?_⟩
    · rintro ⟨lead, hok⟩
      cases hok
    · rw [hensured] at hcut
      exact hcut he
  | ok lead =>
    rw [ensureAndMessageLead_ok message hensured (hkey lead hensured)]
    obtain ⟨hiff, honly, hderails⟩ := dispatchGatewayMessage_spec ctx m
    refine ⟨hothers, honly, hiff.trans ?_, fun he => .inr (hderails ?_)⟩
    · constructor
      · intro hok
        exact ⟨lead, congrArg (Except.map fun _ => lead) hok⟩
      · rintro ⟨lead', hok⟩
        cases hended : (dispatchGatewayMessage ctx m).2 with
        | ok done => rfl
        | error e =>
          have hmap := congrArg (Except.map fun _ => lead) hended
          rw [hmap] at hok
          cases hok
    · cases hended : (dispatchGatewayMessage ctx m).2 with
      | ok done =>
        have hmap := congrArg (Except.map fun _ => lead) hended
        rw [hmap] at he
        cases he
      | error e =>
        have hmap := congrArg (Except.map fun _ => lead) hended
        rw [hmap] at he
        exact congrArg Except.error (Except.error.inj he)

variable (ctx gateway) in
theorem ensureAndMessageLead_congr {leads' : BoardLeads} (h : leads' board.id = leads board.id) (message : String) :
    (ensureAndMessageLead ctx leads' board gateway message).2 = (ensureAndMessageLead ctx leads board gateway message).2 := by
  have hensured : (ensureBoardLead ctx leads' board gateway).2 = (ensureBoardLead ctx leads board gateway).2 := by
    unfold ensureBoardLead
    rw [h]
    cases leads board.id with
    | none => rfl
    | some existing => rfl
  have hkey := (ensureBoardLead_spec ctx gateway leads board).2.1
  cases hlead : (ensureBoardLead ctx leads board gateway).2 with
  | error e =>
    rw [ensureAndMessageLead_error message hlead, ensureAndMessageLead_error message (hensured.trans hlead)]
  | ok lead =>
    rw [ensureAndMessageLead_ok message hlead (hkey lead hlead),
      ensureAndMessageLead_ok message (hensured.trans hlead) (hkey lead hlead)]

theorem BoardDerails.congr {leads' : BoardLeads} (h : leads' board.id = leads board.id)
    (hderails : BoardDerails ctx gateway actorAgentName payload leads' board) :
    BoardDerails ctx gateway actorAgentName payload leads board := by
  unfold BoardDerails at hderails ⊢
  rwa [h] at hderails

/-- What is done for a board that does not derail ends well, or with an error that is the result of the board. -/
theorem message?_of_not_derails (h : ¬BoardDerails ctx gateway actorAgentName payload leads board) {e : BroadcastError}
    (he : (ensureAndMessageLead ctx leads board gateway
      (buildGatewayLeadMessage ctx board actorAgentName payload)).2.2 = .error e) : ∃ error, e.message? = some error := by
  cases e with
  | http detail => exact ⟨_, rfl⟩
  | gateway message => exact ⟨_, rfl⟩
  | timeout message => exact ⟨_, rfl⟩
  | value message => exact ⟨_, rfl⟩
  | other => exact absurd ((ensureAndMessageLead_spec ctx gateway leads board _).2.2.2 he) h

variable (ctx gateway actorAgentName payload) in
/-- **The report of a board**: it says that the message is sent exactly if the gateway accepts it, and it is what it would be
in a broadcast to this board alone. -/
structure IsReport (leads : BoardLeads) (accepted : List LeadMessage) (board : BoardRow) (result : LeadBroadcastResult) :
    Prop where
  boardId : result.boardId = board.id
  ok : result.ok = true ↔ messageTo ctx actorAgentName payload board ∈ accepted
  alone : ∀ leads' : BoardLeads, leads' board.id = leads board.id → ∃ s,
    broadcastBoard ctx gateway actorAgentName payload board { leads := leads' } = .ok s ∧ s.response.results = [result]

variable (ctx gateway actorAgentName payload board) in
structure BoardAdds (s s' : BroadcastState) (result : LeadBroadcastResult) (new : List LeadMessage) : Prop
    extends IsReport ctx gateway actorAgentName payload s.leads new board result where
  results : s'.response.results = s.response.results ++ [result]
  sent : s'.response.sent = s.response.sent + if result.ok then 1 else 0
  failed : s'.response.failed = s.response.failed + if result.ok then 0 else 1
  accepted : s'.accepted = s.accepted ++ new
  only : ∀ m ∈ new, m = messageTo ctx actorAgentName payload board
  others : ∀ other, other ≠ board.id → s'.leads other = s.leads other

section Steps
variable {s : BroadcastState}

theorem broadcastBoard_ok {lead : AgentRow} :
    let done := ensureAndMessageLead ctx s.leads board gateway (buildGatewayLeadMessage ctx board actorAgentName payload)
    done.2.2 = .ok lead → broadcastBoard ctx gateway actorAgentName payload board s = .ok
      { leads := done.1, accepted := s.accepted ++ done.2.1
        response := { s.response with
          sent := s.response.sent + 1
          results := s.response.results ++
            [{ boardId := board.id, leadAgentId := some lead.id, leadAgentName := some lead.name, ok := true }] } } := by
  intro done h
  unfold broadcastBoard
  dsimp only
  rw [h]

theorem broadcastBoard_error {e : BroadcastError} {error : String} (herror : e.message? = some error) :
    let done := ensureAndMessageLead ctx s.leads board gateway (buildGatewayLeadMessage ctx board actorAgentName payload)
    done.2.2 = .error e → broadcastBoard ctx gateway actorAgentName payload board s = .ok
      { leads := done.1, accepted := s.accepted ++ done.2.1
        response := { s.response with
          failed := s.response.failed + 1
          results := s.response.results ++ [{ boardId := board.id, error := some error }] } } := by
  intro done h
  unfold broadcastBoard
  dsimp only
  rw [h]
  dsimp only
  rw [herror]

theorem broadcastBoards_cons (head : BroadcastBoard) (boards : List BroadcastBoard) :
    broadcastBoards ctx gateway actorAgentName payload (head :: boards) s =
      (broadcastBoard ctx gateway actorAgentName payload head.toBoardRow s).bind fun s' =>
        broadcastBoards ctx gateway actorAgentName payload boards s' := rfl

end Steps

/-- **One board** that does not derail has its result. -/
theorem broadcastBoard_adds {s : BroadcastState}
    (h : ¬BoardDerails ctx gateway actorAgentName payload s.leads board) :
    ∃ s' result new, broadcastBoard ctx gateway actorAgentName payload board s = .ok s' ∧
      BoardAdds ctx gateway actorAgentName payload board s s' result new := by
  obtain ⟨hothers, honly, hiff, -⟩ := ensureAndMessageLead_spec ctx gateway s.leads board
    (buildGatewayLeadMessage ctx board actorAgentName payload)
  cases hmessaged : (ensureAndMessageLead ctx s.leads board gateway
    (buildGatewayLeadMessage ctx board actorAgentName payload)).2.2 with
  | ok lead =>
    refine ⟨_, _, _, broadcastBoard_ok hmessaged,
      ⟨⟨rfl, iff_of_true rfl (hiff.mpr ⟨lead, hmessaged⟩), fun leads' hleads => ?_⟩,
      rfl, rfl, rfl, rfl, honly, hothers⟩⟩
    have hcongr := ensureAndMessageLead_congr ctx gateway hleads (buildGatewayLeadMessage ctx board actorAgentName payload)
    exact ⟨_, broadcastBoard_ok ((congrArg Prod.snd hcongr).trans hmessaged), rfl⟩
  | error e =>
    obtain ⟨error, herror⟩ := message?_of_not_derails h hmessaged
    refine ⟨_, _, _, broadcastBoard_error herror hmessaged,
      ⟨⟨rfl, iff_of_false Bool.noConfusion fun hmem => ?_, fun leads' hleads => ?_⟩,
      rfl, rfl, rfl, rfl, honly, hothers⟩⟩
    · obtain ⟨lead, hlead⟩ := hiff.mp hmem
      rw [hmessaged] at hlead
      cases hlead
    · have hcongr := ensureAndMessageLead_congr ctx gateway hleads
        (buildGatewayLeadMessage ctx board actorAgentName payload)
      exact ⟨_, broadcastBoard_error herror ((congrArg Prod.snd hcongr).trans hmessaged), rfl⟩

variable (ctx gateway actorAgentName payload) in
/-- **The boards one after the other** all have their results, if none derails. -/
theorem broadcastBoards_reports (boards : List BroadcastBoard) (s : BroadcastState) (hnodup : (boards.map (·.id)).Nodup)
    (hboards : ∀ board ∈ boards, ¬BoardDerails ctx gateway actorAgentName payload s.leads board.toBoardRow) :
    ∃ s' results new, broadcastBoards ctx gateway actorAgentName payload boards s = .ok s' ∧
      s'.response.results = s.response.results ++ results ∧
      s'.response.sent = s.response.sent + results.countP (·.ok) ∧
      s'.response.failed = s.response.failed + results.countP (!·.ok) ∧ s'.accepted = s.accepted ++ new ∧
      (∀ m ∈ new, ∃ board ∈ boards, m = messageTo ctx actorAgentName payload board.toBoardRow) ∧
      List.Forall₂ (fun board result => IsReport ctx gateway actorAgentName payload s.leads new board.toBoardRow result)
        boards results := by
  induction boards generalizing s with
  | nil =>
    refine ⟨s, [], [], rfl, (List.append_nil _).symm, rfl, rfl, (List.append_nil _).symm, ?_, .nil⟩
    exact fun _ hm => absurd hm List.not_mem_nil
  | cons board boards ih =>
    obtain ⟨hfresh, hnodup⟩ := List.nodup_cons.mp hnodup
    obtain ⟨s₁, result, new₁, hboard, hadds⟩ := broadcastBoard_adds (hboards board List.mem_cons_self)
    have hapart : ∀ b ∈ boards, b.id ≠ board.id := fun b hb he => hfresh (List.mem_map.mpr ⟨b, hb, he⟩)
    have hkept : ∀ b ∈ boards, s₁.leads b.id = s.leads b.id := fun b hb => hadds.others b.id (hapart b hb)
    obtain ⟨s₂, results, new₂, hrest, hresults, hsent, hfailed, haccepted, hnew, hreports⟩ := ih s₁ hnodup
      fun b hb hderails => hboards b (List.mem_cons_of_mem _ hb) (hderails.congr (hkept b hb))
    refine ⟨s₂, result :: results, new₁ ++ new₂, ?_, ?_, ?_, ?_, ?_, ?_, .cons ?_ ?_⟩
    · rw [broadcastBoards_cons, hboard]
      exact hrest
    · rw [hresults, hadds.results, List.append_assoc, List.singleton_append]
    · rw [hsent, hadds.sent, List.countP_cons]
      omega
    · rw [hfailed, hadds.failed, List.countP_cons]
      cases hok : result.ok with
      | true =>
        rw [if_pos rfl, Bool.not_true, if_neg Bool.noConfusion]
        omega
      | false =>
        rw [if_neg Bool.noConfusion, Bool.not_false, if_pos rfl]
        omega
    · rw [haccepted, hadds.accepted, List.append_assoc]
    · intro m hm
      rcases List.mem_append.mp hm with hm | hm
      · exact ⟨board, List.mem_cons_self, hadds.only m hm⟩
      · obtain ⟨b, hb, he⟩ := hnew m hm
        exact ⟨b, List.mem_cons_of_mem _ hb, he⟩
    · -- a message of a later board is not for this one
      refine ⟨hadds.boardId, hadds.ok.trans ⟨List.mem_append_left _, fun hm => ?_⟩, hadds.alone⟩
      rcases List.mem_append.mp hm with hm | hm
      · exact hm
      · obtain ⟨b, hb, he⟩ := hnew _ hm
        exact absurd (congrArg LeadMessage.boardId he).symm (hapart b hb)
    · obtain ⟨hlength, hzip⟩ := List.forall₂_iff_zip.mp hreports
      refine List.forall₂_iff_zip.mpr ⟨hlength, fun {b result'} hmem => ?_⟩
      have hb : b ∈ boards := (List.of_mem_zip hmem).1
      have hreport := hzip hmem
      refine ⟨hreport.boardId, hreport.ok.trans ⟨List.mem_append_right _, fun hm => ?_⟩, fun leads hleads => ?_⟩
      · rcases List.mem_append.mp hm with hm | hm
        · exact absurd (congrArg LeadMessage.boardId (hadds.only _ hm)) (hapart b hb)
        · exact hm
      · exact hreport.alone leads (hleads.trans (hkept b hb).symm)

end OneBoard

/-! ## A broadcast -/

theorem nodup_targetBoards (ctx : BroadcastContext) (gateway : GatewayRow) (payload : GatewayLeadBroadcastRequest) :
    ((targetBoards ctx gateway payload).map (·.id)).Nodup := by
  have hperm := (List.perm_insertionSort (fun b b' : BroadcastBoard => b'.createdAt ≤ b.createdAt)
    (ctx.boards.rows.filter fun board => board.gatewayId = some gateway.id ∧
      (payload.boardIds = [] ∨ board.id ∈ payload.boardIds))).map (·.id)
  exact hperm.nodup_iff.mpr (ctx.boards.nodup.sublist (List.filter_sublist.map _))

/-- **Every board is reported**: a broadcast of the main agent of a gateway, over boards that do not derail, returns
the report of each of them. -/
theorem broadcastLeadMessage_reports (ctx : BroadcastContext) (leads : BoardLeads) (actor : AgentRow)
    (payload : GatewayLeadBroadcastRequest) {gateway : OrgGateway} (hactor : requireBroadcastActor ctx actor = .ok gateway)
    (hboards : ∀ board ∈ targetBoards ctx gateway.toGatewayRow payload,
      ¬BoardDerails ctx gateway.toGatewayRow actor.name payload leads board.toBoardRow) :
    ∃ s, broadcastLeadMessage ctx leads actor payload = .ok s ∧
      List.Forall₂ (fun board result =>
          IsReport ctx gateway.toGatewayRow actor.name payload leads s.accepted board.toBoardRow result)
        (targetBoards ctx gateway.toGatewayRow payload) s.response.results ∧
      s.response.sent = s.response.results.countP (·.ok) ∧
      s.response.sent + s.response.failed = (targetBoards ctx gateway.toGatewayRow payload).length := by
  obtain ⟨s, results, new, hrun, hresults, hsent, hfailed, haccepted, -, hreports⟩ :=
    broadcastBoards_reports ctx gateway.toGatewayRow actor.name payload (targetBoards ctx gateway.toGatewayRow payload)
      { leads } (nodup_targetBoards ctx gateway.toGatewayRow payload) hboards
  rw [List.nil_append] at hresults haccepted
  rw [Nat.zero_add] at hsent hfailed
  refine ⟨s, ?_, ?_, ?_, ?_⟩
  · unfold broadcastLeadMessage
    rw [hactor]
    exact hrun
  · rw [hresults, haccepted]
    exact hreports
  · rw [hresults, hsent]
  · have hcount := List.length_eq_countP_add_countP (·.ok) (l := results)
    rw [hsent, hfailed, hreports.length_eq, hcount]
    congr 1
    exact List.countP_congr fun result _ => by cases result.ok <;> rfl

namespace Sample

def gatewayAt (url : String) : OrgGateway := { id := 1, url, workspaceRoot := "/agents", organizationId := 1 }

def broadcastOfTwo (url : String) (calls : Gateway) : BroadcastContext where
  lower := id
  pbkdf2 := plainHash
  baseUrl := "http://silo"
  gateways := { rows := [gatewayAt url], nodup := List.nodup_singleton _ }
  boards :=
    { rows := [{ id := 2, organizationId := 1, gatewayId := some 1, createdAt := 10 },
        { id := 3, organizationId := 1, gatewayId := some 1, createdAt := 20 }]
      nodup := by decide }
  runs _ := { agentId := 5, token := newToken, input := runAt calls }
  sends _ _ :=
    { start := 0
      attempts := [{ patched := .ok .null, sent := .ok .null, now := 0, draw := 0 }]
      ends := by
        have hreturned : ¬TransientBefore id (0 + coordinationBackoff.timeoutS)
            ({ patched := .ok .null, sent := .ok .null, now := 0, draw := 0 } : SendAttempt).attempt := by
          rintro ⟨text, htext, -⟩
          cases htext
        have hended := (attempts_last (b := coordinationBackoff) hreturned []).1
        unfold GatewayBackoff.run
        rw [List.map_singleton, hended]
        exact nofun }

def mainActor : AgentRow :=
  { id := 7, boardId := none, gatewayId := 1, name := "Main", openclawSessionId := some (gatewaySessionKey 1) }

def leadOfFirst : BoardLeads := fun boardId =>
  if boardId = 2 then some { id := 4, boardId := some 2, isBoardLead := true, gatewayId := 1 } else none

def standBy : GatewayLeadBroadcastRequest := { kind := "handoff", content := "Stand by." }

end Sample

theorem not_dispatchDerails {ctx : BroadcastContext} {sessionKey message : String}
    (h : ∀ a ∈ (ctx.sends sessionKey message).attempts, a.derails = false) : ¬DispatchDerails ctx sessionKey message := by
  rintro ⟨before, attempt, rest, hattempts, -, hderails⟩
  have hfalse := h attempt (hattempts ▸ List.mem_append_right _ List.mem_cons_self)
  rw [hderails] at hfalse
  cases hfalse

/-- The gateway is away for the lead of the second board. Both boards are reported. -/
theorem broadcastLeadMessage_reports_example :
    ∃ s, broadcastLeadMessage (Sample.broadcastOfTwo "ws://gateway" Sample.away) Sample.leadOfFirst Sample.mainActor
        Sample.standBy = .ok s ∧ s.response.results.map (·.boardId) = [3, 2] ∧ s.response.sent + s.response.failed = 2 := by
  have hactor : requireBroadcastActor (Sample.broadcastOfTwo "ws://gateway" Sample.away) Sample.mainActor =
      .ok (Sample.gatewayAt "ws://gateway") := rfl
  obtain ⟨s, hrun, hreports, -, hsum⟩ := broadcastLeadMessage_reports _ Sample.leadOfFirst _ Sample.standBy hactor
    (by
      rintro board hboard (⟨hlead, hcut⟩ | hdispatch)
      · rcases List.mem_pair.mp hboard with rfl | rfl
        · have haway : GatewayEnding.gatewayError "gateway closed" = .cut := hcut
          cases haway
        · cases hlead
      · refine not_dispatchDerails (fun a ha => ?_) hdispatch
        obtain rfl := List.mem_singleton.mp ha
        rfl)
  have hids := List.forall₂_map_left_iff.mpr (List.forall₂_map_right_iff.mpr
    (hreports.imp fun _ _ hreport => hreport.boardId.symm))
  rw [List.forall₂_eq_eq_eq] at hids
  exact ⟨s, hrun, hids.symm, hsum⟩

/-- **A gateway without a URL** has the broadcast rejected before its boards are looked at. -/
theorem not_broadcastLeadMessage_reports : ¬ ∀ (ctx : BroadcastContext) (leads : BoardLeads) (actor : AgentRow)
    (payload : GatewayLeadBroadcastRequest) (gateway : OrgGateway), ctx.gateways.get? actor.gatewayId = some gateway →
    actor.boardId = none → actor.openclawSessionId = some (gatewaySessionKey gateway.id) →
      ∃ s, broadcastLeadMessage ctx leads actor payload = .ok s ∧
        s.response.results.length = (targetBoards ctx gateway.toGatewayRow payload).length := by
  intro h
  obtain ⟨s, hrun, -⟩ := h (Sample.broadcastOfTwo "" Sample.away) Sample.leadOfFirst Sample.mainActor Sample.standBy
    (Sample.gatewayAt "") rfl rfl rfl
  cases hrun

end SiloForge
