import Mathlib.Data.List.Sort
import SiloForge.Activity.MemoryStream
import SiloForge.Agents.Rows
import SiloForge.Openclaw.Backoff
import SiloForge.Openclaw.Credentials

/-!
# The template sync of a gateway

The agents of the boards of a gateway have their files brought up to date, one after the other, and then the gateway's main
agent. Each is counted as updated or skipped, and what goes wrong is reported. A timeout ends the sync.

* `SyncContext`, `SyncState` : what the sync meets, and what it has counted;
* `resolveToken`, `syncOneAgent`, `syncMainAgent`, `syncGatewayTemplates` : the sync;
* `AgentCounted`, `syncOneAgent_counted` : what is counted for one agent;
* `syncGatewayTemplates_accounts` : for a sync that returns.
-/

namespace SiloForge

open Lib

/-! ## What a sync meets -/

structure TemplateSyncOptions where
  includeMain : Bool := true
  leadOnly : Bool := false
  resetSessions : Bool := false
  rotateTokens : Bool := false
  boardId : Option Uuid := none

/-- How a lifecycle run ends for its caller: it succeeds, it ends with an HTTP error or another one that the sync reports,
or with anything nobody catches. -/
inductive LifecycleEnd where
  | done
  | httpError (status : Nat) (detail : String)
  | raised (message : String)
  | cut
  deriving DecidableEq

/-- `_do_provision`: a gateway error that the run has wrapped is one again. -/
def doProvision : LifecycleEnd → Except RunError (Option Unit)
  | .done => .ok (some ())
  | .httpError status detail => .error (if status = 502 then .gateway detail else .raised detail)
  | .raised message => .error (.raised message)
  | .cut => .error .cut

structure LifecycleAttempt where
  ending : LifecycleEnd
  now : ℚ
  draw : ℚ

def LifecycleAttempt.attempt (a : LifecycleAttempt) : Attempt Unit := ⟨doProvision a.ending, a.now, a.draw⟩

/-- A fresh token has characters. -/
structure RotationToken extends FreshToken where
  nonempty : text ≠ ""

/-- What comes of the calls for an agent: the attempts to read its TOOLS.md, the tokens it may be given, and the runs. -/
structure AgentSync where
  readAt : ℚ
  reads : List (Attempt Json)
  missing : RotationToken
  mismatched : RotationToken
  provisionAt : ℚ
  provisions : List LifecycleAttempt

structure TemplateSyncDb where
  ownerFound : Bool
  boards : List BoardRow
  memories : List BoardMemory
  agents : List AgentRow

structure SyncContext where
  lower : String → String
  pbkdf2 : Pbkdf2
  gateway : GatewayRow
  /-- The user of the options. -/
  userGiven : Bool
  options : TemplateSyncOptions
  db : TemplateSyncDb
  pingAt : ℚ
  pings : List (Attempt Json)
  syncs : Uuid → AgentSync

/-! ## What a sync counts -/

structure TemplateSyncError where
  agentId : Option Uuid := none
  agentName : Option String := none
  boardId : Option Uuid := none
  message : String
  deriving DecidableEq

structure TemplateSyncResult where
  gatewayId : Uuid
  includeMain : Bool
  resetSessions : Bool
  agentsUpdated : Nat := 0
  agentsSkipped : Nat := 0
  mainUpdated : Bool := false
  errors : List TemplateSyncError := []
  deriving DecidableEq

structure SyncState where
  result : TemplateSyncResult
  backoff : GatewayBackoff

namespace SyncState

def appendError (s : SyncState) (message : String) (agent : Option AgentRow := none) (boardId : Option Uuid := none) :
    SyncState :=
  { s with result.errors := s.result.errors ++
      [{ agentId := agent.map fun a => a.id, agentName := agent.map fun a => a.name, boardId, message }] }

def countUpdated (s : SyncState) : SyncState := { s with result.agentsUpdated := s.result.agentsUpdated + 1 }

def countSkipped (s : SyncState) : SyncState := { s with result.agentsSkipped := s.result.agentsSkipped + 1 }

/-- A call with its retries; none while it goes on. -/
def call {α : Type} (s : SyncState) (lower : String → String) (start : ℚ) (as : List (Attempt α)) :
    Option (RetryEnd α × SyncState) :=
  let called := s.backoff.run lower start as
  called.ended.map fun ended => (ended, { s with backoff := called.backoff })

end SyncState

def SyncContext.begin (ctx : SyncContext) : SyncState where
  result := { gatewayId := ctx.gateway.id, includeMain := ctx.options.includeMain,
              resetSessions := ctx.options.resetSessions }
  backoff := templateSyncBackoff

/-! ## Tokens -/

/-- `_get_agent_file`, of what the gateway answers. -/
def agentFileContent (payload : Json) : Option String :=
  match payload with
  | .str content => some content
  | _ => ((payload.get? "content").bind Json.str?).or
      (((payload.get? "file").bind fun file => file.get? "content").bind Json.str?)

/-- How the token of an agent is resolved: with a token, without one, or by a timeout. -/
inductive ResolvedToken where
  | token (text : String)
  | missing
  | fatal
  deriving DecidableEq

section Sync
variable (ctx : SyncContext)

/-- What `_resolve_agent_auth_token` reports and counts. -/
def foundToken (s : SyncState) (agent : AgentRow) (boardId : Option Uuid) (sync : AgentSync) (tools : Option String) :
    ResolvedToken × SyncState :=
  match resolveAgentAuthToken ctx.pbkdf2 agent.agentTokenHash ctx.options.rotateTokens sync.missing.toFreshToken
    sync.mismatched.toFreshToken tools with
  | .found text _ false => (.token text, s)
  | .found text _ true =>
    (.token text, s.appendError
      "Warning: AUTH_TOKEN in TOOLS.md does not match backend token hash (agent auth may be broken)." agent boardId)
  | .missing =>
    (.missing, s.countSkipped.appendError
      "Skipping agent: unable to read AUTH_TOKEN from TOOLS.md (run with rotate_tokens=true to re-key)." agent boardId)

/-- The token of an agent, from the attempts to read its TOOLS.md; none where an exception goes on, or a call does. -/
def resolveToken (s : SyncState) (agent : AgentRow) (boardId : Option Uuid) (sync : AgentSync) :
    Option (ResolvedToken × SyncState) :=
  match s.call ctx.lower sync.readAt sync.reads with
  | some (.timedOut message, s) => some (.fatal, s.appendError message agent boardId)
  | some (.raised (.gateway _), s) => some (foundToken ctx s agent boardId sync none)
  | some (.returned (some payload), s) => some (foundToken ctx s agent boardId sync (agentFileContent payload))
  | _ => none

/-! ## Agents -/

def reportedMessage : RetryEnd Unit → Option String
  | .raised (.gateway message) | .raised (.raised message) => some message
  | .noValue => some "Gateway retry produced no value without an error"
  | _ => none

/-- `_sync_one_agent`: whether the sync is to stop. -/
def syncOneAgent (s : SyncState) (agent : AgentRow) (boardId : Uuid) : Option (Bool × SyncState) :=
  let sync := ctx.syncs agent.id
  match resolveToken ctx s agent boardId sync with
  | none => none
  | some (.fatal, s) => some (true, s)
  | some (.missing, s) => some (false, s)
  | some (.token _, s) =>
    match s.call ctx.lower sync.provisionAt (sync.provisions.map LifecycleAttempt.attempt) with
    | none => none
    | some (.returned _, s) => some (false, s.countUpdated)
    | some (.timedOut message, s) => some (true, s.countSkipped.appendError message agent boardId)
    | some (ended, s) => (reportedMessage ended).map fun message =>
      (false, s.countSkipped.appendError ("Failed to sync templates: " ++ message) agent boardId)

def syncMainAgent (s : SyncState) : Option SyncState :=
  match ctx.db.agents.find? fun agent => agent.gatewayId = ctx.gateway.id ∧ agent.boardId = none with
  | none => some (s.appendError "Gateway agent record not found; skipping gateway agent template sync.")
  | some agent =>
    let sync := ctx.syncs agent.id
    match resolveToken ctx s agent none sync with
    | none => none
    | some (.fatal, s) => some s
    | some (.missing, s) =>
      some (s.appendError "Skipping gateway agent: unable to read AUTH_TOKEN from TOOLS.md." agent)
    | some (.token _, s) =>
      match s.call ctx.lower sync.provisionAt (sync.provisions.map LifecycleAttempt.attempt) with
      | none => none
      | some (.returned _, s) => some { s with result.mainUpdated := true }
      | some (.timedOut message, s) => some (s.appendError message agent)
      | some (ended, s) => (reportedMessage ended).map fun message =>
        s.appendError ("Failed to sync gateway agent templates: " ++ message) agent

/-! ## A sync -/

def boardsById (boards : List BoardRow) (boardId : Option Uuid) : Option (List BoardRow) :=
  match boardId with
  | none => some boards
  | some boardId => (boards.find? fun board => board.id = boardId).map fun board => [board]

def isPauseCommand (lower : String → String) (memory : BoardMemory) : Bool :=
  memory.isChat && (lower (String.ofList (sqlTrim memory.content)) ∈ ["/pause", "/resume"])

/-- `_paused_board_ids`: the last command of a board pauses it. -/
def isPaused (lower : String → String) (memories : List BoardMemory) (boardId : Uuid) : Bool :=
  (((memories.filter fun memory => memory.boardId = boardId ∧ isPauseCommand lower memory).insertionSort
    fun m m' => m'.createdAt ≤ m.createdAt).head?).any fun memory => lower (strip memory.content) = "/pause"

def agentsOfBoards (options : TemplateSyncOptions) (agents : List AgentRow) (boards : List BoardRow) : List AgentRow :=
  (agents.filter fun agent => (agent.boardId.any fun boardId => boards.any fun board => board.id = boardId) ∧
    (options.leadOnly = true → agent.isBoardLead = true)).insertionSort fun a b => a.createdAt ≤ b.createdAt

def syncAgents (boards : List BoardRow) : List AgentRow → SyncState → Option (Bool × SyncState)
  | [], s => some (false, s)
  | agent :: agents, s =>
    match agent.boardId.bind fun boardId => boards.find? fun board => board.id = boardId with
    | none => syncAgents boards agents (s.countSkipped.appendError "Skipping agent: board not found for agent." agent)
    | some board =>
      if isPaused ctx.lower ctx.db.memories board.id then syncAgents boards agents s.countSkipped
      else
        match syncOneAgent ctx s agent board.id with
        | none => none
        | some (true, s) => some (true, s)
        | some (false, s) => syncAgents boards agents s

/-- `_ping_gateway`: what is to be reported, if the gateway does not answer. -/
def pingGateway (s : SyncState) : Option (Option String × SyncState) :=
  match s.call ctx.lower ctx.pingAt ctx.pings with
  | some (.returned _, s) => some (none, s)
  | some (.timedOut message, s) | some (.raised (.gateway message), s) => some (some message, s)
  | _ => none

/-- `sync_gateway_templates`; none where an exception goes on, or a call does. -/
def syncGatewayTemplates : Option TemplateSyncResult :=
  let s := ctx.begin
  if ctx.userGiven = false ∧ ctx.db.ownerFound = false then
    some (s.appendError "Organization owner not found (required for gateway template USER.md rendering).").result
  else if ctx.gateway.url = "" then some (s.appendError "Gateway URL is not configured for this gateway.").result
  else
    match pingGateway ctx s with
    | none => none
    | some (some message, s) => some (s.appendError message).result
    | some (none, s) =>
      match boardsById (ctx.db.boards.filter fun board => board.gatewayId = some ctx.gateway.id) ctx.options.boardId with
      | none => some (s.appendError "Board does not belong to this gateway.").result
      | some boards =>
        match syncAgents ctx boards (agentsOfBoards ctx.options ctx.db.agents boards) s with
        | none => none
        | some (stop, s) =>
          if stop = false ∧ ctx.options.includeMain then (syncMainAgent ctx s).map (·.result) else some s.result

end Sync

/-! ## What is counted -/

structure Counts (s s' : SyncState) (updated skipped : Nat) : Prop where
  updated : s'.result.agentsUpdated = s.result.agentsUpdated + updated
  skipped : s'.result.agentsSkipped = s.result.agentsSkipped + skipped
  errors : s.result.errors ⊆ s'.result.errors
  timeout : s'.backoff.timeoutS = s.backoff.timeoutS
  context : s'.backoff.timeoutContext = s.backoff.timeoutContext

def SyncState.Reports (s : SyncState) (agent : AgentRow) : Prop := ∃ e ∈ s.result.errors, e.agentId = some agent.id

def SyncState.Timed (s : SyncState) : Prop :=
  s.backoff.timeoutS = templateSyncBackoff.timeoutS ∧ s.backoff.timeoutContext = templateSyncBackoff.timeoutContext

section Counts
variable {s s' s'' : SyncState} {updated skipped updated' skipped' : Nat}

theorem Counts.refl (s : SyncState) : Counts s s 0 0 := ⟨rfl, rfl, List.Subset.refl _, rfl, rfl⟩

theorem Counts.trans (h : Counts s s' updated skipped) (h' : Counts s' s'' updated' skipped') :
    Counts s s'' (updated + updated') (skipped + skipped') where
  updated := by rw [h'.updated, h.updated, Nat.add_assoc]
  skipped := by rw [h'.skipped, h.skipped, Nat.add_assoc]
  errors := List.Subset.trans h.errors h'.errors
  timeout := h'.timeout.trans h.timeout
  context := h'.context.trans h.context

theorem Counts.timed (h : Counts s s' updated skipped) (hs : s.Timed) : s'.Timed :=
  ⟨h.timeout.trans hs.1, h.context.trans hs.2⟩

theorem Counts.reports (h : Counts s s' updated skipped) {agent : AgentRow} (hs : s.Reports agent) : s'.Reports agent :=
  hs.imp fun _ he => ⟨h.errors he.1, he.2⟩

theorem counts_appendError (s : SyncState) (message : String) (agent : Option AgentRow) (boardId : Option Uuid) :
    Counts s (s.appendError message agent boardId) 0 0 := ⟨rfl, rfl, List.subset_append_left _ _, rfl, rfl⟩

theorem counts_countSkipped (s : SyncState) : Counts s s.countSkipped 0 1 := ⟨rfl, rfl, List.Subset.refl _, rfl, rfl⟩

theorem counts_countUpdated (s : SyncState) : Counts s s.countUpdated 1 0 := ⟨rfl, rfl, List.Subset.refl _, rfl, rfl⟩

theorem reports_appendError (s : SyncState) (message : String) (agent : AgentRow) (boardId : Option Uuid) :
    (s.appendError message agent boardId).Reports agent :=
  ⟨_, List.mem_append_right _ (List.mem_singleton_self _), rfl⟩

theorem counts_skip (s : SyncState) (message : String) (agent : AgentRow) (boardId : Option Uuid) :
    Counts s (s.countSkipped.appendError message agent boardId) 0 1 :=
  (counts_countSkipped s).trans (counts_appendError _ _ _ _)

theorem call_counts {α : Type} {lower : String → String} {start : ℚ} {as : List (Attempt α)} {ended : RetryEnd α}
    (hs : s.Timed) (h : s.call lower start as = some (ended, s')) :
    Counts s s' 0 0 ∧ (templateSyncBackoff.run lower start as).ended = some ended := by
  unfold SyncState.call at h
  obtain ⟨found, hfound, hpair⟩ := Option.map_eq_some_iff.mp h
  obtain ⟨rfl, rfl⟩ := Prod.mk.inj hpair
  unfold GatewayBackoff.run at hfound ⊢
  obtain ⟨htimeout, hcontext⟩ := backoff_attempts lower (start + s.backoff.timeoutS) s.backoff as
  refine ⟨⟨rfl, rfl, List.Subset.refl _, htimeout, hcontext⟩, ?_⟩
  rw [← hs.1, ← ended_attempts_congr hs.1 hs.2, hfound]

end Counts

/-! ## One agent -/

section Agent
variable (ctx : SyncContext)

def TimesOut (sync : AgentSync) : Prop :=
  (∃ message, (templateSyncBackoff.run ctx.lower sync.readAt sync.reads).ended = some (.timedOut message)) ∨
    ∃ message, (templateSyncBackoff.run ctx.lower sync.provisionAt
      (sync.provisions.map LifecycleAttempt.attempt)).ended = some (.timedOut message)

def TokenMissing (sync : AgentSync) : Prop :=
  ctx.options.rotateTokens = false ∧
    ((∃ message, (templateSyncBackoff.run ctx.lower sync.readAt sync.reads).ended = some (.raised (.gateway message))) ∨
      ∃ payload, (templateSyncBackoff.run ctx.lower sync.readAt sync.reads).ended = some (.returned (some payload)) ∧
        (agentFileContent payload).bind existingAuthToken = none)

variable {ctx} {s s' : SyncState} {agent : AgentRow} {boardId : Option Uuid} {sync : AgentSync}

/-- What is counted where the token of an agent is resolved. -/
def ResolvedAs (ctx : SyncContext) (s s' : SyncState) (agent : AgentRow) (sync : AgentSync) : ResolvedToken → Prop
  | .token _ => Counts s s' 0 0
  | .missing => Counts s s' 0 1 ∧ s'.Reports agent ∧ TokenMissing ctx sync
  | .fatal => Counts s s' 0 0 ∧ TimesOut ctx sync

theorem resolveAgentAuthToken_eq_missing {pbkdf2 : Pbkdf2} {hash : Option TokenHash} {rotateTokens : Bool}
    {missing mismatched : FreshToken} {tools : Option String}
    (h : resolveAgentAuthToken pbkdf2 hash rotateTokens missing mismatched tools = .missing) :
    tools.bind existingAuthToken = none ∧ rotateTokens = false := by
  have hcheck : ∀ hash minted text, checkAgentToken pbkdf2 rotateTokens mismatched hash minted text ≠ .missing := by
    intro hash minted text h
    unfold checkAgentToken at h
    split at h
    · cases h
    split at h
    · cases h
    · cases h
  unfold resolveAgentAuthToken at h
  split at h
  · exact absurd h (hcheck _ _ _)
  rename_i hnone
  split at h
  · exact absurd h (hcheck _ _ _)
  · rename_i hrotate
    exact ⟨hnone, Bool.eq_false_iff.mpr hrotate⟩

variable (s agent boardId) in
theorem foundToken_counts (tools : Option String)
    (hmissing : tools.bind existingAuthToken = none → ctx.options.rotateTokens = false → TokenMissing ctx sync) :
    ResolvedAs ctx s (foundToken ctx s agent boardId sync tools).2 agent sync
      (foundToken ctx s agent boardId sync tools).1 := by
  unfold foundToken
  split
  · exact Counts.refl s
  · exact counts_appendError _ _ _ _
  · rename_i h
    obtain ⟨hnone, hrotate⟩ := resolveAgentAuthToken_eq_missing h
    exact ⟨counts_skip _ _ _ _, reports_appendError _ _ _ _, hmissing hnone hrotate⟩

theorem ResolvedAs.after {s₁ : SyncState} {resolved : ResolvedToken} (hcounts : Counts s s₁ 0 0)
    (h : ResolvedAs ctx s₁ s' agent sync resolved) : ResolvedAs ctx s s' agent sync resolved := by
  cases resolved with
  | token text => exact hcounts.trans h
  | missing => exact ⟨hcounts.trans h.1, h.2⟩
  | fatal => exact ⟨hcounts.trans h.1, h.2⟩

/-- **A token is resolved**: one that is found or fresh counts nothing, a missing one skips the agent, and a timeout ends the
sync. -/
theorem resolveToken_counts {resolved : ResolvedToken} (hs : s.Timed)
    (h : resolveToken ctx s agent boardId sync = some (resolved, s')) : ResolvedAs ctx s s' agent sync resolved := by
  unfold resolveToken at h
  split at h
  · rename_i message s₁ hcall
    obtain ⟨hcounts, hended⟩ := call_counts hs hcall
    obtain ⟨rfl, rfl⟩ := Prod.mk.inj (Option.some.inj h)
    exact ⟨hcounts.trans (counts_appendError _ _ _ _), .inl ⟨message, hended⟩⟩
  · rename_i message s₁ hcall
    obtain ⟨hcounts, hended⟩ := call_counts hs hcall
    have hfound := foundToken_counts s₁ agent boardId none
      fun _ hrotate => (⟨hrotate, .inl ⟨message, hended⟩⟩ : TokenMissing ctx sync)
    rw [Option.some.inj h] at hfound
    exact hfound.after hcounts
  · rename_i payload s₁ hcall
    obtain ⟨hcounts, hended⟩ := call_counts hs hcall
    have hfound := foundToken_counts s₁ agent boardId _
      fun hnone hrotate => (⟨hrotate, .inr ⟨payload, hended, hnone⟩⟩ : TokenMissing ctx sync)
    rw [Option.some.inj h] at hfound
    exact hfound.after hcounts
  · cases h

/-- What is counted for an agent: it is updated, and has had a run that succeeds; or it is skipped, and reported; or a
timeout ends the sync before it is counted. -/
inductive AgentCounted (ctx : SyncContext) (s s' : SyncState) (agent : AgentRow) : Bool → Prop
  | updated (counts : Counts s s' 1 0) (ran : ∃ run ∈ (ctx.syncs agent.id).provisions, run.ending = .done) :
    AgentCounted ctx s s' agent false
  | skipped (stop : Bool) (counts : Counts s s' 0 1) (reports : s'.Reports agent)
    (timeout : stop = true → TimesOut ctx (ctx.syncs agent.id)) : AgentCounted ctx s s' agent stop
  | uncounted (counts : Counts s s' 0 0) (timeout : TimesOut ctx (ctx.syncs agent.id)) : AgentCounted ctx s s' agent true

theorem done_of_returned {as : List LifecycleAttempt} {start : ℚ} {lower : String → String} {value : Option Unit}
    (h : (templateSyncBackoff.run lower start (as.map LifecycleAttempt.attempt)).ended = some (.returned value)) :
    ∃ run ∈ as, run.ending = .done := by
  obtain ⟨attempt, hattempt, houtcome⟩ := mem_of_returned h
  obtain ⟨run, hrun, rfl⟩ := List.mem_map.mp hattempt
  refine ⟨run, hrun, ?_⟩
  change doProvision run.ending = .ok value at houtcome
  cases hending : run.ending with
  | done => rfl
  | httpError status detail =>
    rw [hending] at houtcome
    cases houtcome
  | raised message =>
    rw [hending] at houtcome
    cases houtcome
  | cut =>
    rw [hending] at houtcome
    cases houtcome

theorem syncOneAgent_counted {boardId : Uuid} {stop : Bool} (hs : s.Timed)
    (h : syncOneAgent ctx s agent boardId = some (stop, s')) : AgentCounted ctx s s' agent stop := by
  unfold syncOneAgent at h
  dsimp only at h
  split at h
  · cases h
  · rename_i s₁ hresolved
    obtain ⟨rfl, rfl⟩ := Prod.mk.inj (Option.some.inj h)
    obtain ⟨hcounts, htimeout⟩ := resolveToken_counts hs hresolved
    exact .uncounted hcounts htimeout
  · rename_i s₁ hresolved
    obtain ⟨rfl, rfl⟩ := Prod.mk.inj (Option.some.inj h)
    obtain ⟨hcounts, hreports, -⟩ := resolveToken_counts hs hresolved
    exact .skipped false hcounts hreports nofun
  rename_i text s₁ hresolved
  have hcounts : Counts s s₁ 0 0 := resolveToken_counts hs hresolved
  split at h
  · cases h
  · rename_i value s₂ hcall
    obtain ⟨hcalled, hended⟩ := call_counts (hcounts.timed hs) hcall
    obtain ⟨rfl, rfl⟩ := Prod.mk.inj (Option.some.inj h)
    exact .updated ((hcounts.trans hcalled).trans (counts_countUpdated _)) (done_of_returned hended)
  · rename_i message s₂ hcall
    obtain ⟨hcalled, hended⟩ := call_counts (hcounts.timed hs) hcall
    obtain ⟨rfl, rfl⟩ := Prod.mk.inj (Option.some.inj h)
    exact .skipped true ((hcounts.trans hcalled).trans (counts_skip _ _ _ _)) (reports_appendError _ _ _ _)
      fun _ => .inr ⟨message, hended⟩
  · rename_i ended s₂ hcall
    obtain ⟨hcalled, -⟩ := call_counts (hcounts.timed hs) hcall
    obtain ⟨message, -, hpair⟩ := Option.map_eq_some_iff.mp h
    obtain ⟨rfl, rfl⟩ := Prod.mk.inj hpair
    exact .skipped false ((hcounts.trans hcalled).trans (counts_skip _ _ _ _)) (reports_appendError _ _ _ _) nofun

end Agent

/-! ## The agents of the boards -/

section Agents
variable {ctx : SyncContext} {boards : List BoardRow} {agents : List AgentRow} {s s' : SyncState}

/-- The agents of a sync: those that are updated, those that are skipped, and those it does not come to count. -/
structure AgentsCounted (ctx : SyncContext) (s s' : SyncState) (agents updated skipped rest : List AgentRow) : Prop where
  perm : (updated ++ skipped ++ rest).Perm agents
  counts : Counts s s' updated.length skipped.length
  ran : ∀ a ∈ updated, ∃ run ∈ (ctx.syncs a.id).provisions, run.ending = .done
  reasons : ∀ a ∈ skipped, a.boardId.any (isPaused ctx.lower ctx.db.memories) = true ∨ s'.Reports a
  complete : rest = [] ∨ ∃ a ∈ agents, TimesOut ctx (ctx.syncs a.id)

theorem AgentsCounted.nil (s : SyncState) : AgentsCounted ctx s s [] [] [] [] :=
  ⟨.refl _, .refl s, fun _ ha => absurd ha List.not_mem_nil, fun _ ha => absurd ha List.not_mem_nil, .inl rfl⟩

theorem AgentsCounted.updated {agent : AgentRow} {s₁ : SyncState} {updated skipped rest : List AgentRow}
    (h : AgentsCounted ctx s₁ s' agents updated skipped rest) (hcounts : Counts s s₁ 1 0)
    (hran : ∃ run ∈ (ctx.syncs agent.id).provisions, run.ending = .done) :
    AgentsCounted ctx s s' (agent :: agents) (agent :: updated) skipped rest where
  perm := h.perm.cons agent
  counts := by
    have htrans := hcounts.trans h.counts
    rwa [Nat.add_comm 1, Nat.zero_add] at htrans
  ran := List.forall_mem_cons.mpr ⟨hran, h.ran⟩
  reasons := h.reasons
  complete := h.complete.imp_right fun ⟨a, ha, htimeout⟩ => ⟨a, List.mem_cons_of_mem _ ha, htimeout⟩

theorem AgentsCounted.skipped {agent : AgentRow} {s₁ : SyncState} {updated skipped rest : List AgentRow}
    (h : AgentsCounted ctx s₁ s' agents updated skipped rest) (hcounts : Counts s s₁ 0 1)
    (hreason : agent.boardId.any (isPaused ctx.lower ctx.db.memories) = true ∨ s₁.Reports agent) :
    AgentsCounted ctx s s' (agent :: agents) updated (agent :: skipped) rest where
  perm := by
    have hmiddle : (updated ++ agent :: skipped ++ rest).Perm (agent :: (updated ++ skipped ++ rest)) :=
      List.Perm.append_right rest List.perm_middle
    exact hmiddle.trans (h.perm.cons agent)
  counts := by
    have htrans := hcounts.trans h.counts
    rwa [Nat.add_comm 1, Nat.zero_add] at htrans
  ran := h.ran
  reasons := List.forall_mem_cons.mpr ⟨hreason.imp_right h.counts.reports, h.reasons⟩
  complete := h.complete.imp_right fun ⟨a, ha, htimeout⟩ => ⟨a, List.mem_cons_of_mem _ ha, htimeout⟩

/-- **The agents of the boards** are each counted once, up to the first timeout. -/
theorem syncAgents_counted {stop : Bool} (hs : s.Timed) (h : syncAgents ctx boards agents s = some (stop, s')) :
    ∃ updated skipped rest, AgentsCounted ctx s s' agents updated skipped rest := by
  induction agents generalizing s with
  | nil =>
    obtain ⟨-, rfl⟩ := Prod.mk.inj (Option.some.inj h)
    exact ⟨[], [], [], .nil s⟩
  | cons agent agents ih =>
    rw [syncAgents] at h
    split at h
    · have hcounts := counts_skip s "Skipping agent: board not found for agent." agent none
      obtain ⟨updated, skipped, rest, hrest⟩ := ih (hcounts.timed hs) h
      exact ⟨updated, agent :: skipped, rest, hrest.skipped hcounts (.inr (reports_appendError _ _ _ _))⟩
    rename_i board hboard
    split at h
    · rename_i hpaused
      obtain ⟨updated, skipped, rest, hrest⟩ := ih ((counts_countSkipped s).timed hs) h
      refine ⟨updated, agent :: skipped, rest, hrest.skipped (counts_countSkipped s) (.inl ?_)⟩
      obtain ⟨boardId, hon, hfound⟩ := Option.bind_eq_some_iff.mp hboard
      have hid : decide (board.id = boardId) = true :=
        List.find?_some (p := fun board : BoardRow => decide (board.id = boardId)) hfound
      rw [hon, Option.any_some, ← of_decide_eq_true hid]
      exact hpaused
    split at h
    · cases h
    · rename_i s₁ hone
      obtain ⟨-, rfl⟩ := Prod.mk.inj (Option.some.inj h)
      cases syncOneAgent_counted hs hone with
      | skipped _ hcounts hreports htimeout =>
        refine ⟨[], [agent], agents, .refl _, hcounts, fun _ ha => absurd ha List.not_mem_nil, fun a ha => .inr ?_,
          .inr ⟨agent, List.mem_cons_self, htimeout rfl⟩⟩
        rw [List.mem_singleton.mp ha]
        exact hreports
      | uncounted hcounts htimeout =>
        exact ⟨[], [], agent :: agents, .refl _, hcounts, fun _ ha => absurd ha List.not_mem_nil,
          fun _ ha => absurd ha List.not_mem_nil, .inr ⟨agent, List.mem_cons_self, htimeout⟩⟩
    · rename_i s₁ hone
      cases syncOneAgent_counted hs hone with
      | updated hcounts hran =>
        obtain ⟨updated, skipped, rest, hrest⟩ := ih (hcounts.timed hs) h
        exact ⟨agent :: updated, skipped, rest, hrest.updated hcounts hran⟩
      | skipped _ hcounts hreports htimeout =>
        obtain ⟨updated, skipped, rest, hrest⟩ := ih (hcounts.timed hs) h
        exact ⟨updated, agent :: skipped, rest, hrest.skipped hcounts (.inr hreports)⟩

end Agents

/-! ## A sync that returns -/

section Accounts
variable (ctx : SyncContext)

/-- The agents a sync is to bring up to date: those of the selected boards of the gateway, or their leads. -/
def SyncContext.scope : List AgentRow :=
  ((boardsById (ctx.db.boards.filter fun board => board.gatewayId = some ctx.gateway.id) ctx.options.boardId).map
    (agentsOfBoards ctx.options ctx.db.agents)).getD []

/-- The sync can begin: it has a user to render for, and a gateway that answers. -/
structure SyncContext.Begins : Prop where
  user : ctx.userGiven = true ∨ ctx.db.ownerFound = true
  url : ctx.gateway.url ≠ ""
  answers : ∃ value, (templateSyncBackoff.run ctx.lower ctx.pingAt ctx.pings).ended = some (.returned value)

/-- The gateway's main agent is synced, and has no token to be read. -/
def SyncContext.MainTokenMissing : Prop :=
  ctx.options.includeMain = true ∧ ∃ agent, (ctx.db.agents.find? fun agent =>
    agent.gatewayId = ctx.gateway.id ∧ agent.boardId = none) = some agent ∧ TokenMissing ctx (ctx.syncs agent.id)

variable {ctx} {s s' : SyncState}

theorem syncMainAgent_counts (hs : s.Timed) (hmain : ctx.options.includeMain = true) (h : syncMainAgent ctx s = some s') :
    ∃ skipped, Counts s s' 0 skipped ∧ (¬ ctx.MainTokenMissing → skipped = 0) := by
  unfold syncMainAgent at h
  split at h
  · obtain rfl := Option.some.inj h
    exact ⟨0, counts_appendError _ _ _ _, fun _ => rfl⟩
  rename_i agent hagent
  dsimp only at h
  split at h
  · cases h
  · rename_i s₁ hresolved
    obtain rfl := Option.some.inj h
    obtain ⟨hcounts, -⟩ := resolveToken_counts hs hresolved
    exact ⟨0, hcounts, fun _ => rfl⟩
  · rename_i s₁ hresolved
    obtain rfl := Option.some.inj h
    obtain ⟨hcounts, -, hmissing⟩ := resolveToken_counts hs hresolved
    exact ⟨1, hcounts.trans (counts_appendError _ _ _ _), fun hnot => absurd ⟨hmain, agent, hagent, hmissing⟩ hnot⟩
  rename_i text s₁ hresolved
  have hcounts : Counts s s₁ 0 0 := resolveToken_counts hs hresolved
  refine ⟨0, ?_, fun _ => rfl⟩
  split at h
  · cases h
  · rename_i value s₂ hcall
    obtain rfl := Option.some.inj h
    have hupdated : Counts s₂ { s₂ with result.mainUpdated := true } 0 0 := ⟨rfl, rfl, List.Subset.refl _, rfl, rfl⟩
    exact (hcounts.trans (call_counts (hcounts.timed hs) hcall).1).trans hupdated
  · rename_i message s₂ hcall
    obtain rfl := Option.some.inj h
    exact (hcounts.trans (call_counts (hcounts.timed hs) hcall).1).trans (counts_appendError _ _ _ _)
  · rename_i ended s₂ hcall
    obtain ⟨message, -, rfl⟩ := Option.map_eq_some_iff.mp h
    exact (hcounts.trans (call_counts (hcounts.timed hs) hcall).1).trans (counts_appendError _ _ _ _)

theorem pingGateway_counts {message : Option String} (hs : s.Timed) (h : pingGateway ctx s = some (message, s')) :
    Counts s s' 0 0 ∧
      (message = none ↔
        ∃ value, (templateSyncBackoff.run ctx.lower ctx.pingAt ctx.pings).ended = some (.returned value)) := by
  unfold pingGateway at h
  split at h
  · rename_i value s₁ hcall
    obtain ⟨rfl, rfl⟩ := Prod.mk.inj (Option.some.inj h)
    exact ⟨(call_counts hs hcall).1, fun _ => ⟨value, (call_counts hs hcall).2⟩, fun _ => rfl⟩
  · rename_i text s₁ hcall
    obtain ⟨rfl, rfl⟩ := Prod.mk.inj (Option.some.inj h)
    obtain ⟨hcounts, hended⟩ := call_counts hs hcall
    refine ⟨hcounts, nofun, fun ⟨value, hvalue⟩ => ?_⟩
    rw [hended] at hvalue
    cases hvalue
  · rename_i text s₁ hcall
    obtain ⟨rfl, rfl⟩ := Prod.mk.inj (Option.some.inj h)
    obtain ⟨hcounts, hended⟩ := call_counts hs hcall
    refine ⟨hcounts, nofun, fun ⟨value, hvalue⟩ => ?_⟩
    rw [hended] at hvalue
    cases hvalue
  · cases h

structure Accounts (ctx : SyncContext) (result : TemplateSyncResult) (updated skipped rest : List AgentRow) : Prop where
  perm : (updated ++ skipped ++ rest).Perm ctx.scope
  agentsUpdated : result.agentsUpdated = updated.length
  agentsSkipped : ¬ ctx.MainTokenMissing → result.agentsSkipped = skipped.length
  ran : ∀ a ∈ updated, ∃ run ∈ (ctx.syncs a.id).provisions, run.ending = .done
  reasons : ∀ a ∈ skipped, a.boardId.any (isPaused ctx.lower ctx.db.memories) = true ∨
    ∃ e ∈ result.errors, e.agentId = some a.id
  complete : ctx.Begins → (∀ a ∈ ctx.scope, ¬ TimesOut ctx (ctx.syncs a.id)) → rest = []

variable {result : TemplateSyncResult}

theorem accounts_none (hupdated : result.agentsUpdated = 0) (hskipped : result.agentsSkipped = 0)
    (h : ctx.Begins → ctx.scope = []) : Accounts ctx result [] [] ctx.scope :=
  ⟨.refl _, hupdated, fun _ => hskipped, fun _ ha => absurd ha List.not_mem_nil, fun _ ha => absurd ha List.not_mem_nil,
    fun hbegins _ => h hbegins⟩

theorem timed_begin (ctx : SyncContext) : ctx.begin.Timed := ⟨rfl, rfl⟩

theorem accounts_of_returns (h : syncGatewayTemplates ctx = some result) :
    ∃ updated skipped rest, Accounts ctx result updated skipped rest := by
  unfold syncGatewayTemplates at h
  dsimp only at h
  split at h
  · rename_i hnobody
    obtain rfl := Option.some.inj h
    refine ⟨[], [], _, accounts_none rfl rfl fun hbegins => ?_⟩
    rcases hbegins.user with huser | huser
    · exact absurd (huser.symm.trans hnobody.1) Bool.noConfusion
    · exact absurd (huser.symm.trans hnobody.2) Bool.noConfusion
  split at h
  · rename_i hurl
    obtain rfl := Option.some.inj h
    exact ⟨[], [], _, accounts_none rfl rfl fun hbegins => absurd hurl hbegins.url⟩
  split at h
  · cases h
  · rename_i message s₁ hping
    obtain rfl := Option.some.inj h
    obtain ⟨hcounts, hfails⟩ := pingGateway_counts (timed_begin ctx) hping
    exact ⟨[], [], _, accounts_none hcounts.updated hcounts.skipped
      fun hbegins => absurd (hfails.mpr hbegins.answers) (Option.some_ne_none _)⟩
  rename_i s₁ hping
  obtain ⟨hpinged, -⟩ := pingGateway_counts (timed_begin ctx) hping
  split at h
  · rename_i hnone
    obtain rfl := Option.some.inj h
    refine ⟨[], [], _, accounts_none hpinged.updated hpinged.skipped fun _ => ?_⟩
    unfold SyncContext.scope
    rw [hnone]
    rfl
  rename_i boards hboards
  have hscope : ctx.scope = agentsOfBoards ctx.options ctx.db.agents boards := by
    unfold SyncContext.scope
    rw [hboards]
    rfl
  split at h
  · cases h
  rename_i stop s₂ hagents
  obtain ⟨updated, skipped, rest, hcounted⟩ := syncAgents_counted (hpinged.timed (timed_begin ctx)) hagents
  have hcounts := hpinged.trans hcounted.counts
  have haccounts : ∀ s₃ more, Counts s₂ s₃ 0 more → (¬ ctx.MainTokenMissing → more = 0) →
      Accounts ctx s₃.result updated skipped rest := by
    intro s₃ more hmore hnone
    have htotal := hcounts.trans hmore
    refine ⟨hscope ▸ hcounted.perm, ?_, fun hnot => ?_, hcounted.ran,
      fun a ha => (hcounted.reasons a ha).imp_right hmore.reports, fun _ hall => ?_⟩
    · rw [htotal.updated]
      exact (Nat.zero_add _).trans (Nat.zero_add _)
    · rw [htotal.skipped, hnone hnot]
      exact (Nat.zero_add _).trans (Nat.zero_add _)
    · refine hcounted.complete.resolve_right fun ⟨a, ha, htimeout⟩ => hall a ?_ htimeout
      rw [hscope]
      exact ha
  split at h
  · rename_i hmain
    obtain ⟨s₃, hsynced, rfl⟩ := Option.map_eq_some_iff.mp h
    obtain ⟨more, hmore, hnone⟩ := syncMainAgent_counts (hcounts.timed (timed_begin ctx)) hmain.2 hsynced
    exact ⟨updated, skipped, rest, haccounts s₃ more hmore hnone⟩
  · obtain rfl := Option.some.inj h
    exact ⟨updated, skipped, rest, haccounts s₂ 0 (.refl s₂) fun _ => rfl⟩

theorem counts_none_of_not_begins (hbegins : ¬ ctx.Begins) (h : syncGatewayTemplates ctx = some result) :
    result.agentsUpdated = 0 ∧ result.agentsSkipped = 0 ∧ result.errors ≠ [] := by
  have hreported (s : SyncState) (message : String) : (s.appendError message).result.errors ≠ [] := List.concat_ne_nil _ _
  unfold syncGatewayTemplates at h
  dsimp only at h
  split at h
  · obtain rfl := Option.some.inj h
    exact ⟨rfl, rfl, hreported _ _⟩
  rename_i hsomebody
  split at h
  · obtain rfl := Option.some.inj h
    exact ⟨rfl, rfl, hreported _ _⟩
  rename_i hurl
  split at h
  · cases h
  · rename_i message s₁ hping
    obtain rfl := Option.some.inj h
    obtain ⟨hcounts, -⟩ := pingGateway_counts (timed_begin ctx) hping
    exact ⟨hcounts.updated, hcounts.skipped, hreported _ _⟩
  · rename_i s₁ hping
    obtain ⟨-, hanswers⟩ := pingGateway_counts (timed_begin ctx) hping
    refine absurd ⟨?_, hurl, hanswers.mp rfl⟩ hbegins
    rw [not_and_or, Bool.not_eq_false, Bool.not_eq_false] at hsomebody
    exact hsomebody

/-- **Template sync accounts for every agent** in scope: each is counted at most once, as updated by
a run that has succeeded, or as skipped and reported or with its board paused. All are counted in a
sync that begins and comes to no timeout, none in one that cannot begin. -/
theorem syncGatewayTemplates_accounts (ctx : SyncContext) (h : syncGatewayTemplates ctx = some result) :
    (∃ updated skipped rest, Accounts ctx result updated skipped rest) ∧
      (ctx.Begins → (∀ a ∈ ctx.scope, ¬ TimesOut ctx (ctx.syncs a.id)) → ¬ ctx.MainTokenMissing →
        result.agentsUpdated + result.agentsSkipped = ctx.scope.length) ∧
      (¬ ctx.Begins → result.agentsUpdated = 0 ∧ result.agentsSkipped = 0 ∧ result.errors ≠ []) := by
  obtain ⟨updated, skipped, rest, haccounts⟩ := accounts_of_returns h
  refine ⟨⟨updated, skipped, rest, haccounts⟩, fun hbegins hall hmain => ?_, fun hnot => counts_none_of_not_begins hnot h⟩
  have hlength := haccounts.perm.length_eq
  rw [haccounts.complete hbegins hall, List.append_nil, List.length_append] at hlength
  rw [haccounts.agentsUpdated, haccounts.agentsSkipped hmain, hlength]

end Accounts

/-! ## A gateway with two agents -/

def freshToken : RotationToken where
  text := "fresh"
  salt := "salt"
  oneLine := by decide
  nonempty := by decide

def syncOfTwo (ping : Except RunError (Option Json)) : SyncContext where
  lower := id
  pbkdf2 token salt _ := token ++ salt
  gateway := { id := 1, url := "ws://gateway", workspaceRoot := "/root" }
  userGiven := true
  options := { includeMain := false, rotateTokens := true }
  db :=
    { ownerFound := true
      boards := [{ id := 2, organizationId := 1, gatewayId := some 1 }]
      memories := []
      agents := [{ id := 3, boardId := some 2, gatewayId := 1 }, { id := 4, boardId := some 2, gatewayId := 1 }] }
  pingAt := 0
  pings := [⟨ping, 0, 0⟩]
  syncs _ :=
    { readAt := 0, reads := [⟨.ok (some (.str "")), 0, 0⟩], missing := freshToken, mismatched := freshToken
      provisionAt := 0, provisions := [⟨.done, 0, 0⟩] }

/-- Both are updated. -/
theorem syncGatewayTemplates_accounts_example : ∃ result, syncGatewayTemplates (syncOfTwo (.ok (some .null))) = some result ∧
    result.agentsUpdated + result.agentsSkipped = (syncOfTwo (.ok (some .null))).scope.length := by
  obtain ⟨result, hresult⟩ : ∃ result, syncGatewayTemplates (syncOfTwo (.ok (some .null))) = some result := ⟨_, rfl⟩
  refine ⟨result, hresult, (syncGatewayTemplates_accounts _ hresult).2.1 ⟨.inl rfl, by decide, some .null, rfl⟩ ?_ ?_⟩
  · rintro a - (⟨message, htimeout⟩ | ⟨message, htimeout⟩)
    · cases htimeout
    · cases htimeout
  · rintro ⟨hmain, -⟩
    cases hmain

/-- **A sync that cannot begin** counts no agents. -/
theorem not_syncGatewayTemplates_accounts : ¬ ∀ (ctx : SyncContext) (result : TemplateSyncResult),
    syncGatewayTemplates ctx = some result → result.agentsUpdated + result.agentsSkipped = ctx.scope.length := by
  intro h
  have hzero : syncGatewayTemplates (syncOfTwo (.error (.gateway "denied"))) = some
      { gatewayId := 1, includeMain := false, resetSessions := false, errors := [{ message := "denied" }] } := rfl
  have hsum := h _ _ hzero
  have hscope : (syncOfTwo (.error (.gateway "denied"))).scope.length = 2 := rfl
  rw [hscope] at hsum
  cases hsum

end SiloForge
