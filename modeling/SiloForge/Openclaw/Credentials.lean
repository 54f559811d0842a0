import SiloForge.Lib.Machine
import SiloForge.Openclaw.Backoff
import SiloForge.Openclaw.Provisioning

/-!
# The token of an agent and its hash

A new token is minted before the gateway is called: its hash is committed with the row, at once by a request, with the
run by a queued task; the token itself reaches the agent by its file TOOLS.md alone. A run whose calls fail before that
file is written commits the hash all the same; a run that is cut off after it is rolled back.

* `Agrees` : the committed hash verifies the token the agent is shown;
* `KeepsCredentials` : the runs after which it does;
* `agrees_of_done` : a run that succeeds makes it so, whatever was before;
* `credentialsAgree` : after every run of a sequence of them it does.
-/

namespace SiloForge

open Lib

/-! ## Runs -/

structure FreshToken where
  text : String
  salt : String
  oneLine : OneLine text.toList

def FreshToken.hash (token : FreshToken) (pbkdf2 : Pbkdf2) : TokenHash := hashAgentToken pbkdf2 token.text token.salt

/-- What a run meets: the templates in its context, the gateway, the times, and whether the organization has an owner. -/
structure RunInput where
  templates : Templates
  gateway : Gateway
  begun : Time
  ended : Time
  ownerFound : Bool := true

/-- The token of a run: its caller has it, or the run mints it. -/
inductive RunToken where
  | given (text : String)
  | minted (token : FreshToken)

def RunToken.text : RunToken → String
  | .given text => text
  | .minted token => token.text

def RunToken.hash? (pbkdf2 : Pbkdf2) : RunToken → Option TokenHash
  | .given _ => none
  | .minted token => some (token.hash pbkdf2)

structure CredentialState where
  row : AgentRow
  files : GatewayFiles

structure FinishedRun where
  state : CredentialState
  run : GatewayRun
  calls : List GatewayCall

section Runs
variable (pbkdf2 : Pbkdf2) (target : RunTarget)

/-- The calls of a run: none for a gateway's main agent where there is nobody to write for. -/
def runCalls (s : CredentialState) (options : LifecycleOptions) (token : RunToken) (input : RunInput) :
    GatewayRun × List GatewayCall :=
  if target.boardId = none ∧ input.ownerFound = false then ({ ending := .cut }, [])
  else
    gatewayRun input.templates target (s.row.beginLifecycle input.begun options (token.hash? pbkdf2)) token.text options
      input.gateway

def lifecycleRun (s : CredentialState) (options : LifecycleOptions) (token : RunToken) (input : RunInput) :
    FinishedRun :=
  let calls := runCalls pbkdf2 target s options token input
  { state := { row := s.row.runLifecycle input.begun input.ended options (token.hash? pbkdf2) calls.1,
               files := calls.2.foldl GatewayFiles.after s.files }
    run := calls.1
    calls := calls.2 }

def CredentialState.mint (s : CredentialState) (token : FreshToken) : CredentialState :=
  { s with row := s.row.mintAgentToken pbkdf2 token.text token.salt }

/-! ## The template sync -/

inductive ToolsRead where
  | answered
  | failed
  | timedOut

def CredentialState.rotate (s : CredentialState) (token : FreshToken) (now : Time) : CredentialState :=
  { s with row := { s.row.mintAgentToken pbkdf2 token.text token.salt with updatedAt := now } }

/-- The token a sync goes on with, the fresh ones the row has got on the way, and whether the sync warns of it. -/
inductive AuthToken where
  | found (text : String) (minted : List FreshToken) (warned : Bool)
  | missing

def checkAgentToken (rotateTokens : Bool) (mismatched : FreshToken) (hash : Option TokenHash)
    (minted : List FreshToken) (text : String) : AuthToken :=
  if hash.all (verifyAgentToken pbkdf2 text) then .found text minted false
  else if rotateTokens then .found mismatched.text (minted ++ [mismatched]) false
  else .found text minted true

/-- `_resolve_agent_auth_token`, from what was read of TOOLS.md, with the tokens it may mint. -/
def resolveAgentAuthToken (hash : Option TokenHash) (rotateTokens : Bool) (missing mismatched : FreshToken)
    (tools : Option String) : AuthToken :=
  match tools.bind existingAuthToken with
  | some text => checkAgentToken pbkdf2 rotateTokens mismatched hash [] text
  | none =>
    if rotateTokens then
      checkAgentToken pbkdf2 rotateTokens mismatched (some (missing.hash pbkdf2)) [missing] missing.text
    else .missing

def CredentialState.resolveToken (s : CredentialState) (keys : KeyTexts) (rotateTokens : Bool) (token : FreshToken)
    (now : Time) (read : ToolsRead) : Option (CredentialState × String) :=
  let resolved := resolveAgentAuthToken pbkdf2 s.row.agentTokenHash rotateTokens token token
  let resolved : Option AuthToken :=
    match read with
    | .answered => some (resolved (s.files (gatewayAgentId keys target s.row) "TOOLS.md"))
    | .failed => some (resolved none)
    | .timedOut => none
  match resolved with
  | some (.found text minted _) => some (minted.foldl (fun s token => s.rotate pbkdf2 token now) s, text)
  | _ => none

/-- `_is_transient_gateway_error`, of the error of a run. -/
def isTransientGatewayError (keys : KeyTexts) (message : String) : Bool :=
  isTransientGatewayText keys.lower ("Gateway update failed: " ++ message)

def GatewayRun.isTransient (run : GatewayRun) (keys : KeyTexts) : Bool :=
  match run.ending with
  | .gatewayError message => isTransientGatewayError keys message
  | _ => false

/-- The runs of the sync for one agent: again while the gateway's error is transient, and there is time. -/
def syncRuns (options : LifecycleOptions) (text : String) : CredentialState → List RunInput → List FinishedRun
  | _, [] => []
  | s, input :: inputs =>
    let finished := lifecycleRun pbkdf2 target s options (.given text) input
    finished ::
      if finished.run.isTransient input.templates.keys then syncRuns options text finished.state inputs else []

/-! ## Sequences of runs -/

/-- A request commits a new token and runs; a run mints one itself, for a queued task or the gateway's main agent; the
template sync goes on with the token it reads, or a new one. -/
inductive CredentialAction where
  | request (options : LifecycleOptions) (token : FreshToken) (input : RunInput)
  | task (options : LifecycleOptions) (token : FreshToken) (input : RunInput)
  | sync (options : LifecycleOptions) (rotateTokens : Bool) (token : FreshToken) (now : Time) (read : ToolsRead)
      (input : RunInput) (retries : List RunInput)

def CredentialState.after (s : CredentialState) : CredentialAction → List CredentialState
  | .request options token input =>
    [(lifecycleRun pbkdf2 target (s.mint pbkdf2 token) options (.given token.text) input).state]
  | .task options token input => [(lifecycleRun pbkdf2 target s options (.minted token) input).state]
  | .sync options rotateTokens token now read input retries =>
    match s.resolveToken pbkdf2 target input.templates.keys rotateTokens token now read with
    | none => []
    | some (s, text) => (syncRuns pbkdf2 target options text s (input :: retries)).map (·.state)

def credentialMachine : Machine CredentialState CredentialAction where
  commits s action := s.after pbkdf2 target action

end Runs

/-! ## Agreement -/

section Agreement
variable (pbkdf2 : Pbkdf2) (target : RunTarget)

def shownTo (s : CredentialState) : Option String :=
  (s.files (homeAgentId target s.row.toAgent) "TOOLS.md").bind shownToken

def Verifies (s : CredentialState) (text : String) : Prop :=
  ∃ hash, s.row.agentTokenHash = some hash ∧ verifyAgentToken pbkdf2 text hash = true

/-- The committed hash verifies the token the agent is shown. -/
def Agrees (s : CredentialState) : Prop := ∀ text, shownTo target s = some text → Verifies pbkdf2 s text

def FinishedRun.wroteTools (finished : FinishedRun) : Bool :=
  finished.calls.any (GatewayCall.writesToolsOf (homeAgentId target finished.state.row.toAgent))

/-- A run with a token new to the row has TOOLS.md written if its hash is committed, or there is no
token in the file, and not written if it is rolled back. The template sync goes on with a token the
row verifies, or never writes the file. -/
def KeepsCredentials (s : CredentialState) : CredentialAction → Prop
  | .request options token input =>
    (lifecycleRun pbkdf2 target (s.mint pbkdf2 token) options (.given token.text) input).wroteTools target = true ∨
      shownTo target s = none
  | .task options token input =>
    let finished := lifecycleRun pbkdf2 target s options (.minted token) input
    if finished.run.commits then finished.wroteTools target = true ∨ shownTo target s = none
    else finished.wroteTools target = false
  | .sync options rotateTokens token now read input retries =>
    ∀ s' text, s.resolveToken pbkdf2 target input.templates.keys rotateTokens token now read = some (s', text) →
      (Verifies pbkdf2 s' text ∧
        (s' = s ∨ (lifecycleRun pbkdf2 target s' options (.given text) input).wroteTools target = true ∨
          shownTo target s = none)) ∨
      (s' = s ∧ ∀ finished ∈ syncRuns pbkdf2 target options text s' (input :: retries), finished.wroteTools target = false)

end Agreement

section OneRun
variable (pbkdf2 : Pbkdf2) (target : RunTarget) (s : CredentialState) (options : LifecycleOptions) (token : RunToken)
  (input : RunInput)

theorem lifecycleRun_row : let finished := lifecycleRun pbkdf2 target s options token input
    finished.state.row.toAgent = s.row.toAgent ∧
      finished.state.row.agentTokenHash =
        if finished.run.commits then (token.hash? pbkdf2).or s.row.agentTokenHash else s.row.agentTokenHash :=
  s.row.runLifecycle_hash input.begun input.ended options (token.hash? pbkdf2)

/-- **The token shown after a run** is that of the run, or the one before. -/
theorem shownTo_lifecycleRun (htoken : OneLine token.text.toList) :
    let finished := lifecycleRun pbkdf2 target s options token input
    shownTo target finished.state =
      if finished.wroteTools target then some token.text else shownTo target s := by
  intro finished
  have hhome : finished.state.row.toAgent = s.row.toAgent := (lifecycleRun_row ..).1
  obtain ⟨content, hcontent, hfiles⟩ : ∃ content, shownToken content = some token.text ∧
      finished.state.files (homeAgentId target s.row.toAgent) "TOOLS.md" =
        if finished.calls.any (GatewayCall.writesToolsOf (homeAgentId target s.row.toAgent)) then some content
        else s.files (homeAgentId target s.row.toAgent) "TOOLS.md" := by
    show ∃ content, _ ∧ (runCalls pbkdf2 target s options token input).2.foldl GatewayFiles.after s.files _ _ =
      if (runCalls pbkdf2 target s options token input).2.any _ then _ else _
    unfold runCalls
    split
    · exact ⟨_, shownToken_toolsMd input.templates.baseUrl_oneLine htoken "", rfl⟩
    · exact tools_after_gatewayRun input.templates target _ htoken options input.gateway s.files
  unfold shownTo FinishedRun.wroteTools
  rw [hhome, hfiles]
  split
  · exact hcontent
  · rfl

end OneRun

/-! ## Keeping the agreement -/

section Keeping
variable {pbkdf2 : Pbkdf2} {target : RunTarget} {s t : CredentialState} {options : LifecycleOptions} {input : RunInput}
  {text : String}

theorem Verifies.congr (h : Verifies pbkdf2 s text) (hhash : t.row.agentTokenHash = s.row.agentTokenHash) :
    Verifies pbkdf2 t text := by
  unfold Verifies
  rw [hhash]
  exact h

theorem Agrees.of_shown {wrote : Bool} {before : Option String}
    (hshown : shownTo target t = if wrote then some text else before) (hwrote : wrote = true → Verifies pbkdf2 t text)
    (hbefore : wrote = false → ∀ shown, before = some shown → Verifies pbkdf2 t shown) : Agrees pbkdf2 target t := by
  intro shown hs
  rw [hshown] at hs
  cases wrote with
  | true =>
    obtain rfl : text = shown := Option.some.inj hs
    exact hwrote rfl
  | false => exact hbefore rfl shown hs

theorem lifecycleRun_given_hash :
    (lifecycleRun pbkdf2 target s options (.given text) input).state.row.agentTokenHash = s.row.agentTokenHash := by
  have hrow := (lifecycleRun_row pbkdf2 target s options (.given text) input).2
  rwa [show (RunToken.given text).hash? pbkdf2 = none from rfl, Option.none_or, ite_self] at hrow

/-- **A run with a token the row verifies** leaves the agreement where it was, or where TOOLS.md is written. -/
theorem agrees_given (htext : OneLine text.toList) (hverifies : Verifies pbkdf2 s text)
    (hfirst : (lifecycleRun pbkdf2 target s options (.given text) input).wroteTools target = true ∨
      Agrees pbkdf2 target s) :
    Agrees pbkdf2 target (lifecycleRun pbkdf2 target s options (.given text) input).state := by
  refine .of_shown (shownTo_lifecycleRun pbkdf2 target s options (.given text) input htext)
    (fun _ => hverifies.congr lifecycleRun_given_hash) fun hnot shown hs => ?_
  exact (hfirst.resolve_left (Bool.eq_false_iff.mp hnot) shown hs).congr lifecycleRun_given_hash

theorem agrees_unwritten (htext : OneLine text.toList) (hagrees : Agrees pbkdf2 target s)
    (hnot : (lifecycleRun pbkdf2 target s options (.given text) input).wroteTools target = false) :
    Agrees pbkdf2 target (lifecycleRun pbkdf2 target s options (.given text) input).state := by
  refine .of_shown (shownTo_lifecycleRun pbkdf2 target s options (.given text) input htext) ?_
    fun _ shown hs => (hagrees shown hs).congr lifecycleRun_given_hash
  intro hwrote
  rw [hnot] at hwrote
  cases hwrote

theorem mem_syncRuns {inputs : List RunInput} {finished : FinishedRun}
    (h : finished ∈ syncRuns pbkdf2 target options text s (input :: inputs)) :
    finished = lifecycleRun pbkdf2 target s options (.given text) input ∨
      finished ∈ syncRuns pbkdf2 target options text
        (lifecycleRun pbkdf2 target s options (.given text) input).state inputs := by
  rw [syncRuns] at h
  rcases List.mem_cons.mp h with rfl | h
  · exact .inl rfl
  · split at h
    · exact .inr h
    · exact absurd h List.not_mem_nil

theorem agrees_syncRuns (htext : OneLine text.toList) (inputs : List RunInput) (hverifies : Verifies pbkdf2 s text)
    (hfirst : (lifecycleRun pbkdf2 target s options (.given text) input).wroteTools target = true ∨
      Agrees pbkdf2 target s) :
    ∀ finished ∈ syncRuns pbkdf2 target options text s (input :: inputs), Agrees pbkdf2 target finished.state := by
  induction inputs generalizing s input with
  | nil =>
    intro finished h
    rcases mem_syncRuns h with rfl | h
    · exact agrees_given htext hverifies hfirst
    · exact absurd h List.not_mem_nil
  | cons next inputs ih =>
    intro finished h
    rcases mem_syncRuns h with rfl | h
    · exact agrees_given htext hverifies hfirst
    · exact ih (hverifies.congr lifecycleRun_given_hash) (.inr (agrees_given htext hverifies hfirst)) finished h

theorem agrees_syncRuns_unwritten (htext : OneLine text.toList) (inputs : List RunInput)
    (hagrees : Agrees pbkdf2 target s)
    (hnot : ∀ finished ∈ syncRuns pbkdf2 target options text s inputs, finished.wroteTools target = false) :
    ∀ finished ∈ syncRuns pbkdf2 target options text s inputs, Agrees pbkdf2 target finished.state := by
  fun_induction syncRuns pbkdf2 target options text s inputs with
  | case1 => exact fun _ h => absurd h List.not_mem_nil
  | case2 s input inputs run ih =>
    obtain ⟨hrun, hrest⟩ := List.forall_mem_cons.mp hnot
    have hfirst := agrees_unwritten htext hagrees hrun
    refine List.forall_mem_cons.mpr ⟨hfirst, ?_⟩
    split
    · rename_i htransient
      rw [if_pos htransient] at hrest
      exact ih hfirst hrest
    · exact fun _ h => absurd h List.not_mem_nil

variable {token : FreshToken}

/-- **A run that mints its token**, where TOOLS.md is written if and only if it is committed. -/
theorem agrees_minted (hagrees : Agrees pbkdf2 target s)
    (hkeeps : let finished := lifecycleRun pbkdf2 target s options (.minted token) input
      if finished.run.commits then finished.wroteTools target = true ∨ shownTo target s = none
      else finished.wroteTools target = false) :
    Agrees pbkdf2 target (lifecycleRun pbkdf2 target s options (.minted token) input).state := by
  have hrow := (lifecycleRun_row pbkdf2 target s options (.minted token) input).2
  refine .of_shown (shownTo_lifecycleRun pbkdf2 target s options (.minted token) input token.oneLine) ?_ ?_
  · intro hwrote
    dsimp only at hkeeps hrow
    split at hkeeps
    · rename_i hcommits
      rw [if_pos hcommits] at hrow
      exact ⟨token.hash pbkdf2, hrow, verifyAgentToken_hashAgentToken ..⟩
    · rw [hkeeps] at hwrote
      cases hwrote
  · intro hnot shown hs
    dsimp only at hkeeps hrow
    split at hkeeps
    · rcases hkeeps with hwrote | hnone
      · rw [hnot] at hwrote
        cases hwrote
      · rw [hnone] at hs
        cases hs
    · rename_i hcut
      rw [if_neg hcut] at hrow
      exact (hagrees shown hs).congr hrow

theorem verifies_mint (s : CredentialState) (token : FreshToken) : Verifies pbkdf2 (s.mint pbkdf2 token) token.text :=
  ⟨token.hash pbkdf2, rfl, verifyAgentToken_hashAgentToken ..⟩

theorem wroteTools_of_done {token : RunToken} (hserves : input.gateway.Serves input.templates.keys)
    (hdone : (lifecycleRun pbkdf2 target s options token input).run.ending = .done) :
    (lifecycleRun pbkdf2 target s options token input).wroteTools target = true := by
  have hhome := (lifecycleRun_row pbkdf2 target s options token input).1
  unfold FinishedRun.wroteTools
  rw [hhome]
  change (runCalls pbkdf2 target s options token input).1.ending = _ at hdone
  show (runCalls pbkdf2 target s options token input).2.any _ = true
  unfold runCalls at hdone ⊢
  split at hdone
  · cases hdone
  · rename_i hrun
    rw [if_neg hrun]
    exact writesTools_of_done hserves hdone

/-- **A run that succeeds** brings the agreement back, at a gateway that answers only what it has done. -/
theorem agrees_of_done {token : RunToken} (htoken : OneLine token.text.toList)
    (hverifies : token.hash? pbkdf2 = none → Verifies pbkdf2 s token.text)
    (hserves : input.gateway.Serves input.templates.keys)
    (hdone : (lifecycleRun pbkdf2 target s options token input).run.ending = .done) :
    Agrees pbkdf2 target (lifecycleRun pbkdf2 target s options token input).state := by
  have hrow := (lifecycleRun_row pbkdf2 target s options token input).2
  have hcommits : (lifecycleRun pbkdf2 target s options token input).run.commits = true := by
    unfold GatewayRun.commits
    rw [hdone]
    rfl
  rw [if_pos hcommits] at hrow
  have hwrote := wroteTools_of_done hserves hdone
  refine .of_shown (shownTo_lifecycleRun pbkdf2 target s options token input htoken) (fun _ => ?_) fun hnot => ?_
  · cases token with
    | given text => exact (hverifies rfl).congr hrow
    | minted token => exact ⟨token.hash pbkdf2, hrow, verifyAgentToken_hashAgentToken ..⟩
  · rw [hwrote] at hnot
    cases hnot

theorem checkAgentToken_eq_found {rotateTokens warned : Bool} {hash : Option TokenHash}
    {minted minted' : List FreshToken} {found : String}
    (h : checkAgentToken pbkdf2 rotateTokens token hash minted found = .found text minted' warned) :
    (text = found ∧ minted' = minted) ∨ (text = token.text ∧ minted' = minted ++ [token]) := by
  unfold checkAgentToken at h
  split at h
  · cases h
    exact .inl ⟨rfl, rfl⟩
  split at h
  · cases h
    exact .inr ⟨rfl, rfl⟩
  · cases h
    exact .inl ⟨rfl, rfl⟩

/-- The sync goes on with a token of one line, on a row that has at most got that token. -/
theorem resolveAgentAuthToken_eq_found {rotateTokens warned : Bool} {hash : Option TokenHash}
    {minted : List FreshToken} {tools : Option String}
    (h : resolveAgentAuthToken pbkdf2 hash rotateTokens token token tools = .found text minted warned) :
    OneLine text.toList ∧ (minted = [] ∨ minted = [token]) := by
  unfold resolveAgentAuthToken at h
  split at h
  · rename_i found hfound
    obtain ⟨content, -, hcontent⟩ := Option.bind_eq_some_iff.mp hfound
    rcases checkAgentToken_eq_found h with ⟨rfl, rfl⟩ | ⟨rfl, rfl⟩
    · exact ⟨(oneLine_existingAuthToken hcontent).1, .inl rfl⟩
    · exact ⟨token.oneLine, .inr rfl⟩
  split at h
  · -- the row verifies the token it has just got
    have hverifies : (some (token.hash pbkdf2)).all (verifyAgentToken pbkdf2 token.text) = true :=
      verifyAgentToken_hashAgentToken ..
    unfold checkAgentToken at h
    rw [if_pos hverifies] at h
    cases h
    exact ⟨token.oneLine, .inr rfl⟩
  · cases h

theorem resolveToken_eq_some {keys : KeyTexts} {rotateTokens : Bool} {now : Time}
    {read : ToolsRead} (h : s.resolveToken pbkdf2 target keys rotateTokens token now read = some (t, text)) :
    OneLine text.toList ∧ (t = s ∨ t = s.rotate pbkdf2 token now) := by
  unfold CredentialState.resolveToken at h
  dsimp only at h
  split at h
  · rename_i found minted warned hfound
    obtain ⟨rfl, rfl⟩ := Prod.mk.inj (Option.some.inj h)
    have hresolved : OneLine found.toList ∧ (minted = [] ∨ minted = [token]) := by
      cases read with
      | answered | failed => exact resolveAgentAuthToken_eq_found (Option.some.inj hfound)
      | timedOut => cases hfound
    refine ⟨hresolved.1, ?_⟩
    rcases hresolved.2 with rfl | rfl
    · exact .inl rfl
    · exact .inr rfl
  · cases h

/-- **One action** that keeps the agreement. -/
theorem agrees_step {action : CredentialAction} (hagrees : Agrees pbkdf2 target s)
    (hkeeps : KeepsCredentials pbkdf2 target s action) : ∀ t ∈ s.after pbkdf2 target action, Agrees pbkdf2 target t := by
  cases action with
  | request options token input =>
    intro t ht
    rw [List.mem_singleton.mp ht]
    refine agrees_given token.oneLine (verifies_mint s token) (hkeeps.imp_right fun hnone shown hs => ?_)
    rw [show shownTo target (s.mint pbkdf2 token) = shownTo target s from rfl, hnone] at hs
    cases hs
  | task options token input =>
    intro t ht
    rw [List.mem_singleton.mp ht]
    exact agrees_minted hagrees hkeeps
  | sync options rotateTokens token now read input retries =>
    intro t ht
    dsimp only [CredentialState.after] at ht
    split at ht
    · exact absurd ht List.not_mem_nil
    rename_i s' text hresolve
    obtain ⟨htext, hstate⟩ := resolveToken_eq_some hresolve
    have hshown : shownTo target s' = shownTo target s := by
      rcases hstate with rfl | rfl <;> rfl
    obtain ⟨finished, hfinished, rfl⟩ := List.mem_map.mp ht
    rcases hkeeps s' text hresolve with ⟨hverifies, hfirst⟩ | ⟨rfl, hnot⟩
    · refine agrees_syncRuns htext retries hverifies ?_ finished hfinished
      rcases hfirst with rfl | hwrote | hnone
      · exact .inr hagrees
      · exact .inl hwrote
      · refine .inr fun shown hs => ?_
        rw [hshown, hnone] at hs
        cases hs
    · exact agrees_syncRuns_unwritten htext (input :: retries) hagrees hnot finished hfinished

end Keeping

/-! ## Every sequence of runs -/

/-- **The hash and the token agree** after every run of a sequence of runs that keep it so. -/
theorem credentialsAgree {pbkdf2 : Pbkdf2} {target : RunTarget} {start : CredentialState}
    {actions : List CredentialAction} (hstart : Agrees pbkdf2 target start)
    (h : (credentialMachine pbkdf2 target).Along (KeepsCredentials pbkdf2 target) start actions) :
    ∀ t ∈ (credentialMachine pbkdf2 target).committed start actions, Agrees pbkdf2 target t :=
  Machine.committed_inv (Agrees pbkdf2 target) (fun _ _ hs hkeeps => agrees_step hs hkeeps) hstart h

namespace Sample

def plainHash : Pbkdf2 := fun token salt _ => token ++ salt

def templates : Templates where
  keys := { lower := id, uuidHex := "0" }
  baseUrl := "http://silo"
  baseUrl_oneLine := by decide
  toolsRest := fun _ _ => ""
  render := fun name _ _ => .ok name

def newToken : FreshToken where
  text := "new"
  salt := "s"
  oneLine := by decide

def keyed : CredentialState where
  row := { id := 1, boardId := some 1, gatewayId := 1, status := "online",
           agentTokenHash := some (hashAgentToken plainHash "old" "s") }
  files := fun _ name => if name = "TOOLS.md" then some (toolsMd "http://silo" "old" "") else none

def onBoard : RunTarget := { gateway := { id := 1, url := "ws://gateway", workspaceRoot := "/agents" }, boardId := some 1 }

def willing : Gateway := fun _ => { done := true, answer := .ok (.obj []) }

def away : Gateway := fun _ => { done := false, answer := .error (.gateway "gateway closed") }

def slow : Gateway
  | .filesSet _ "USER.md" _ => { done := false, answer := .error .cut }
  | _ => { done := true, answer := .ok (.obj []) }

def runAt (gateway : Gateway) : RunInput := { templates, gateway, begun := 1000, ended := 2000 }

end Sample

theorem shownTo_keyed : shownTo Sample.onBoard Sample.keyed = some "old" := by
  have hfile : Sample.keyed.files (homeAgentId Sample.onBoard Sample.keyed.row.toAgent) "TOOLS.md" =
      some (toolsMd "http://silo" "old" "") := by
    unfold Sample.keyed
    dsimp only
    exact if_pos rfl
  unfold shownTo
  rw [hfile, Option.bind_some]
  exact shownToken_toolsMd Sample.templates.baseUrl_oneLine (by decide) ""

theorem agrees_keyed : Agrees Sample.plainHash Sample.onBoard Sample.keyed := by
  intro text htext
  obtain rfl : "old" = text := Option.some.inj (shownTo_keyed.symm.trans htext)
  exact ⟨_, rfl, verifyAgentToken_hashAgentToken ..⟩

/-- An update by a user, at a gateway that does what it is asked for. -/
theorem credentialsAgree_updated :
    ((credentialMachine Sample.plainHash Sample.onBoard).committed Sample.keyed
      [.request (.ofUser "update" "updated" false) Sample.newToken (Sample.runAt Sample.willing)]).Forall
        (Agrees Sample.plainHash Sample.onBoard) := by
  have hwrote : (lifecycleRun Sample.plainHash Sample.onBoard (Sample.keyed.mint Sample.plainHash Sample.newToken)
      (.ofUser "update" "updated" false) (.given Sample.newToken.text) (Sample.runAt Sample.willing)).wroteTools
        Sample.onBoard = true := by decide
  exact List.forall_iff_forall_mem.mpr (credentialsAgree agrees_keyed ⟨.inl hwrote, trivial⟩)

theorem agrees_of_done_updated : Agrees Sample.plainHash Sample.onBoard (lifecycleRun Sample.plainHash Sample.onBoard
    Sample.keyed .ofReconcile (.minted Sample.newToken) (Sample.runAt Sample.willing)).state :=
  agrees_of_done Sample.newToken.oneLine (fun h => by cases h) ⟨fun _ _ _ => rfl, fun _ _ _ h => by cases h⟩ (by decide)

theorem not_agrees_lifecycleRun {s : CredentialState} {options : LifecycleOptions} (token : RunToken) {input : RunInput}
    {shown : String} {hash : TokenHash} (htoken : OneLine token.text.toList)
    (hshown : (if (lifecycleRun Sample.plainHash Sample.onBoard s options token input).wroteTools Sample.onBoard then
      some token.text else shownTo Sample.onBoard s) = some shown)
    (hhash : (lifecycleRun Sample.plainHash Sample.onBoard s options token input).state.row.agentTokenHash = some hash)
    (hother : verifyAgentToken Sample.plainHash shown hash = false) :
    ¬ Agrees Sample.plainHash Sample.onBoard (lifecycleRun Sample.plainHash Sample.onBoard s options token input).state := by
  intro h
  obtain ⟨hash', hhash', hverifies⟩ := h shown ((shownTo_lifecycleRun _ _ s options token input htoken).trans hshown)
  obtain rfl : hash = hash' := Option.some.inj (hhash.symm.trans hhash')
  rw [hother] at hverifies
  cases hverifies

/-- **A run leaves the agent locked out**: an update commits the hash of a token the agent never
gets while its gateway is away. -/
theorem not_credentialsAgree :
    (¬ ∀ pbkdf2 target start options token input, Agrees pbkdf2 target start →
      ∀ t ∈ (credentialMachine pbkdf2 target).committed start [.request options token input], Agrees pbkdf2 target t) ∧
    (¬ ∀ pbkdf2 target start options token input, Agrees pbkdf2 target start →
      ∀ t ∈ (credentialMachine pbkdf2 target).committed start [.task options token input], Agrees pbkdf2 target t) := by
  constructor
  · intro h
    have hagrees := h Sample.plainHash Sample.onBoard Sample.keyed (.ofUser "update" "updated" false) Sample.newToken
      (Sample.runAt Sample.away) agrees_keyed _ (List.mem_singleton.mpr rfl)
    have hnot : (lifecycleRun Sample.plainHash Sample.onBoard (Sample.keyed.mint Sample.plainHash Sample.newToken)
        (.ofUser "update" "updated" false) (.given "new") (Sample.runAt Sample.away)).wroteTools
          Sample.onBoard = false := by decide
    have hhash : (lifecycleRun Sample.plainHash Sample.onBoard (Sample.keyed.mint Sample.plainHash Sample.newToken)
        (.ofUser "update" "updated" false) (.given "new") (Sample.runAt Sample.away)).state.row.agentTokenHash =
          some (Sample.newToken.hash Sample.plainHash) := by decide
    have hshown : (if false = true then some "new" else shownTo Sample.onBoard
        (Sample.keyed.mint Sample.plainHash Sample.newToken)) = some "old" := shownTo_keyed
    rw [← hnot] at hshown
    exact not_agrees_lifecycleRun (.given "new") Sample.newToken.oneLine hshown hhash
      (by decide) hagrees
  · intro h
    have hagrees := h Sample.plainHash Sample.onBoard Sample.keyed .ofReconcile Sample.newToken
      (Sample.runAt Sample.slow) agrees_keyed _ (List.mem_singleton.mpr rfl)
    have hwrote : (lifecycleRun Sample.plainHash Sample.onBoard Sample.keyed .ofReconcile
        (.minted Sample.newToken) (Sample.runAt Sample.slow)).wroteTools Sample.onBoard = true := by decide
    have hhash : (lifecycleRun Sample.plainHash Sample.onBoard Sample.keyed .ofReconcile
        (.minted Sample.newToken) (Sample.runAt Sample.slow)).state.row.agentTokenHash =
          some (hashAgentToken Sample.plainHash "old" "s") := by decide
    exact not_agrees_lifecycleRun (.minted Sample.newToken) Sample.newToken.oneLine (if_pos hwrote) hhash
      (by decide) hagrees

end SiloForge
