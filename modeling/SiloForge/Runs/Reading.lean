import SiloForge.Runs.ResultPayload

/-!
# Reading runs

What the endpoints answer about stored runs, with the counts and texts read out of their result payloads.

* `toRead` : a run as it is answered; `listRuns`, `getRun` : the runs of a task, and one of them;
* `serviceTexts` : the texts of the activity rows, whose payloads a contract checks;
* `updateRunRead`, `acknowledgeRunRead`, `escalateRunRead` : the operations, with what they answer;
* `toRead_isOk`, `recordRun_isOk` : reading and recording a run whose result payload fits.
-/

namespace SiloForge

open Lib

/-! ## Answers -/

structure TaskExecutionRunRead extends TaskExecutionRun where
  siloSlug : String
  issueIdentifier : Option String
  runnerKind : Option String
  completionKind : Option String
  failureReason : Option String
  blockReason : Option String
  cancelReason : Option String
  stallReason : Option String
  lastEvent : Option String
  lastMessage : Option String
  sessionId : Option String
  turnCount : Option Int
  durationMs : Option Int

/-- What the response schema makes of a count: a boolean is taken for a number. -/
def responseInt : Option Json → Except Failure (Option Int)
  | none => .ok none
  | some (.int n) => .ok (some n)
  | some (.bool b) => .ok (some (if b then 1 else 0))
  | some _ => .error (.valueError "Input should be a valid integer")

def toRead (run : TaskExecutionRun) (siloSlug : String) : Except Failure TaskExecutionRunRead := do
  let turnCount ← extractResultInt run.resultPayload "turn_count"
  let durationMs ← extractResultInt run.resultPayload "duration_ms"
  let turnCount ← responseInt turnCount
  let durationMs ← responseInt durationMs
  return { run with
    siloSlug
    issueIdentifier := extractResultText run.resultPayload "issue_identifier"
    runnerKind := extractResultText run.resultPayload "runner_kind"
    completionKind := extractResultText run.resultPayload "completion_kind"
    failureReason := extractResultText run.resultPayload "failure_reason"
    blockReason := extractResultText run.resultPayload "block_reason"
    cancelReason := extractResultText run.resultPayload "cancel_reason"
    stallReason := extractResultText run.resultPayload "stall_reason"
    lastEvent := extractResultText run.resultPayload "last_event"
    lastMessage := extractResultText run.resultPayload "last_message"
    sessionId := extractResultText run.resultPayload "session_id"
    turnCount
    durationMs }

def taskRuns (db : Db) (organizationId boardId taskId : Uuid) : List (TaskExecutionRun × Silo) :=
  let runs := db.runs.rows.filter fun run =>
    run.organizationId = organizationId ∧ run.boardId = boardId ∧ run.taskId = taskId
  (runs.mergeSort fun a b => b.createdAt ≤ a.createdAt).filterMap fun run =>
    (db.silos.get? run.siloId).map fun silo => (run, silo)

def listRuns (db : Db) (organizationId boardId taskId : Uuid) : Except Failure (List TaskExecutionRunRead) :=
  (taskRuns db organizationId boardId taskId).mapM fun (run, silo) => toRead run silo.slug

def getRun (db : Db) (organizationId boardId taskId runId : Uuid) : Except Failure (Option TaskExecutionRunRead) :=
  match findRun db organizationId boardId taskId runId with
  | none => .ok none
  | some run =>
    match db.silos.get? run.siloId with
    | none => .ok none
    | some silo => (toRead run silo.slug).map some

/-! ## Activity texts -/

def countText : Json → String
  | .bool true => "True"
  | .bool false => "False"
  | .int n => toString n
  | _ => ""

/-- The link of a pull request, or else the branch. -/
def linkOrBranch (prUrl branchName : Option String) : List String :=
  match givenText prUrl, givenText branchName with
  | some url, _ => ["PR: " ++ url]
  | none, some branch => ["Branch: " ++ branch]
  | none, none => []

def buildUpdatedMessage (run : TaskExecutionRun) (siloSlug : String) : Except Failure String := do
  let pullRequest ← extractPullRequestNumber run.resultPayload
  let totalTokens ← extractTotalTokens run.resultPayload
  return " ".intercalate <|
    ["Symphony run " ++ shortRunId run.id ++ " is " ++ run.status.text ++ " on " ++ siloSlug ++ "/" ++ run.roleSlug
      ++ "."] ++
    (givenText run.summary).toList ++
    (pullRequest.map fun n => "PR #" ++ countText n ++ ".").toList ++
    (linkOrBranch run.prUrl ((givenText run.branchName).map (· ++ "."))) ++
    (totalTokens.map fun n => "Tokens: " ++ countText n ++ ".").toList ++
    ((givenText run.errorMessage).map ("Error: " ++ ·)).toList

def buildCallbackReport (run : TaskExecutionRun) (payload : TaskExecutionRunUpdate) : Except Failure String := do
  let pullRequest ← extractPullRequestNumber payload.resultPayload
  let totalTokens ← extractTotalTokens payload.resultPayload
  return "\n".intercalate <|
    ["Symphony " ++ (payload.status.getD run.status).text ++ " execution run `" ++ shortRunId run.id ++ "`."] ++
    (givenText payload.summary).toList ++
    (pullRequest.map fun n => "PR #" ++ countText n).toList ++
    linkOrBranch payload.prUrl payload.branchName ++
    (totalTokens.map fun n => "Tokens: " ++ countText n).toList ++
    ((givenText payload.errorMessage).map ("Error: " ++ ·)).toList

def defaultEscalationReason (run : TaskExecutionRun) : String :=
  let reasons := ["block_reason", "failure_reason", "cancel_reason", "stall_reason", "last_message"].filterMap
    (extractResultText run.resultPayload)
  ((reasons.head?.or (normalizeText run.errorMessage)).or (normalizeText run.summary)).getD
    "Runtime run requires operator review."

/-- The payload of an operator's activity row, where the note stands for the summary. -/
def buildNotedPayload (run : TaskExecutionRun) (siloSlug : String) (note : Option String) : Except Failure Fields := do
  let payload ← buildRunPayload run siloSlug
  finalizeActivityPayload (match note with
    | some note => Json.setField payload "summary" (.str note)
    | none => payload)

def operatorMessage (message : String) (note : Option String) : String :=
  match note with
  | some note => message ++ " " ++ note
  | none => message

/-- The texts of the rows reports, acknowledgements and escalations leave, for an operator's note; those of the other
rows are left open. -/
def serviceTexts (others : RunTexts) (siloSlug : Uuid → String) (note : Option String) : RunTexts where
  activity
    | .runUpdated, run => do
      let message ← buildUpdatedMessage run (siloSlug run.siloId)
      let _payload ← buildRunPayload run (siloSlug run.siloId)
      return message
    | .runAcknowledged, run => do
      let _payload ← buildNotedPayload run (siloSlug run.siloId) note
      return operatorMessage ("Operator acknowledged Symphony run " ++ shortRunId run.id ++ ".") note
    | .runEscalated, run => do
      let _payload ← buildNotedPayload run (siloSlug run.siloId) (note.or (some (defaultEscalationReason run)))
      return operatorMessage ("Operator escalated Symphony run " ++ shortRunId run.id ++ " for review.") note
    | eventType, run => others.activity eventType run
  report run payload := do
    let message ← buildCallbackReport run payload
    let _payload ← buildCallbackReportPayload run payload
    return message
  escalationReason run := .ok (defaultEscalationReason run)
  dispatchRequest := others.dispatchRequest

/-! ## The operations and their answers -/

/-- What an operation commits, and what it answers. -/
structure RunResponse where
  commits : List Db
  answer : Except Failure TaskExecutionRunRead

/-- The run that was written is read once it is committed. -/
def answerRun (runId : Uuid) : Except Failure Db → RunResponse
  | .error e => { commits := [], answer := .error e }
  | .ok db =>
    { commits := [db]
      answer := do
        let run ← orFail (db.runs.get? runId) runNotFound
        let silo ← orFail (db.silos.get? run.siloId) (.valueError "Silo not found")
        toRead run silo.slug }

def siloSlugs (db : Db) (siloId : Uuid) : String := ((db.silos.get? siloId).map (·.slug)).getD ""

def updateRunRead (others : RunTexts) (db : Db) (now : Time) (organizationId : Uuid) (board : Board) (task : Task)
    (runId : Uuid) (payload : TaskExecutionRunUpdate) : RunResponse :=
  answerRun runId
    (updateRun (serviceTexts others (siloSlugs db) none) db now organizationId board task runId payload)

def acknowledgeRunRead (others : RunTexts) (db : Db) (now : Time) (organizationId : Uuid) (board : Board) (task : Task)
    (runId : Uuid) (note : Option String) : RunResponse :=
  answerRun runId (acknowledgeRun (serviceTexts others (siloSlugs db) note) db now organizationId board task runId)

def escalateRunRead (others : RunTexts) (db : Db) (now : Time) (organizationId : Uuid) (board : Board) (task : Task)
    (runId approvalId : Uuid) (note : Option String) : RunResponse :=
  answerRun runId
    (escalateRun (serviceTexts others (siloSlugs db) note) db now organizationId board task runId approvalId note)

/-! ## Result payloads that fit -/

theorem PayloadFits.counts {resultPayload : Option Json} (h : PayloadFits resultPayload) :
    ∃ pullRequest totalTokens turnCount durationMs,
      extractPullRequestNumber resultPayload = .ok pullRequest ∧ extractTotalTokens resultPayload = .ok totalTokens ∧
      (extractResultInt resultPayload "turn_count" = .ok turnCount ∧ IsCount turnCount) ∧
      (extractResultInt resultPayload "duration_ms" = .ok durationMs ∧ IsCount durationMs) := by
  obtain ⟨pullRequest, hpull, -⟩ := extractCount?_isCount.mpr h.pullRequest
  obtain ⟨totalTokens, htokens, -⟩ := extractCount?_isCount.mpr h.totalTokens
  obtain ⟨turnCount, hturn⟩ := extractCount?_isCount.mpr h.turnCount
  obtain ⟨durationMs, hduration⟩ := extractCount?_isCount.mpr h.durationMs
  exact ⟨pullRequest, totalTokens, turnCount, durationMs, hpull, htokens, hturn, hduration⟩

theorem responseInt_isOk {count : Option Json} (h : IsCount count) : ∃ n, responseInt count = .ok n := by
  cases count with
  | none => exact ⟨none, rfl⟩
  | some v =>
    obtain ⟨n, rfl, -⟩ := h v rfl
    exact ⟨some n, rfl⟩

variable {run : TaskExecutionRun} {payload : TaskExecutionRunUpdate}

/-- **A run whose result payload fits can be read.** -/
theorem toRead_isOk (h : PayloadFits run.resultPayload) (siloSlug : String) :
    ∃ read, toRead run siloSlug = .ok read := by
  obtain ⟨-, -, turnCount, durationMs, -, -, ⟨hturn, hturnCount⟩, hduration, hdurationCount⟩ := h.counts
  obtain ⟨turns, hturns⟩ := responseInt_isOk hturnCount
  obtain ⟨duration, hdurationMs⟩ := responseInt_isOk hdurationCount
  simp only [toRead, bind_eq_ok, pure_eq_ok]
  exact ⟨_, turnCount, hturn, durationMs, hduration, turns, hturns, duration, hdurationMs, rfl⟩

theorem buildUpdatedMessage_isOk (h : PayloadFits run.resultPayload) (siloSlug : String) :
    ∃ message, buildUpdatedMessage run siloSlug = .ok message := by
  obtain ⟨pullRequest, totalTokens, -, -, hpull, htokens, -⟩ := h.counts
  simp only [buildUpdatedMessage, bind_eq_ok, pure_eq_ok]
  exact ⟨_, pullRequest, hpull, totalTokens, htokens, rfl⟩

theorem buildNotedPayload_isOk (h : PayloadFits run.resultPayload) (siloSlug : String) (note : Option String) :
    ∃ payload, buildNotedPayload run siloSlug note = .ok payload := by
  obtain ⟨payload, hpayload⟩ := (buildRunPayload_isOk siloSlug).mpr h
  have haccepts : executionRunActivitySchema.Accepts payload := by
    simp only [buildRunPayload, buildPayload, finalizeActivityPayload, bind_eq_ok, mapError_eq_ok, pure_eq_ok,
      ContractSchema.validate_obj_eq_ok] at hpayload
    obtain ⟨_, -, _, haccepts, rfl⟩ := hpayload
    exact haccepts
  have hsummary : "summary" ∈ plainTextKeys := by decide
  have hknown : "summary" ∈ executionRunActivitySchema.properties.map Prod.fst := by decide
  simp only [buildNotedPayload, finalizeActivityPayload, bind_eq_ok, mapError_eq_ok, pure_eq_ok,
    ContractSchema.validate_obj_eq_ok]
  refine ⟨_, payload, hpayload, (), ?_, rfl⟩
  cases note with
  | none => exact haccepts
  | some note => exact ContractSchema.accepts_setField haccepts hknown (accepts_plainText hsummary note)

/-- The rows of reports, acknowledgements and escalations. -/
def EventType.isReported : EventType → Bool
  | .runUpdated | .runAcknowledged | .runEscalated => true
  | _ => false

/-- **A run whose result payload fits can be recorded.** -/
theorem recordRun_isOk (others : RunTexts) (siloSlug : Uuid → String) (note : Option String)
    (h : PayloadFits run.resultPayload) {eventType : EventType} (htype : eventType.isReported = true)
    (events : List ActivityEvent) (now : Time) (agentId : Option Uuid) :
    ∃ events', recordRun (serviceTexts others siloSlug note) events now eventType run agentId = .ok events' := by
  have hmessage : ∃ message, (serviceTexts others siloSlug note).activity eventType run = .ok message := by
    cases eventType with
    | runUpdated =>
      obtain ⟨message, hmessage⟩ := buildUpdatedMessage_isOk h (siloSlug run.siloId)
      obtain ⟨payload, hpayload⟩ := (buildRunPayload_isOk (siloSlug run.siloId)).mpr h
      exact ⟨message, bind_eq_ok.mpr ⟨message, hmessage, bind_eq_ok.mpr ⟨payload, hpayload, rfl⟩⟩⟩
    | runAcknowledged =>
      obtain ⟨payload, hpayload⟩ := buildNotedPayload_isOk h (siloSlug run.siloId) note
      exact ⟨_, bind_eq_ok.mpr ⟨payload, hpayload, rfl⟩⟩
    | runEscalated =>
      obtain ⟨payload, hpayload⟩ := buildNotedPayload_isOk h (siloSlug run.siloId)
        (note.or (some (defaultEscalationReason run)))
      exact ⟨_, bind_eq_ok.mpr ⟨payload, hpayload, rfl⟩⟩
    | _ => cases htype
  obtain ⟨message, hmessage⟩ := hmessage
  exact ⟨_, bind_eq_ok.mpr ⟨message, hmessage, rfl⟩⟩

theorem fits_none : PayloadFits none := ⟨nofun, nofun, nofun, nofun⟩

theorem fits_reported (now : Time) (hstored : PayloadFits run.resultPayload)
    (hown : ∀ p ∈ payload.resultPayload, PayloadFits (some p)) :
    PayloadFits (run.reported now payload).resultPayload := by
  show PayloadFits (payload.resultPayload.or run.resultPayload)
  cases hp : payload.resultPayload with
  | none => exact hstored
  | some p => exact hown p hp

theorem reportedPayload_reported (run : TaskExecutionRun) (now : Time) (payload : TaskExecutionRunUpdate) :
    reportedPayload (run.reported now payload) payload = (run.reported now payload).resultPayload := by
  show (payload.resultPayload.filter truthy).or (payload.resultPayload.or run.resultPayload) = _
  show _ = payload.resultPayload.or run.resultPayload
  cases payload.resultPayload with
  | none => rfl
  | some p =>
    rw [Option.filter_some]
    split <;> rfl

theorem report_isOk (others : RunTexts) (siloSlug : Uuid → String) (note : Option String) {now : Time}
    (hfit : PayloadFits (run.reported now payload).resultPayload)
    (hown : ∀ p ∈ payload.resultPayload, PayloadFits (some p)) :
    ∃ message, (serviceTexts others siloSlug note).report (run.reported now payload) payload = .ok message := by
  have hpayload : PayloadFits payload.resultPayload := by
    cases hp : payload.resultPayload with
    | none => exact fits_none
    | some p => exact hown p hp
  obtain ⟨pullRequest, totalTokens, -, -, hpull, htokens, -⟩ := hpayload.counts
  obtain ⟨fields, hfields⟩ := buildCallbackReportPayload_isOk.mpr ((reportedPayload_reported run now payload).symm ▸ hfit)
  have hmessage : ∃ message, buildCallbackReport (run.reported now payload) payload = .ok message := by
    simp only [buildCallbackReport, bind_eq_ok, pure_eq_ok]
    exact ⟨_, pullRequest, hpull, totalTokens, htokens, rfl⟩
  obtain ⟨message, hmessage⟩ := hmessage
  exact ⟨message, bind_eq_ok.mpr ⟨message, hmessage, bind_eq_ok.mpr ⟨fields, hfields, rfl⟩⟩⟩

theorem fits_of_recordUpdated {others : RunTexts} {siloSlug : Uuid → String} {note : Option String}
    {events events' : List ActivityEvent} {now : Time} (hstatus : payload.status.isSome = true)
    (h : recordUpdated (serviceTexts others siloSlug note) events now run payload = .ok events') :
    PayloadFits run.resultPayload := by
  rw [recordUpdated, if_pos hstatus] at h
  obtain ⟨message, hmessage, -⟩ := bind_eq_ok.mp h
  obtain ⟨_, -, hmessage⟩ := bind_eq_ok.mp hmessage
  obtain ⟨fields, hfields, -⟩ := bind_eq_ok.mp hmessage
  exact (buildRunPayload_isOk _).mp ⟨fields, hfields⟩

end SiloForge
