import SiloForge.Contracts.JsonSchema
import SiloForge.Runs.ResultPayload

/-!
# The bodies of reports

The runtime and an operator report a run with the same fields. The body of a callback is checked against a closed
contract and read by a model of it; the body of a PATCH is read by the schema of the PATCH alone.

* `executionCallbackSchema`, `parseExecutionCallbackContract` : the contract, and a body that is read by it;
* `TaskExecutionRunUpdate.ofBody` : the body of a PATCH;
* `ofBody_of_parse` : what the contract accepts a PATCH reads too, as the same fields.
-/

namespace SiloForge

/-! ## Fields -/

/-- The integer a value is read as that need not be one, and how values are shown in errors. -/
structure BodyReader where
  int? : Json → Option Int
  repr : Json → String

def textField (body : Fields) (key : String) : Except Failure (Option String) :=
  match Json.lookup body key with
  | none | some .null => .ok none
  | some (.str text) => .ok (some text)
  | some _ => .error (.status 422)

/-- `int | None`. -/
def countField (reader : BodyReader) (body : Fields) (key : String) : Except Failure (Option Int) :=
  match Json.lookup body key with
  | none | some .null => .ok none
  | some value => (orFail (reader.int? value) (.status 422)).map some

/-- `dict[str, Any] | None`. -/
def objectField (body : Fields) (key : String) : Except Failure (Option Fields) :=
  match Json.lookup body key with
  | none | some .null => .ok none
  | some (.obj fields) => .ok (some fields)
  | some _ => .error (.status 422)

def executionRunStatuses : List ExecutionRunStatus :=
  [.queued, .dispatching, .running, .succeeded, .failed, .cancelled, .blocked]

def statusField (body : Fields) : Except Failure (Option ExecutionRunStatus) := do
  match ← textField body "status" with
  | none => return none
  | some text => (orFail (executionRunStatuses.find? (·.text = text)) (.status 422)).map some

/-! ## The contract of callbacks -/

def nullable (type : SchemaType) (minimum : Option JsonNumber) : Schema :=
  .node (some (.any [type, .null])) none minimum none [] [] true none

def nullableText : Schema := nullable .string none
def nullableCount : Schema := nullable .integer (some (.int 0))

def usageSchema : Schema :=
  .node (some (.any [.object, .null])) none none none []
    [("input_tokens", nullableCount), ("output_tokens", nullableCount), ("total_tokens", nullableCount)] false none

def callbackResultSchema : Schema :=
  .node (some (.any [.object, .null])) none none none []
    [("issue_identifier", nullableText), ("completion_kind", nullableText), ("failure_reason", nullableText),
      ("block_reason", nullableText), ("cancel_reason", nullableText), ("stall_reason", nullableText),
      ("last_event", nullableText), ("last_message", nullableText), ("session_id", nullableText),
      ("turn_count", nullableCount), ("duration_ms", nullableCount), ("usage", usageSchema)] true none

def executionCallbackSchema : Schema :=
  .node (some (.one .object)) none none none ["status"]
    [("status", .node (some (.one .string)) (some (statusTexts.map .str)) none none [] [] true none),
      ("external_run_id", nullableText), ("workspace_path", nullableText), ("branch_name", nullableText),
      ("pr_url", nullableText), ("summary", nullableText), ("error_message", nullableText),
      ("issue_identifier", nullableText), ("completion_kind", nullableText), ("duration_ms", nullableCount),
      ("result_payload", callbackResultSchema)] false none

/-- A field of `ExecutionCallbackResultPayload`, which has fields of its own beside any others. -/
def resultPayloadField (reader : BodyReader) (key : String) (value : Json) : Except Failure Json :=
  if value = .null then .ok .null
  else if key ∈ resultTextKeys then orFail (value.str?.map .str) (.status 422)
  else if key ∈ ["turn_count", "duration_ms", "pull_request"] then
    orFail ((reader.int? value).map .int) (.status 422)
  else if key = "usage" then
    match value with
    | .obj _ => .ok value
    | _ => .error (.status 422)
  else .ok value

def readResultPayload (reader : BodyReader) (fields : Fields) : Except Failure Fields :=
  fields.mapM fun (key, value) => (resultPayloadField reader key value).map fun value => (key, value)

def contractKeys : List String :=
  ["status", "external_run_id", "workspace_path", "branch_name", "pr_url", "summary", "error_message",
    "issue_identifier", "completion_kind", "duration_ms", "result_payload"]

/-- `ExecutionCallbackContract.model_validate`; a negative duration is what the callback refuses of it. -/
def ExecutionCallbackContract.ofBody (reader : BodyReader) : Json → Except Failure ExecutionCallbackContract
  | .obj body => do
    require (∀ key ∈ body.map Prod.fst, key ∈ contractKeys) (.status 422)
    let status ← statusField body
    let externalRunId ← textField body "external_run_id"
    let workspacePath ← textField body "workspace_path"
    let branchName ← textField body "branch_name"
    let prUrl ← textField body "pr_url"
    let summary ← textField body "summary"
    let errorMessage ← textField body "error_message"
    let issueIdentifier ← textField body "issue_identifier"
    let completionKind ← textField body "completion_kind"
    let durationMs ← countField reader body "duration_ms"
    require (∀ n ∈ durationMs, 0 ≤ n) (.status 422)
    let own ← objectField body "result_payload"
    let resultPayload ← own.mapM (readResultPayload reader)
    let status ← orFail status (.status 422)
    return { status, externalRunId, workspacePath, branchName, prUrl, summary, errorMessage, issueIdentifier,
             completionKind, durationMs := durationMs.map Int.toNat, resultPayload }
  | _ => .error (.status 422)

def parseExecutionCallbackContract (reader : BodyReader) (body : Json) : Except Failure ExecutionCallbackContract := do
  (validateContractPayload reader.repr executionCallbackSchema body).mapError (.text 422)
  ExecutionCallbackContract.ofBody reader body

/-- `TaskExecutionRunUpdate.model_validate`; fields it does not know are passed over. -/
def TaskExecutionRunUpdate.ofBody (reader : BodyReader) : Json → Except Failure TaskExecutionRunUpdate
  | .obj body => do
    let status ← statusField body
    let externalRunId ← textField body "external_run_id"
    let workspacePath ← textField body "workspace_path"
    let branchName ← textField body "branch_name"
    let prUrl ← textField body "pr_url"
    let summary ← textField body "summary"
    let errorMessage ← textField body "error_message"
    let issueIdentifier ← textField body "issue_identifier"
    let runnerKind ← textField body "runner_kind"
    let completionKind ← textField body "completion_kind"
    let failureReason ← textField body "failure_reason"
    let blockReason ← textField body "block_reason"
    let cancelReason ← textField body "cancel_reason"
    let stallReason ← textField body "stall_reason"
    let lastEvent ← textField body "last_event"
    let lastMessage ← textField body "last_message"
    let sessionId ← textField body "session_id"
    let turnCount ← countField reader body "turn_count"
    let durationMs ← countField reader body "duration_ms"
    let own ← objectField body "result_payload"
    return { status, turnCount, durationMs, resultPayload := own.map .obj
             externalRunId := normalizeText externalRunId
             workspacePath := normalizeText workspacePath
             branchName := normalizeText branchName
             prUrl := normalizeText prUrl
             summary := normalizeText summary
             errorMessage := normalizeText errorMessage
             issueIdentifier := normalizeText issueIdentifier
             runnerKind := normalizeText runnerKind
             completionKind := normalizeText completionKind
             failureReason := normalizeText failureReason
             blockReason := normalizeText blockReason
             cancelReason := normalizeText cancelReason
             stallReason := normalizeText stallReason
             lastEvent := normalizeText lastEvent
             lastMessage := normalizeText lastMessage
             sessionId := normalizeText sessionId }
  | _ => .error (.status 422)

/-! ## The same fields -/

variable {reader : BodyReader} {body : Fields} {key : String}

theorem parseExecutionCallbackContract_obj {contract : ExecutionCallbackContract}
    (hkeys : "status" ∈ body.map Prod.fst ∧ ∀ key ∈ body.map Prod.fst, key ∈ contractKeys)
    (hproperties : validateProperties reader.repr executionCallbackSchema.properties body "$" = .ok ())
    (hbody : ExecutionCallbackContract.ofBody reader (.obj body) = .ok contract) :
    parseExecutionCallbackContract reader (.obj body) = .ok contract := by
  rw [parseExecutionCallbackContract, validateContractPayload, executionCallbackSchema, validateNode]
  refine bind_eq_ok.mpr ⟨(), mapError_eq_ok.mpr ?_, hbody⟩
  refine then_eq_ok.mpr ⟨rfl, then_eq_ok.mpr ⟨rfl, then_eq_ok.mpr ⟨rfl, ?_⟩⟩⟩
  rw [Option.bind_some, primary?_obj rfl]
  refine validateObject_eq_ok.mpr ⟨⟨fun key hkey => ?_, fun _ => hkeys.2⟩, hproperties⟩
  rw [List.mem_singleton.mp hkey]
  exact hkeys.1

theorem textField_of_absent (h : key ∉ body.map Prod.fst) : textField body key = .ok none := by
  rw [textField, Json.lookup_eq_none_of_not_mem h]

theorem countField_of_absent (h : key ∉ body.map Prod.fst) : countField reader body key = .ok none := by
  rw [countField, Json.lookup_eq_none_of_not_mem h]

theorem eq_null_of_resultPayloadField {value : Json} (h : resultPayloadField reader key value = .ok .null) :
    value = .null := by
  unfold resultPayloadField at h
  split at h
  · assumption
  · split at h
    · obtain ⟨text, -, hnull⟩ := Option.map_eq_some_iff.mp (orFail_eq_ok.mp h)
      cases hnull
    · split at h
      · obtain ⟨n, -, hnull⟩ := Option.map_eq_some_iff.mp (orFail_eq_ok.mp h)
        cases hnull
      · split at h
        · split at h <;> cases h
        · exact Except.ok.inj h

/-- A result payload of which nothing is dumped has null fields only. -/
theorem eq_null_of_excludeNone {fields read : Fields} (h : readResultPayload reader fields = .ok read)
    (hnil : excludeNone read = []) : ∀ f ∈ fields, f.2 = .null := by
  induction fields generalizing read with
  | nil => exact fun f hf => absurd hf List.not_mem_nil
  | cons g fields ih =>
    rw [readResultPayload, List.mapM_cons] at h
    obtain ⟨g', hg, h⟩ := bind_eq_ok.mp h
    obtain ⟨rest, hrest, h⟩ := bind_eq_ok.mp h
    obtain rfl := pure_eq_ok.mp h
    obtain ⟨value, hvalue, rfl⟩ := map_eq_ok.mp hg
    obtain ⟨hnull, htail⟩ := List.forall_mem_cons.mp (List.filter_eq_nil_iff.mp hnil)
    obtain rfl : value = .null := by simpa using hnull
    intro f hf
    rcases List.mem_cons.mp hf with rfl | hf
    · exact eq_null_of_resultPayloadField hvalue
    · exact ih hrest (List.filter_eq_nil_iff.mpr htail) f hf

/-- **What the contract accepts a PATCH reads too**, as the same fields but for what the result payload is dumped as. -/
theorem ofBody_of_parse {body : Json} {contract : ExecutionCallbackContract}
    (h : parseExecutionCallbackContract reader body = .ok contract) :
    ∃ own : Option Fields, own.mapM (readResultPayload reader) = .ok contract.resultPayload ∧
      TaskExecutionRunUpdate.ofBody reader body = .ok
        { contract.toCallback.toRunReport with resultPayload := own.map .obj, status := some contract.status } := by
  obtain ⟨_, -, hbody⟩ := bind_eq_ok.mp h
  cases body with
  | obj fields =>
    simp only [ExecutionCallbackContract.ofBody, bind_eq_ok, require_eq_ok, orFail_eq_ok, pure_eq_ok] at hbody
    obtain ⟨_, hkeys, status, hstatus, externalRunId, hexternal, workspacePath, hworkspace, branchName, hbranch, prUrl,
      hpr, summary, hsummary, errorMessage, herror, issueIdentifier, hissue, completionKind, hcompletion, durationMs,
      hduration, _, hsign, own, hown, resultPayload, hresult, given, rfl, rfl⟩ := hbody
    have habsent : ∀ key ∉ contractKeys, textField fields key = .ok none :=
      fun key hkey => textField_of_absent fun hmem => hkey (hkeys key hmem)
    have hturn : countField reader fields "turn_count" = .ok none :=
      countField_of_absent fun hmem => absurd (hkeys _ hmem) (by decide)
    have hdurationMs : (durationMs.map Int.toNat).map Int.ofNat = durationMs := by
      cases durationMs with
      | none => rfl
      | some n => exact congrArg some (Int.toNat_of_nonneg (hsign n rfl))
    refine ⟨own, hresult, ?_⟩
    simp only [TaskExecutionRunUpdate.ofBody, hstatus, hexternal, hworkspace, hbranch, hpr, hsummary, herror, hissue,
      hcompletion, hduration, hturn, hown, habsent "runner_kind" (by decide), habsent "failure_reason" (by decide),
      habsent "block_reason" (by decide), habsent "cancel_reason" (by decide), habsent "stall_reason" (by decide),
      habsent "last_event" (by decide), habsent "last_message" (by decide), habsent "session_id" (by decide), bind,
      Except.bind, pure, Except.pure, ExecutionCallbackContract.toCallback, hdurationMs]
    rfl
  | _ => cases hbody

end SiloForge
