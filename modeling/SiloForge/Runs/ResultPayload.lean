import SiloForge.Core.Digits
import SiloForge.Queue.Contracts
import SiloForge.Runs.Service

/-!
# What a run's result payload is read as

The runtime's result payload is any object. Its counts and texts are read out of it whenever a run is shown or an
activity row about it is written, and the row's payload is checked against a contract.

* `extractCount` : how a count is read, and `CountFits`: the values it is read from as the contract wants it;
* `extractPullRequestNumber`, `extractTotalTokens`, `extractResultInt`, `extractResultText` : the readers;
* `buildRunPayload` : the payload of an activity row, and `buildRunPayload_isOk`: it is written exactly where the
  result payload fits.
-/

namespace SiloForge

/-! ## Counts -/

/-- What `int` says of a text it does not read. -/
def invalidLiteral : Failure := .valueError "invalid literal for int() with base 10"

/-- The part of a text that has to be digits. -/
def countedPart (dashes : Bool) (trimmed : String) : String := if dashes then lstripDashes trimmed else trimmed

/-- The count in a value: some readers take floats (`floats`), some take dashes in front (`dashes`). A boolean is an
integer to all of them. -/
def extractCount (floats dashes : Bool) : Json → Except Failure (Option Json)
  | .bool b => .ok (some (.bool b))
  | .int n => .ok (some (.int n))
  | .float bits => .ok (if floats && floatIsInteger bits then (floatToInt? bits).map .int else none)
  | .str s =>
    if isDigits (countedPart dashes (strip s)) then
      orFail ((intOfText? (strip s)).map fun n => some (.int n)) invalidLiteral
    else .ok none
  | _ => .ok none

def extractCount? (floats dashes : Bool) : Option Json → Except Failure (Option Json)
  | some value => extractCount floats dashes value
  | none => .ok none

def resultField (resultPayload : Option Json) (key : String) : Option Json := resultPayload.bind (·.get? key)

def totalTokensField (resultPayload : Option Json) : Option Json :=
  (resultField resultPayload "usage").bind (·.get? "total_tokens")

def extractPullRequestNumber (resultPayload : Option Json) : Except Failure (Option Json) :=
  extractCount? false false (resultField resultPayload "pull_request")

def extractTotalTokens (resultPayload : Option Json) : Except Failure (Option Json) :=
  extractCount? true false (totalTokensField resultPayload)

def extractResultInt (resultPayload : Option Json) (key : String) : Except Failure (Option Json) :=
  extractCount? true true (resultField resultPayload key)

def extractResultText (resultPayload : Option Json) (key : String) : Option String :=
  normalizeText ((resultField resultPayload key).bind Json.str?)

/-! ## Counts that fit -/

/-- A value is read as no count, or as a number that is not negative. -/
def CountFits (floats dashes : Bool) : Json → Prop
  | .bool _ => False
  | .int n => 0 ≤ n
  | .float bits => floats = true → floatIsInteger bits = true → ∀ n ∈ floatToInt? bits, 0 ≤ n
  | .str s => isDigits (countedPart dashes (strip s)) = true → ∃ n ∈ intOfText? (strip s), 0 ≤ n
  | _ => True

/-- What a contract takes as a count. -/
def IsCount (value : Option Json) : Prop := ∀ v ∈ value, ∃ n : Int, v = .int n ∧ 0 ≤ n

theorem isCount_none : IsCount none := nofun

theorem isCount_some {v : Json} : IsCount (some v) ↔ ∃ n : Int, v = .int n ∧ 0 ≤ n := by
  simp [IsCount]

/-- **A value fits** exactly when reading it gives no error, and a count if anything. -/
theorem countFits_iff (floats dashes : Bool) (value : Json) :
    CountFits floats dashes value ↔ ∃ count, extractCount floats dashes value = .ok count ∧ IsCount count := by
  cases value with
  | null => exact ⟨fun _ => ⟨none, rfl, isCount_none⟩, fun _ => trivial⟩
  | arr items => exact ⟨fun _ => ⟨none, rfl, isCount_none⟩, fun _ => trivial⟩
  | obj fields => exact ⟨fun _ => ⟨none, rfl, isCount_none⟩, fun _ => trivial⟩
  | bool b => simp [CountFits, extractCount, isCount_some]
  | int n => simp [CountFits, extractCount, isCount_some]
  | float bits =>
    rw [CountFits, extractCount]
    simp only [Except.ok.injEq, exists_eq_left']
    by_cases hint : (floats && floatIsInteger bits) = true
    · rw [if_pos hint]
      rw [Bool.and_eq_true] at hint
      simp only [hint, forall_const]
      cases floatToInt? bits with
      | none => simp [IsCount]
      | some n => simp [IsCount]
    · rw [if_neg hint]
      rw [Bool.and_eq_true, not_and] at hint
      exact ⟨fun _ => isCount_none, fun _ hf hi => absurd hi (hint hf)⟩
  | str s =>
    rw [CountFits, extractCount]
    by_cases hdigits : isDigits (countedPart dashes (strip s)) = true
    · rw [if_pos hdigits]
      simp only [hdigits, forall_const, orFail_eq_ok]
      cases intOfText? (strip s) with
      | none => simp
      | some n => simp [isCount_some]
    · rw [if_neg hdigits]
      exact ⟨fun _ => ⟨none, rfl, isCount_none⟩, fun _ h => absurd h hdigits⟩

theorem extractCount?_isCount {floats dashes : Bool} {value : Option Json} :
    (∃ count, extractCount? floats dashes value = .ok count ∧ IsCount count) ↔
      ∀ v ∈ value, CountFits floats dashes v := by
  cases value with
  | none => exact ⟨fun _ => nofun, fun _ => ⟨none, rfl, isCount_none⟩⟩
  | some v =>
    simp only [Option.mem_some_iff, forall_eq']
    exact (countFits_iff floats dashes v).symm

instance (floats dashes : Bool) : (value : Json) → Decidable (CountFits floats dashes value)
  | .bool _ => inferInstanceAs (Decidable False)
  | .int n => inferInstanceAs (Decidable (0 ≤ n))
  | .float bits => inferInstanceAs (Decidable (_ → _ → ∀ n ∈ floatToInt? bits, 0 ≤ n))
  | .str s => inferInstanceAs (Decidable (_ → ∃ n ∈ intOfText? (strip s), 0 ≤ n))
  | .null | .arr _ | .obj _ => inferInstanceAs (Decidable True)

/-- Every count of a result payload fits its reader. -/
structure PayloadFits (resultPayload : Option Json) : Prop where
  pullRequest : ∀ v ∈ resultField resultPayload "pull_request", CountFits false false v
  totalTokens : ∀ v ∈ totalTokensField resultPayload, CountFits true false v
  turnCount : ∀ v ∈ resultField resultPayload "turn_count", CountFits true true v
  durationMs : ∀ v ∈ resultField resultPayload "duration_ms", CountFits true true v

/-! ## The contract of activity rows -/

def ExecutionRunStatus.text : ExecutionRunStatus → String
  | .queued => "queued"
  | .dispatching => "dispatching"
  | .running => "running"
  | .succeeded => "succeeded"
  | .failed => "failed"
  | .cancelled => "cancelled"
  | .blocked => "blocked"

/-- A text, a count and a flag, as the contract has them. -/
def textProperty : PropertySchema := { types := [.string] }
def countProperty : PropertySchema := { types := [.integer], minimum := some 0 }
def flagProperty : PropertySchema := { types := [.boolean] }

def statusTexts : List String := ["queued", "dispatching", "running", "succeeded", "failed", "cancelled", "blocked"]

def executionRunActivitySchema : ContractSchema where
  required := ["executor_kind", "run_id", "run_short_id", "silo_id", "role_slug", "status"]
  properties := [("executor_kind", { types := [.string], enum := some ["symphony"] }), ("run_id", textProperty),
    ("run_short_id", textProperty), ("organization_id", textProperty), ("board_id", textProperty),
    ("task_id", textProperty), ("silo_id", textProperty), ("silo_slug", textProperty), ("role_slug", textProperty),
    ("status", { types := [.string], enum := some statusTexts }), ("adapter_mode", textProperty),
    ("branch_hint", textProperty), ("branch_name", textProperty), ("workspace_path", textProperty),
    ("external_run_id", textProperty), ("summary", textProperty), ("pr_url", textProperty),
    ("pull_request", countProperty), ("total_tokens", countProperty), ("error_message", textProperty),
    ("issue_identifier", textProperty), ("runner_kind", textProperty), ("completion_kind", textProperty),
    ("failure_reason", textProperty), ("block_reason", textProperty), ("cancel_reason", textProperty),
    ("stall_reason", textProperty), ("last_event", textProperty), ("last_message", textProperty),
    ("session_id", textProperty), ("turn_count", countProperty), ("duration_ms", countProperty),
    ("has_prompt_override", flagProperty), ("retried_from_run_id", textProperty)]

/-- A contract error as the `ValueError` it is, but for the value that was given. -/
def contractFailure : ContractError → Failure
  | .expectedType path _ => .valueError (path ++ ": unexpected type")
  | .notInEnum path => .valueError (path ++ ": value is not in allowed enum")
  | .belowMinimum path minimum => .valueError (path ++ ": must be >= " ++ toString minimum)
  | .missingProperty path key => .valueError (path ++ ": missing required property " ++ key)
  | .unexpectedProperties path keys => .valueError (path ++ ": unexpected properties " ++ ", ".intercalate keys)

/-- `finalize_execution_run_activity_payload`, of a payload whose absent fields are gone. -/
def finalizeActivityPayload (payload : Fields) : Except Failure Fields := do
  (executionRunActivitySchema.validate (.obj payload)).mapError contractFailure
  return payload

/-! ## The payload of an activity row -/

def resultTextKeys : List String :=
  ["issue_identifier", "runner_kind", "completion_kind", "failure_reason", "block_reason", "cancel_reason",
    "stall_reason", "last_event", "last_message", "session_id"]

/-- `_merge_result_payload_metadata`: the metadata of a result payload. -/
def resultPayloadMetadata (resultPayload : Option Json) : Except Failure (List (String × Option Json)) := do
  let turnCount ← extractResultInt resultPayload "turn_count"
  let durationMs ← extractResultInt resultPayload "duration_ms"
  return resultTextKeys.map (fun key => (key, (extractResultText resultPayload key).map .str)) ++
    [("turn_count", turnCount), ("duration_ms", durationMs)]

def resultPayloadFields (resultPayload : Option Json) : Except Failure (List (String × Option Json)) := do
  let pullRequest ← extractPullRequestNumber resultPayload
  let totalTokens ← extractTotalTokens resultPayload
  let metadata ← resultPayloadMetadata resultPayload
  return [("pull_request", pullRequest), ("total_tokens", totalTokens)] ++ metadata

def shortRunId (id : Uuid) : String := String.ofList ((Uuid.format id).toList.take 8)

def givenText (text : Option String) : Option String := text.filter (· ≠ "")

/-- The texts an activity row takes from a run. -/
def runTextFields (run : TaskExecutionRun) (siloSlug : String) : List (String × Option String) :=
  [("executor_kind", some "symphony"), ("run_id", some (Uuid.format run.id)),
    ("run_short_id", some (shortRunId run.id)), ("organization_id", some (Uuid.format run.organizationId)),
    ("board_id", some (Uuid.format run.boardId)), ("task_id", some (Uuid.format run.taskId)),
    ("silo_id", some (Uuid.format run.siloId)), ("silo_slug", some siloSlug), ("role_slug", some run.roleSlug),
    ("status", some run.status.text), ("external_run_id", givenText run.externalRunId),
    ("workspace_path", givenText run.workspacePath), ("branch_name", givenText run.branchName),
    ("pr_url", givenText run.prUrl), ("summary", givenText run.summary),
    ("error_message", givenText run.errorMessage)]

/-- The texts the row of a report takes from the report or the run. -/
def reportTextFields (run : TaskExecutionRun) (payload : TaskExecutionRunUpdate) : List (String × Option String) :=
  [("executor_kind", some "symphony"), ("run_id", some (Uuid.format run.id)),
    ("run_short_id", some (shortRunId run.id)), ("silo_id", some (Uuid.format run.siloId)),
    ("role_slug", some run.roleSlug), ("status", some (payload.status.getD run.status).text),
    ("external_run_id", (givenText payload.externalRunId).or run.externalRunId),
    ("workspace_path", (givenText payload.workspacePath).or run.workspacePath),
    ("branch_name", (givenText payload.branchName).or run.branchName),
    ("pr_url", (givenText payload.prUrl).or run.prUrl), ("summary", (givenText payload.summary).or run.summary),
    ("error_message", (givenText payload.errorMessage).or run.errorMessage)]

def buildPayload (texts : List (String × Option String)) (resultPayload : Option Json) : Except Failure Fields := do
  let fields ← resultPayloadFields resultPayload
  finalizeActivityPayload (ContractSchema.present (texts.map (fun t => (t.1, t.2.map .str)) ++ fields))

def buildRunPayload (run : TaskExecutionRun) (siloSlug : String) : Except Failure Fields :=
  buildPayload (runTextFields run siloSlug) run.resultPayload

/-- The result payload of a report, or the run's where that one is empty. -/
def reportedPayload (run : TaskExecutionRun) (payload : TaskExecutionRunUpdate) : Option Json :=
  (payload.resultPayload.filter truthy).or run.resultPayload

def buildCallbackReportPayload (run : TaskExecutionRun) (payload : TaskExecutionRunUpdate) : Except Failure Fields :=
  buildPayload (reportTextFields run payload) (reportedPayload run payload)

/-! ## Where an activity payload can be written -/

/-- The keys of the texts that may be any text. -/
def plainTextKeys : List String :=
  (executionRunActivitySchema.properties.filter fun p => p.2 = textProperty).map Prod.fst

theorem nodup_activityKeys : (executionRunActivitySchema.properties.map Prod.fst).Nodup := by decide

theorem accepts_iff_of_mem {key : String} {property : PropertySchema} {value : Json}
    (h : (key, property) ∈ executionRunActivitySchema.properties) :
    (∀ p ∈ executionRunActivitySchema.properties, p.1 = key → p.2.Accepts value) ↔ property.Accepts value := by
  refine ⟨fun hall => hall _ h rfl, fun haccepts p hp hkey => ?_⟩
  rwa [List.inj_on_of_nodup_map nodup_activityKeys hp h hkey]

theorem accepts_text (s : String) : textProperty.Accepts (.str s) := ⟨rfl, rfl, rfl⟩

theorem accepts_plainText {key : String} (h : key ∈ plainTextKeys) (s : String) :
    ∀ p ∈ executionRunActivitySchema.properties, p.1 = key → p.2.Accepts (.str s) := by
  obtain ⟨⟨key', property⟩, hp, rfl⟩ := List.mem_map.mp h
  obtain ⟨hmem, htext⟩ := List.mem_filter.mp hp
  obtain rfl : property = textProperty := of_decide_eq_true htext
  exact (accepts_iff_of_mem hmem).mpr (accepts_text s)

theorem accepts_count {value : Json} : countProperty.Accepts value ↔ ∃ n : Int, value = .int n ∧ 0 ≤ n := by
  cases value <;>
    simp [PropertySchema.Accepts, countProperty, JsonType.matches, PropertySchema.below, Option.filter]

theorem isCount_iff {key : String} (h : (key, countProperty) ∈ executionRunActivitySchema.properties)
    {value : Option Json} :
    (∀ v ∈ value, ∀ p ∈ executionRunActivitySchema.properties, p.1 = key → p.2.Accepts v) ↔ IsCount value := by
  refine forall₂_congr fun v _ => ?_
  rw [accepts_iff_of_mem h, accepts_count]

/-- Texts that make an activity payload, whatever the result payload adds. -/
structure TextsFit (texts : List (String × Option String)) : Prop where
  nodup : (texts.map Prod.fst ++ ["pull_request", "total_tokens"] ++ resultTextKeys ++
    ["turn_count", "duration_ms"]).Nodup
  required : ∀ key ∈ executionRunActivitySchema.required, ∃ s, (key, some s) ∈ texts
  known : ∀ t ∈ texts, t = ("executor_kind", some "symphony") ∨
    (∃ status : ExecutionRunStatus, t = ("status", some status.text)) ∨ t.1 ∈ plainTextKeys

theorem runTextFields_fit (run : TaskExecutionRun) (siloSlug : String) : TextsFit (runTextFields run siloSlug) where
  nodup := by
    show ["executor_kind", "run_id", "run_short_id", "organization_id", "board_id", "task_id", "silo_id", "silo_slug",
      "role_slug", "status", "external_run_id", "workspace_path", "branch_name", "pr_url", "summary", "error_message",
      "pull_request", "total_tokens", "issue_identifier", "runner_kind", "completion_kind", "failure_reason",
      "block_reason", "cancel_reason", "stall_reason", "last_event", "last_message", "session_id", "turn_count",
      "duration_ms"].Nodup
    decide
  required := by simp [executionRunActivitySchema, runTextFields]
  known := by
    have hplain : ["run_id", "run_short_id", "organization_id", "board_id", "task_id", "silo_id", "silo_slug",
      "role_slug", "external_run_id", "workspace_path", "branch_name", "pr_url", "summary", "error_message"] ⊆
        plainTextKeys := by decide
    intro t ht
    simp only [runTextFields, List.mem_cons, List.not_mem_nil, or_false] at ht
    rcases ht with rfl | rfl | rfl | rfl | rfl | rfl | rfl | rfl | rfl | rfl | rfl | rfl | rfl | rfl | rfl | rfl <;>
      first | exact .inl rfl | exact .inr (.inl ⟨_, rfl⟩) | exact .inr (.inr (hplain (by simp)))

theorem reportTextFields_fit (run : TaskExecutionRun) (payload : TaskExecutionRunUpdate) :
    TextsFit (reportTextFields run payload) where
  nodup := by
    show ["executor_kind", "run_id", "run_short_id", "silo_id", "role_slug", "status", "external_run_id",
      "workspace_path", "branch_name", "pr_url", "summary", "error_message", "pull_request", "total_tokens",
      "issue_identifier", "runner_kind", "completion_kind", "failure_reason", "block_reason", "cancel_reason",
      "stall_reason", "last_event", "last_message", "session_id", "turn_count", "duration_ms"].Nodup
    decide
  required := by simp [executionRunActivitySchema, reportTextFields]
  known := by
    have hplain : ["run_id", "run_short_id", "silo_id", "role_slug", "external_run_id", "workspace_path",
      "branch_name", "pr_url", "summary", "error_message"] ⊆ plainTextKeys := by decide
    intro t ht
    simp only [reportTextFields, List.mem_cons, List.not_mem_nil, or_false] at ht
    rcases ht with rfl | rfl | rfl | rfl | rfl | rfl | rfl | rfl | rfl | rfl | rfl | rfl <;>
      first | exact .inl rfl | exact .inr (.inl ⟨_, rfl⟩) | exact .inr (.inr (hplain (by simp)))

variable {texts : List (String × Option String)}

theorem TextsFit.accepts (h : TextsFit texts) {t : String × Option String} (ht : t ∈ texts) {s : String}
    (hs : t.2 = some s) :
    ∀ p ∈ executionRunActivitySchema.properties, p.1 = t.1 → p.2.Accepts (.str s) := by
  rcases h.known t ht with rfl | ⟨status, rfl⟩ | hplain
  · obtain rfl := Option.some.inj hs
    exact (accepts_iff_of_mem List.mem_cons_self).mpr ⟨rfl, rfl, rfl⟩
  · obtain rfl := Option.some.inj hs
    have hmem : ("status", { types := [.string], enum := some statusTexts }) ∈
      executionRunActivitySchema.properties := by decide
    exact (accepts_iff_of_mem hmem).mpr ⟨rfl, by cases status <;> rfl, rfl⟩
  · exact accepts_plainText hplain s

theorem TextsFit.mem_keys (h : TextsFit texts) {t : String × Option String} (ht : t ∈ texts) :
    t.1 ∈ executionRunActivitySchema.properties.map Prod.fst := by
  rcases h.known t ht with rfl | ⟨status, rfl⟩ | hplain
  · exact List.mem_cons_self
  · show "status" ∈ _
    decide
  · obtain ⟨p, hp, hkey⟩ := List.mem_map.mp hplain
    exact List.mem_map.mpr ⟨p, (List.mem_filter.mp hp).1, hkey⟩

theorem resultTextKeys_plain : resultTextKeys ⊆ plainTextKeys := by decide

def addedFields (resultPayload pullRequest totalTokens turnCount durationMs : Option Json) :
    List (String × Option Json) :=
  [("pull_request", pullRequest), ("total_tokens", totalTokens)] ++
    (resultTextKeys.map (fun key => (key, (extractResultText resultPayload key).map .str)) ++
      [("turn_count", turnCount), ("duration_ms", durationMs)])

section Accepts
variable {texts : List (String × Option String)} {resultPayload pullRequest totalTokens turnCount durationMs : Option Json}

theorem resultPayloadFields_eq_ok {fields : List (String × Option Json)} :
    resultPayloadFields resultPayload = .ok fields ↔ ∃ pullRequest totalTokens turnCount durationMs,
      extractPullRequestNumber resultPayload = .ok pullRequest ∧ extractTotalTokens resultPayload = .ok totalTokens ∧
      extractResultInt resultPayload "turn_count" = .ok turnCount ∧
      extractResultInt resultPayload "duration_ms" = .ok durationMs ∧
      fields = addedFields resultPayload pullRequest totalTokens turnCount durationMs := by
  simp only [resultPayloadFields, resultPayloadMetadata, bind_eq_ok, pure_eq_ok]
  constructor
  · rintro ⟨pullRequest, hpull, totalTokens, htokens, _, ⟨turnCount, hturn, durationMs, hduration, rfl⟩, rfl⟩
    exact ⟨pullRequest, totalTokens, turnCount, durationMs, hpull, htokens, hturn, hduration, rfl⟩
  · rintro ⟨pullRequest, totalTokens, turnCount, durationMs, hpull, htokens, hturn, hduration, rfl⟩
    exact ⟨pullRequest, hpull, totalTokens, htokens, _, ⟨turnCount, hturn, durationMs, hduration, rfl⟩, rfl⟩

theorem accepts_payload (h : TextsFit texts) :
    executionRunActivitySchema.Accepts (ContractSchema.present (texts.map (fun t => (t.1, t.2.map Json.str)) ++
        addedFields resultPayload pullRequest totalTokens turnCount durationMs)) ↔
      IsCount pullRequest ∧ IsCount totalTokens ∧ IsCount turnCount ∧ IsCount durationMs := by
  have hcounts : ∀ key ∈ ["pull_request", "total_tokens", "turn_count", "duration_ms"],
      (key, countProperty) ∈ executionRunActivitySchema.properties := by decide
  rw [ContractSchema.accepts_present]
  · simp only [addedFields, List.forall_mem_append, List.forall_mem_cons, List.not_mem_nil,
      false_implies, implies_true, and_true]
    rw [isCount_iff (hcounts _ (by simp)), isCount_iff (hcounts _ (by simp)), isCount_iff (hcounts _ (by simp)),
      isCount_iff (hcounts _ (by simp))]
    refine ⟨fun ⟨_, ⟨hpull, htokens⟩, _, hturn, hduration⟩ => ⟨hpull, htokens, hturn, hduration⟩, ?_⟩
    rintro ⟨hpull, htokens, hturn, hduration⟩
    refine ⟨fun c hc v hv => ?_, ⟨hpull, htokens⟩, fun c hc v hv => ?_, hturn, hduration⟩
    · obtain ⟨t, ht, rfl⟩ := List.mem_map.mp hc
      obtain ⟨s, hs, rfl⟩ := Option.map_eq_some_iff.mp hv
      exact h.accepts ht hs
    · obtain ⟨key, hkey, rfl⟩ := List.mem_map.mp hc
      obtain ⟨s, -, rfl⟩ := Option.map_eq_some_iff.mp hv
      exact accepts_plainText (resultTextKeys_plain hkey) s
  · have hkeys := h.nodup
    simp only [addedFields, List.map_append, List.map_map, List.append_assoc] at hkeys ⊢
    exact hkeys
  · intro key hkey
    obtain ⟨s, hs⟩ := h.required key hkey
    exact ⟨.str s, List.mem_append_left _ (List.mem_map.mpr ⟨(key, some s), hs, rfl⟩)⟩
  · intro c hc
    have hadded : ["pull_request", "total_tokens"] ++ resultTextKeys ++ ["turn_count", "duration_ms"] ⊆
      executionRunActivitySchema.properties.map Prod.fst := by decide
    rcases List.mem_append.mp hc with hc | hc
    · obtain ⟨t, ht, rfl⟩ := List.mem_map.mp hc
      exact h.mem_keys ht
    · exact hadded (List.mem_map_of_mem (f := Prod.fst) hc)

/-- **An activity payload can be built** exactly where the result payload fits. -/
theorem buildPayload_isOk (h : TextsFit texts) :
    (∃ fields, buildPayload texts resultPayload = .ok fields) ↔ PayloadFits resultPayload := by
  simp only [buildPayload, finalizeActivityPayload, bind_eq_ok, mapError_eq_ok, pure_eq_ok,
    ContractSchema.validate_obj_eq_ok]
  constructor
  · rintro ⟨_, fields, hfields, _, haccepts, -⟩
    obtain ⟨pullRequest, totalTokens, turnCount, durationMs, hpull, htokens, hturn, hduration, rfl⟩ :=
      resultPayloadFields_eq_ok.mp hfields
    obtain ⟨hp, ht, hc, hd⟩ := (accepts_payload h).mp haccepts
    exact ⟨extractCount?_isCount.mp ⟨_, hpull, hp⟩, extractCount?_isCount.mp ⟨_, htokens, ht⟩,
      extractCount?_isCount.mp ⟨_, hturn, hc⟩, extractCount?_isCount.mp ⟨_, hduration, hd⟩⟩
  · rintro ⟨hp, ht, hc, hd⟩
    obtain ⟨pullRequest, hpull, hp⟩ := extractCount?_isCount.mpr hp
    obtain ⟨totalTokens, htokens, ht⟩ := extractCount?_isCount.mpr ht
    obtain ⟨turnCount, hturn, hc⟩ := extractCount?_isCount.mpr hc
    obtain ⟨durationMs, hduration, hd⟩ := extractCount?_isCount.mpr hd
    have hfields : resultPayloadFields resultPayload =
        .ok (addedFields resultPayload pullRequest totalTokens turnCount durationMs) :=
      resultPayloadFields_eq_ok.mpr ⟨_, _, _, _, hpull, htokens, hturn, hduration, rfl⟩
    exact ⟨_, _, hfields, (), (accepts_payload h).mpr ⟨hp, ht, hc, hd⟩, rfl⟩

end Accepts

theorem buildRunPayload_isOk {run : TaskExecutionRun} (siloSlug : String) :
    (∃ fields, buildRunPayload run siloSlug = .ok fields) ↔ PayloadFits run.resultPayload :=
  buildPayload_isOk (runTextFields_fit run siloSlug)

theorem buildCallbackReportPayload_isOk {run : TaskExecutionRun} {payload : TaskExecutionRunUpdate} :
    (∃ fields, buildCallbackReportPayload run payload = .ok fields) ↔ PayloadFits (reportedPayload run payload) :=
  buildPayload_isOk (reportTextFields_fit run payload)

end SiloForge
