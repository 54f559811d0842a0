import SiloForge.Frontend.RuntimeRuns

/-!
# The feed

The payload of an event is any value. A reader takes it for the payload of a kind of event if one of a few of its
fields is a text, and then calls `trim` on other fields of it, whatever these are: on a field that is there, and is
neither null nor a text, the call throws.

* `resolveBoardActivityContent`, `resolveGatewayActivityContent`, `resolveActivityFeedContent` : what the feed shows;
* `Showable` : the payloads of an event that are shown;
* `succeeds_resolve_iff` : no others are.
-/

namespace SiloForge.Frontend

/-- Why a reader throws: a field has no method `trim`, or it cannot be made a text. -/
inductive FeedError where
  | notAFunction (key : String)
  | noPrimitive
  deriving DecidableEq

abbrev Read := Except FeedError

/-! ## Reading a field -/

/-- `payload?.key?.trim() || null`. -/
def trimmed (payload : Option Fields) (key : String) : Read (Option String) :=
  match fieldOf payload key with
  | none | some .null => .ok none
  | some (.str s) => .ok (nonBlank s)
  | some _ => .error (.notAFunction key)

/-- `left || right`: the right one is read only if there is nothing on the left. -/
def orRead (left right : Read (Option String)) : Read (Option String) := do
  match ← left with
  | some value => return some value
  | none => right

/-- `payload?.key?.trim() || readString(record, [key])`. -/
def trimmedOr (payload record : Option Fields) (key : String) : Read (Option String) :=
  orRead (trimmed payload key) (.ok (readString record [key]))

/-- `first?.key?.trim() || second?.key?.trim() || readString(record, [key])`. -/
def trimmedEither (first second record : Option Fields) (key : String) : Read (Option String) :=
  orRead (trimmed first key) (trimmedOr second record key)

/-- `payload?.key ?? readNumber(record, [key])`. -/
def numberOr (payload record : Option Fields) (key : String) : Option JsValue :=
  match fieldOf payload key with
  | none | some .null => (readNumber record [key]).map .num
  | some value => some value

section Printing
variable (numbers : NumberTexts)

mutual

/-- `String(value)`: an object with a key `toString` of its own has no text. -/
def printValue : JsValue → Read String
  | .null => .ok "null"
  | .bool b => .ok (if b then "true" else "false")
  | .num x => .ok (String.ofList (x.toString numbers))
  | .str s => .ok s
  | .arr items => do return ",".intercalate (← printItems items)
  | .obj fields => if (fields.lookup "toString").isSome then .error .noPrimitive else .ok "[object Object]"

def printItems : List JsValue → Read (List String)
  | [] => .ok []
  | v :: items => do
    let text ← if v.isNull then .ok "" else printValue v
    return text :: (← printItems items)

end

def printedRow (label unit : String) (value : Option JsValue) : Read (List ActivityDetailRow) :=
  match value with
  | none => .ok []
  | some value => do return [{ label, value := (← printValue numbers value) ++ unit }]

end Printing

/-! ## Payloads of a kind -/

def hasString (record : Fields) (key : String) : Bool := (textOf? (record.lookup key)).isSome

def payloadWith (keys : List String) (record : Option Fields) : Option Fields :=
  record.filter fun fields => keys.any (hasString fields)

def taskKeys : List String := ["task_title", "status"]
def approvalKeys : List String := ["action_type", "approval_status", "notification_status"]
def agentKeys : List String := ["agent_name", "action", "delivery_status"]
def boardKeys : List String := ["notification_kind", "board_name", "target_agent_name"]
def gatewayKeys : List String := ["notification_kind", "gateway_name", "action"]
def siloRuntimeKeys : List String := ["silo_name", "mode", "operation_id"]
def queueWorkerKeys : List String := ["queue_name", "status"]
def webhookKeys : List String := ["status", "payload_id"]
def siloRequestKeys : List String := ["display_name", "status"]

def parseTaskActivityPayload : Option Fields → Option Fields := payloadWith taskKeys
def parseApprovalActivityPayload : Option Fields → Option Fields := payloadWith approvalKeys
def parseAgentActivityPayload : Option Fields → Option Fields := payloadWith agentKeys
def parseBoardActivityPayload : Option Fields → Option Fields := payloadWith boardKeys
def parseGatewayActivityPayload : Option Fields → Option Fields := payloadWith gatewayKeys
def parseSiloRuntimeActivityPayload : Option Fields → Option Fields := payloadWith siloRuntimeKeys
def parseQueueWorkerTelemetryPayload : Option Fields → Option Fields := payloadWith queueWorkerKeys
def parseWebhookTelemetryPayload : Option Fields → Option Fields := payloadWith webhookKeys
def parseSiloRequestPayload : Option Fields → Option Fields := payloadWith siloRequestKeys

/-! ## What the feed shows -/

structure ActivityContent where
  summary : String
  details : List ActivityDetailRow

def ActivityContent.withoutStatus (content : ActivityContent) : FeedContent :=
  { summary := content.summary, details := content.details, runtimeStatus := none }

/-- `text.replace(/c/g, " ")`. -/
def withSpaces (c : Char) (text : String) : String := String.ofList (text.toList.map fun d => if d = c then ' ' else d)

def resolveBoardActivityContent (eventType message : String) (payload : Option Fields) : Read (Option ActivityContent) :=
  match payload with
  | none => .ok none
  | some payload => do
    let notificationKind ← trimmed payload "notification_kind"
    let notificationStatus ← trimmed payload "notification_status"
    let targetAgentName ← trimmed payload "target_agent_name"
    let boardName ← trimmed payload "board_name"
    let sourceBoardName ← trimmed payload "source_board_name"
    let groupName ← trimmed payload "board_group_name"
    let error ← trimmed payload "error"
    let details := detailRows [("Kind", notificationKind), ("Notify", notificationStatus), ("Agent", targetAgentName),
      ("Board", boardName), ("Source", sourceBoardName), ("Group", groupName), ("Error", error)]
    let fallbackSummary :=
      match notificationKind, boardName with
      | some notificationKind, some boardName =>
        if startsWith eventType "board." then some (withSpaces '_' notificationKind ++ " on " ++ boardName ++ ".") else none
      | _, _ => none
    return if details = [] ∧ fallbackSummary = none then none
      else some { summary := orText message (fallbackSummary.getD eventType), details }

def resolveGatewayActivityContent (eventType message : String) (payload agentPayload rawPayload : Option Fields) :
    Read (Option ActivityContent) :=
  match payload with
  | none => .ok none
  | some payload => do
    let notificationKind ← trimmed payload "notification_kind"
    let notificationStatus ← orRead (trimmed payload "notification_status") (trimmed payload "delivery_status")
    let targetAgentName ← orRead (trimmed agentPayload "agent_name")
      (orRead (trimmed payload "target_agent_name") (.ok (readString rawPayload ["agent_name"])))
    let boardName ← trimmed payload "board_name"
    let gatewayName ← trimmedOr payload rawPayload "gateway_name"
    let action ← trimmedOr payload rawPayload "action"
    let targetKind ← trimmedOr payload rawPayload "target_kind"
    let workspacePath ← trimmedOr payload rawPayload "workspace_path"
    let sessionKey ← trimmedEither agentPayload payload rawPayload "session_key"
    let error ← trimmedEither agentPayload payload rawPayload "error"
    let details := detailRows <|
      (if startsWith eventType "agent." then
        [("Agent", targetAgentName), ("Action", action), ("Delivery", notificationStatus), ("Gateway", gatewayName)]
      else
        [("Kind", notificationKind), ("Notify", notificationStatus), ("Agent", targetAgentName), ("Board", boardName),
          ("Gateway", gatewayName), ("Action", action)]) ++
      [("Target", targetKind), ("Workspace", workspacePath), ("Session", sessionKey), ("Error", error)]
    let fallbackSummary :=
      if startsWith eventType "gateway." || startsWith eventType "agent." then
        (action.or notificationKind).map fun what => what ++ " " ++ notificationStatus.getD "event" ++ "."
      else none
    return if details = [] ∧ fallbackSummary = none then none
      else some { summary := orText message (fallbackSummary.getD eventType), details }

def agentContent (eventType message : String) (agentPayload record : Option Fields) : Read ActivityContent := do
  let agentName ← trimmedOr agentPayload record "agent_name"
  let action ← trimmedOr agentPayload record "action"
  let deliveryStatus ← trimmedOr agentPayload record "delivery_status"
  let gatewayName ← trimmedOr agentPayload record "gateway_name"
  let targetKind ← trimmedOr agentPayload record "target_kind"
  let workspacePath ← trimmedOr agentPayload record "workspace_path"
  let sessionKey ← trimmedOr agentPayload record "session_key"
  let error ← trimmedOr agentPayload record "error"
  return {
    summary := orText message eventType
    details := detailRows [("Agent", agentName), ("Action", action), ("Delivery", deliveryStatus),
      ("Gateway", gatewayName), ("Target", targetKind), ("Workspace", workspacePath), ("Session", sessionKey),
      ("Error", error)] }

/-- What is shown of an event that is none of the kinds with an own text, from the payload of a board or a gateway. -/
def notificationContent (eventType message : String) (boardPayload gatewayPayload record : Option Fields) :
    Read (Option ActivityContent) := do
  let notificationKind ← trimmedEither boardPayload gatewayPayload record "notification_kind"
  let notificationStatus ← trimmedEither boardPayload gatewayPayload record "notification_status"
  let targetAgentName ← trimmedEither boardPayload gatewayPayload record "target_agent_name"
  let boardName ← trimmedEither boardPayload gatewayPayload record "board_name"
  let sourceBoardName ← trimmedOr boardPayload record "source_board_name"
  let groupName ← trimmedOr boardPayload record "board_group_name"
  let error ← trimmedEither boardPayload gatewayPayload record "error"
  let details := detailRows [("Kind", notificationKind), ("Notify", notificationStatus), ("Agent", targetAgentName),
    ("Board", boardName), ("Source", sourceBoardName), ("Group", groupName), ("Error", error)]
  return if details = [] then none else some { summary := orText message eventType, details }

def taskChangeContent (eventType message : String) (taskPayload : Option Fields) : Read FeedContent := do
  let taskTitle := (← trimmed taskPayload "task_title").getD "Task"
  let status ← trimmed taskPayload "status"
  let previousStatus ← trimmed taskPayload "previous_status"
  let reason ← trimmed taskPayload "reason"
  let dependencyTaskTitle ← trimmed taskPayload "dependency_task_title"
  let summary :=
    if eventType = "task.created" then "Task created: " ++ taskTitle ++ "."
    else
      match if eventType = "task.status_changed" then status else none with
      | some status => "Task moved to " ++ status ++ ": " ++ taskTitle ++ "."
      | none => if eventType = "task.updated" then "Task updated: " ++ taskTitle ++ "." else orText message eventType
  return {
    summary
    details := detailRows [("Status", status), ("Previous", previousStatus), ("Dependency", dependencyTaskTitle),
      ("Reason", reason)]
    runtimeStatus := none }

def approvalContent (eventType message : String) (approvalPayload : Option Fields) : Read FeedContent := do
  let approvalStatus ← trimmed approvalPayload "approval_status"
  let actionType ← trimmed approvalPayload "action_type"
  let notificationStatus ← trimmed approvalPayload "notification_status"
  let error ← trimmed approvalPayload "error"
  return {
    summary := orText message (withSpaces '.' eventType ++ ".")
    details := detailRows [("Decision", approvalStatus), ("Action", actionType), ("Notify", notificationStatus),
      ("Error", error)]
    runtimeStatus := none }

def taskContent (eventType message : String) (taskPayload : Option Fields) : Read FeedContent := do
  let taskTitle ← trimmed taskPayload "task_title"
  let targetAgentName ← trimmed taskPayload "target_agent_name"
  let notificationKind ← trimmed taskPayload "notification_kind"
  let notificationStatus ← trimmed taskPayload "notification_status"
  let error ← trimmed taskPayload "error"
  let status ← trimmed taskPayload "status"
  return {
    summary := orText message eventType
    details := detailRows [("Task", taskTitle), ("Agent", targetAgentName), ("Kind", notificationKind),
      ("Notify", notificationStatus), ("Status", status), ("Error", error)]
    runtimeStatus := none }

def siloRuntimeContent (eventType message : String) (runtimePayload record : Option Fields) : Read FeedContent := do
  let siloName ← trimmedOr runtimePayload record "silo_name"
  let mode ← trimmedOr runtimePayload record "mode"
  let operationId ← trimmedOr runtimePayload record "operation_id"
  let resultCount ← trimmedOr runtimePayload record "result_count"
  let warningCount ← trimmedOr runtimePayload record "warning_count"
  let restartRequired ← trimmedOr runtimePayload record "restart_required"
  let gatewayNames ← trimmedOr runtimePayload record "gateway_names"
  let roles ← trimmedOr runtimePayload record "roles"
  return {
    summary := orText message eventType
    details := detailRows [("Silo", siloName), ("Mode", mode), ("Results", resultCount), ("Warnings", warningCount),
      ("Restart", restartRequired), ("Gateways", gatewayNames), ("Roles", roles), ("Operation", operationId)]
    runtimeStatus := none }

def siloRequestContent (message : String) (requestPayload : Option Fields) : FeedContent where
  summary :=
    orText message ("Silo request updated: " ++ (readString requestPayload ["display_name"]).getD "Silo request" ++ ".")
  details := detailRows [("Status", readString requestPayload ["status"]),
    ("Previous", readString requestPayload ["previous_status"]), ("Priority", readString requestPayload ["priority"]),
    ("Scope", readString requestPayload ["scope"]), ("Shape", readString requestPayload ["silo_kind"]),
    ("Demand", readString requestPayload ["source_task_title"]),
    ("Demand status", readString requestPayload ["source_task_status"]),
    ("Demand priority", readString requestPayload ["source_task_priority"]),
    ("Silo", readString requestPayload ["materialized_silo_slug"])]
  runtimeStatus := none

def queueWorkerContent (numbers : NumberTexts) (eventType message : String) (telemetry record : Option Fields) :
    Read FeedContent := do
  let queueName ← trimmedOr telemetry record "queue_name"
  let status ← trimmedOr telemetry record "status"
  let taskType ← trimmedOr telemetry record "task_type"
  let attempt := numberOr telemetry record "attempt"
  let count := numberOr telemetry record "count"
  let throttleSeconds := numberOr telemetry record "throttle_seconds"
  let retryDelaySeconds := numberOr telemetry record "retry_delay_seconds"
  let error ← trimmedOr telemetry record "error"
  let attemptRow ← printedRow numbers "Attempt" "" attempt
  let countRow ← printedRow numbers "Count" "" count
  let throttleRow ← printedRow numbers "Throttle" "s" throttleSeconds
  let retryRow ← printedRow numbers "Retry" "s" retryDelaySeconds
  return {
    summary := orText message ((status.map fun status => "Queue worker " ++ status ++ ".").getD eventType)
    details := detailRows [("Queue", queueName), ("Status", status), ("Task type", taskType)] ++ attemptRow ++
      countRow ++ throttleRow ++ retryRow ++ detailRows [("Error", error)]
    runtimeStatus := none }

def webhookDispatchContent (numbers : NumberTexts) (eventType message : String) (telemetry record : Option Fields) :
    Read FeedContent := do
  let status ← trimmedOr telemetry record "status"
  let payloadId ← trimmedOr telemetry record "payload_id"
  let webhookId ← trimmedOr telemetry record "webhook_id"
  let attempt := numberOr telemetry record "attempt"
  let count := numberOr telemetry record "count"
  let durationMs := numberOr telemetry record "duration_ms"
  let throttleSeconds := numberOr telemetry record "throttle_seconds"
  let retryDelaySeconds := numberOr telemetry record "retry_delay_seconds"
  let error ← trimmedOr telemetry record "error"
  let attemptRow ← printedRow numbers "Attempt" "" attempt
  let countRow ← printedRow numbers "Count" "" count
  let durationRow ← printedRow numbers "Duration" "ms" durationMs
  let throttleRow ← printedRow numbers "Throttle" "s" throttleSeconds
  let retryRow ← printedRow numbers "Retry" "s" retryDelaySeconds
  return {
    summary := orText message ((status.map fun status => "Webhook dispatch " ++ status ++ ".").getD eventType)
    details := detailRows [("Status", status), ("Payload", payloadId), ("Webhook", webhookId)] ++ attemptRow ++
      countRow ++ durationRow ++ throttleRow ++ retryRow ++ detailRows [("Error", error)]
    runtimeStatus := none }

/-- What is shown of an event of another kind: the first that there is, of a board, of a gateway, and of the fields
that both have. -/
def otherContent (eventType message : String) (record : Fields) : Read (Option FeedContent) := do
  let boardPayload := parseBoardActivityPayload record
  let gatewayPayload := parseGatewayActivityPayload record
  let agentPayload := parseAgentActivityPayload record
  let resolvedBoard ←
    if startsWith eventType "board." then resolveBoardActivityContent eventType message boardPayload else .ok none
  match resolvedBoard with
  | some content => return some content.withoutStatus
  | none =>
    match ← resolveGatewayActivityContent eventType message gatewayPayload agentPayload record with
    | some content => return some content.withoutStatus
    | none =>
      return (← notificationContent eventType message boardPayload gatewayPayload record).map ActivityContent.withoutStatus

/-- `task.created`, `task.updated` and `task.status_changed`. -/
def isTaskChange (eventType : String) : Bool :=
  eventType = "task.created" || eventType = "task.updated" || eventType = "task.status_changed"

def resolveActivityFeedContent (browser : Browser) (eventType : String) (message : Option String) (payload : JsValue) :
    Read FeedContent := do
  let normalizedMessage := trimText (message.getD "")
  let normalizedPayload := toRecord payload
  let nothing : FeedContent := { summary := orText normalizedMessage eventType, details := [], runtimeStatus := none }
  if startsWith eventType "task.execution_run." then
    return resolveRuntimeRunFeedContent browser eventType (some normalizedMessage) ((normalizedPayload.map .obj).getD .null)
  else if isTaskChange eventType then
    taskChangeContent eventType normalizedMessage (parseTaskActivityPayload normalizedPayload)
  else if startsWith eventType "approval." then
    approvalContent eventType normalizedMessage (parseApprovalActivityPayload normalizedPayload)
  else if startsWith eventType "agent." then
    let agentPayload := parseAgentActivityPayload normalizedPayload
    let gatewayPayload := parseGatewayActivityPayload normalizedPayload
    match ← resolveGatewayActivityContent eventType normalizedMessage gatewayPayload agentPayload normalizedPayload with
    | some content => return content.withoutStatus
    | none => return (← agentContent eventType normalizedMessage agentPayload normalizedPayload).withoutStatus
  else if startsWith eventType "task." && normalizedPayload.isSome then
    taskContent eventType normalizedMessage (parseTaskActivityPayload normalizedPayload)
  else if startsWith eventType "silo.runtime." then
    siloRuntimeContent eventType normalizedMessage (parseSiloRuntimeActivityPayload normalizedPayload) normalizedPayload
  else if startsWith eventType "silo.request." then
    return siloRequestContent normalizedMessage (parseSiloRequestPayload normalizedPayload)
  else if startsWith eventType "queue.worker." then
    queueWorkerContent browser.numbers eventType normalizedMessage (parseQueueWorkerTelemetryPayload normalizedPayload)
      normalizedPayload
  else if startsWith eventType "webhook.dispatch." then
    webhookDispatchContent browser.numbers eventType normalizedMessage (parseWebhookTelemetryPayload normalizedPayload)
      normalizedPayload
  else
    match normalizedPayload with
    | none => return nothing
    | some record => return (← otherContent eventType normalizedMessage record).getD nothing

/-! ## Reads that do not throw -/

def Succeeds {α : Type} (x : Read α) : Prop := ∃ a, x = .ok a

variable {α : Type}

theorem succeeds_ok (a : α) : Succeeds (.ok a : Read α) := ⟨a, rfl⟩

theorem not_succeeds_error (e : FeedError) : ¬ Succeeds (.error e : Read α) := nofun

variable {β : Type}

theorem succeeds_bind {x : Read α} {f : α → Read β} {P Q : Prop} (hx : Succeeds x ↔ P)
    (hf : ∀ a, Succeeds (f a) ↔ Q) : Succeeds (x >>= f) ↔ P ∧ Q := by
  rw [← hx]
  cases x with
  | error e => exact iff_of_false (not_succeeds_error e) fun h => not_succeeds_error e h.1
  | ok a => exact (hf a).trans (and_iff_right (succeeds_ok a)).symm

theorem succeeds_ite {c : Prop} [Decidable c] {x y : Read α} {P Q : Prop} (hx : Succeeds x ↔ P) (hy : Succeeds y ↔ Q) :
    Succeeds (if c then x else y) ↔ if c then P else Q := by
  by_cases hc : c
  · rwa [if_pos hc, if_pos hc]
  · rwa [if_neg hc, if_neg hc]

theorem succeeds_bind_pure {x : Read α} {f : α → β} {P : Prop} (hx : Succeeds x ↔ P) :
    Succeeds (x >>= fun a => pure (f a)) ↔ P :=
  (succeeds_bind hx fun a => iff_of_true (succeeds_ok (f a)) trivial).trans (and_iff_left trivial)

/-! ### Fields that are texts -/

/-- A value that is read as a text without throwing: it is not there, or null, or a text. -/
def isTrimmable : Option JsValue → Bool
  | none | some .null | some (.str _) => true
  | _ => false

def TextAt (payload : Option Fields) (key : String) : Prop := isTrimmable (fieldOf payload key) = true

/-- Two fields, the second of which is read only if there is no text in the first. -/
def TextAtEither (first : Option Fields) (key : String) (second : Option Fields) (other : String) : Prop :=
  TextAt first key ∧ (textOf? (fieldOf first key) = none → TextAt second other)

def TextsAt (payload : Option Fields) (keys : List String) : Prop := ∀ key ∈ keys, TextAt payload key

section Fields
variable {payload second : Option Fields} {key other : String}

theorem textAt_none : TextAt none key := rfl

theorem textsAt_cons {keys : List String} : TextsAt payload (key :: keys) ↔ TextAt payload key ∧ TextsAt payload keys :=
  List.forall_mem_cons

theorem textsAt_singleton : TextsAt payload [key] ↔ TextAt payload key := List.forall_mem_singleton

theorem trimmed_of_textAt (h : TextAt payload key) : trimmed payload key = .ok (textOf? (fieldOf payload key)) := by
  unfold TextAt at h
  unfold trimmed
  cases hvalue : fieldOf payload key with
  | none => rfl
  | some value =>
    rw [hvalue] at h
    cases value with
    | null | str s => rfl
    | bool b | num x | arr items | obj fields => cases h

theorem succeeds_trimmed : Succeeds (trimmed payload key) ↔ TextAt payload key := by
  refine ⟨fun ⟨a, ha⟩ => ?_, fun h => trimmed_of_textAt h ▸ succeeds_ok _⟩
  unfold trimmed at ha
  unfold TextAt
  cases hvalue : fieldOf payload key with
  | none => rfl
  | some value =>
    rw [hvalue] at ha
    cases value with
    | null | str s => rfl
    | bool b | num x | arr items | obj fields => cases ha

theorem trimmed_eq_ok {text : Option String} (h : trimmed payload key = .ok text) :
    text = textOf? (fieldOf payload key) := by
  rw [trimmed_of_textAt (succeeds_trimmed.mp ⟨text, h⟩)] at h
  exact (Except.ok.inj h).symm

theorem succeeds_orRead {right : Read (Option String)} : Succeeds (orRead (trimmed payload key) right) ↔
    TextAt payload key ∧ (textOf? (fieldOf payload key) = none → Succeeds right) := by
  by_cases h : TextAt payload key
  · rw [trimmed_of_textAt h, and_iff_right h]
    cases textOf? (fieldOf payload key) with
    | none => exact ⟨fun hright _ => hright, fun hright => hright rfl⟩
    | some text => exact iff_of_true (succeeds_ok (some text)) nofun
  · refine iff_of_false (fun hread => h (succeeds_trimmed.mp ?_)) fun hand => h hand.1
    cases hleft : trimmed payload key with
    | error e =>
      rw [hleft] at hread
      exact absurd hread (not_succeeds_error e)
    | ok text => exact succeeds_ok text

theorem succeeds_orRead_ok (value : Option String) :
    Succeeds (orRead (trimmed payload key) (.ok value)) ↔ TextAt payload key :=
  succeeds_orRead.trans (and_iff_left fun _ => succeeds_ok value)

theorem succeeds_trimmedOr {record : Option Fields} : Succeeds (trimmedOr payload record key) ↔ TextAt payload key :=
  succeeds_orRead_ok _

theorem succeeds_orRead_trimmed :
    Succeeds (orRead (trimmed payload key) (trimmed second other)) ↔ TextAtEither payload key second other := by
  rw [succeeds_orRead, succeeds_trimmed, TextAtEither]

theorem succeeds_orRead_orRead (value : Option String) :
    Succeeds (orRead (trimmed payload key) (orRead (trimmed second other) (.ok value))) ↔
      TextAtEither payload key second other := by
  rw [succeeds_orRead, succeeds_orRead_ok, TextAtEither]

theorem succeeds_trimmedEither {record : Option Fields} :
    Succeeds (trimmedEither payload second record key) ↔ TextAtEither payload key second key :=
  succeeds_orRead_orRead _

theorem orRead_eq_ok_none {left right : Read (Option String)} (h : orRead left right = .ok none) : left = .ok none := by
  cases left with
  | error e => cases h
  | ok value =>
    cases value with
    | none => rfl
    | some text => cases h

theorem succeeds_text {x : Read (Option String)} {f : Option String → Read β} {keys : List String}
    (hx : Succeeds x ↔ TextAt payload key) (hf : ∀ a, Succeeds (f a) ↔ TextsAt payload keys) :
    Succeeds (x >>= f) ↔ TextsAt payload (key :: keys) :=
  (succeeds_bind hx hf).trans textsAt_cons.symm

theorem succeeds_last {x : Read (Option String)} {f : Option String → β} (hx : Succeeds x ↔ TextAt payload key) :
    Succeeds (x >>= fun a => pure (f a)) ↔ TextsAt payload [key] :=
  (succeeds_bind_pure hx).trans textsAt_singleton.symm

end Fields

/-! ### Fields that are printed -/

mutual

/-- A value that has a text: there is no object in it with a key `toString` of its own. -/
def isPrintable : JsValue → Bool
  | .arr items => arePrintable items
  | .obj fields => (fields.lookup "toString").isNone
  | _ => true

def arePrintable : List JsValue → Bool
  | [] => true
  | v :: items => isPrintable v && arePrintable items

end

def PrintableAt (payload : Option Fields) (key : String) : Prop := (fieldOf payload key).all isPrintable = true

section Printing
variable (numbers : NumberTexts)

theorem succeeds_printItems {items : List JsValue}
    (ih : ∀ v ∈ items, (Succeeds (printValue numbers v) ↔ isPrintable v = true)) :
    Succeeds (printItems numbers items) ↔ arePrintable items = true := by
  induction items with
  | nil => exact iff_of_true (succeeds_ok []) rfl
  | cons v items ihitems =>
    have hv := ih v List.mem_cons_self
    have hitems := ihitems fun w hw => ih w (List.mem_cons_of_mem v hw)
    rw [printItems, arePrintable, Bool.and_eq_true]
    cases v with
    | null => exact succeeds_bind (iff_of_true (succeeds_ok "") rfl) fun _ => succeeds_bind_pure hitems
    | bool b | num x | str s | arr items | obj fields => exact succeeds_bind hv fun _ => succeeds_bind_pure hitems

theorem succeeds_printValue (v : JsValue) : Succeeds (printValue numbers v) ↔ isPrintable v = true := by
  induction v with
  | null => exact iff_of_true (succeeds_ok _) rfl
  | bool b => exact iff_of_true (succeeds_ok _) rfl
  | num x => exact iff_of_true (succeeds_ok _) rfl
  | str s => exact iff_of_true (succeeds_ok _) rfl
  | arr items ih =>
    rw [printValue, isPrintable]
    exact succeeds_bind_pure (succeeds_printItems numbers ih)
  | obj fields ih =>
    rw [printValue, isPrintable]
    cases fields.lookup "toString" with
    | none => exact iff_of_true (succeeds_ok _) rfl
    | some value => exact iff_of_false (not_succeeds_error _) nofun

theorem succeeds_printedRow (label unit : String) (payload record : Option Fields) (key : String) :
    Succeeds (printedRow numbers label unit (numberOr payload record key)) ↔ PrintableAt payload key := by
  have hnumber (number : Option Number) : Succeeds (printedRow numbers label unit (number.map .num)) := by
    cases number with
    | none => exact succeeds_ok _
    | some x => exact succeeds_ok _
  have hsome (value : JsValue) : Succeeds (printedRow numbers label unit (some value)) ↔ isPrintable value = true :=
    succeeds_bind_pure (succeeds_printValue numbers value)
  unfold PrintableAt numberOr
  cases fieldOf payload key with
  | none => exact iff_of_true (hnumber _) rfl
  | some value =>
    cases value with
    | null => exact iff_of_true (hnumber _) rfl
    | bool b | num x | str s | arr items | obj fields => exact hsome _

end Printing

/-! ## The payloads that are shown -/

section Contents
variable (eventType message : String)

def BoardTexts (payload : Option Fields) : Prop :=
  TextsAt payload ["notification_kind", "notification_status", "target_agent_name", "board_name", "source_board_name",
    "board_group_name", "error"]

theorem succeeds_board (payload : Fields) :
    Succeeds (resolveBoardActivityContent eventType message (some payload)) ↔ BoardTexts (some payload) := by
  iterate 6 refine succeeds_text succeeds_trimmed fun _ => ?_
  exact succeeds_last succeeds_trimmed

/-- What is read of the payload of a gateway, which may be one of an agent too. -/
def GatewayTexts (payload agentPayload : Option Fields) : Prop :=
  TextAt payload "notification_kind" ∧ TextAtEither payload "notification_status" payload "delivery_status" ∧
    TextAtEither agentPayload "agent_name" payload "target_agent_name" ∧
    TextAt payload "board_name" ∧ TextAt payload "gateway_name" ∧ TextAt payload "action" ∧ TextAt payload "target_kind" ∧
    TextAt payload "workspace_path" ∧ TextAtEither agentPayload "session_key" payload "session_key" ∧
    TextAtEither agentPayload "error" payload "error"

theorem succeeds_gateway (payload : Fields) (agentPayload rawPayload : Option Fields) :
    Succeeds (resolveGatewayActivityContent eventType message (some payload) agentPayload rawPayload) ↔
      GatewayTexts (some payload) agentPayload := by
  refine succeeds_bind succeeds_trimmed fun _ => ?_
  refine succeeds_bind succeeds_orRead_trimmed fun _ => ?_
  refine succeeds_bind (succeeds_orRead_orRead _) fun _ => ?_
  refine succeeds_bind succeeds_trimmed fun _ => ?_
  iterate 4 refine succeeds_bind succeeds_trimmedOr fun _ => ?_
  refine succeeds_bind succeeds_trimmedEither fun _ => ?_
  exact succeeds_bind_pure succeeds_trimmedEither

theorem succeeds_agentContent (agentPayload record : Option Fields) :
    Succeeds (agentContent eventType message agentPayload record) ↔
      TextsAt agentPayload ["agent_name", "action", "delivery_status", "gateway_name", "target_kind", "workspace_path",
        "session_key", "error"] := by
  iterate 7 refine succeeds_text succeeds_trimmedOr fun _ => ?_
  exact succeeds_last succeeds_trimmedOr

theorem succeeds_taskChangeContent (payload : Option Fields) : Succeeds (taskChangeContent eventType message payload) ↔
    TextsAt payload ["task_title", "status", "previous_status", "reason", "dependency_task_title"] := by
  iterate 4 refine succeeds_text succeeds_trimmed fun _ => ?_
  exact succeeds_last succeeds_trimmed

theorem succeeds_approvalContent (payload : Option Fields) : Succeeds (approvalContent eventType message payload) ↔
    TextsAt payload ["approval_status", "action_type", "notification_status", "error"] := by
  iterate 3 refine succeeds_text succeeds_trimmed fun _ => ?_
  exact succeeds_last succeeds_trimmed

theorem succeeds_taskContent (payload : Option Fields) : Succeeds (taskContent eventType message payload) ↔
    TextsAt payload ["task_title", "target_agent_name", "notification_kind", "notification_status", "error", "status"] := by
  iterate 5 refine succeeds_text succeeds_trimmed fun _ => ?_
  exact succeeds_last succeeds_trimmed

theorem succeeds_siloRuntimeContent (payload record : Option Fields) :
    Succeeds (siloRuntimeContent eventType message payload record) ↔
      TextsAt payload ["silo_name", "mode", "operation_id", "result_count", "warning_count", "restart_required",
        "gateway_names", "roles"] := by
  iterate 7 refine succeeds_text succeeds_trimmedOr fun _ => ?_
  exact succeeds_last succeeds_trimmedOr

/-- What is read of the payload of a queue, and printed of it. -/
def QueueTexts (payload : Option Fields) : Prop :=
  TextAt payload "queue_name" ∧ TextAt payload "status" ∧ TextAt payload "task_type" ∧ TextAt payload "error" ∧
    PrintableAt payload "attempt" ∧ PrintableAt payload "count" ∧ PrintableAt payload "throttle_seconds" ∧
    PrintableAt payload "retry_delay_seconds"

theorem succeeds_queueWorkerContent (numbers : NumberTexts) (payload record : Option Fields) :
    Succeeds (queueWorkerContent numbers eventType message payload record) ↔ QueueTexts payload := by
  iterate 4 refine succeeds_bind succeeds_trimmedOr fun _ => ?_
  iterate 3 refine succeeds_bind (succeeds_printedRow numbers _ _ _ _ _) fun _ => ?_
  exact succeeds_bind_pure (succeeds_printedRow numbers _ _ _ _ _)

/-- What is read of the payload of a webhook, and printed of it. -/
def WebhookTexts (payload : Option Fields) : Prop :=
  TextAt payload "status" ∧ TextAt payload "payload_id" ∧ TextAt payload "webhook_id" ∧ TextAt payload "error" ∧
    PrintableAt payload "attempt" ∧ PrintableAt payload "count" ∧ PrintableAt payload "duration_ms" ∧
    PrintableAt payload "throttle_seconds" ∧ PrintableAt payload "retry_delay_seconds"

theorem succeeds_webhookDispatchContent (numbers : NumberTexts) (payload record : Option Fields) :
    Succeeds (webhookDispatchContent numbers eventType message payload record) ↔ WebhookTexts payload := by
  iterate 4 refine succeeds_bind succeeds_trimmedOr fun _ => ?_
  iterate 4 refine succeeds_bind (succeeds_printedRow numbers _ _ _ _ _) fun _ => ?_
  exact succeeds_bind_pure (succeeds_printedRow numbers _ _ _ _ _)

/-! ### The first content that there is -/

theorem eq_none_of_detailRows {rows : List (String × Option String)} (h : detailRows rows = []) :
    ∀ row ∈ rows, row.2 = none :=
  fun row hrow => Option.map_eq_none_iff.mp (List.filterMap_eq_nil_iff.mp h row hrow)

theorem of_pure_eq_ok_none {α : Type} {p : Prop} [Decidable p] {content : α}
    (h : (pure (if p then none else some content) : Read (Option α)) = .ok none) : p := by
  by_contra hp
  rw [if_neg hp, pure_eq_ok] at h
  cases h

variable {record : Option Fields} {payload : Fields}

theorem exists_text_of_payloadWith {keys : List String} (h : payloadWith keys record = some payload) :
    ∃ key ∈ keys, textOf? (fieldOf (some payload) key) ≠ none := by
  obtain ⟨-, hany⟩ := Option.filter_eq_some_iff.mp h
  obtain ⟨key, hkey, hstring⟩ := List.any_eq_true.mp hany
  exact ⟨key, hkey, Option.isSome_iff_ne_none.mp hstring⟩

theorem board_ne_none (h : parseBoardActivityPayload record = some payload) :
    resolveBoardActivityContent eventType message (some payload) ≠ .ok none := by
  intro hnone
  obtain ⟨notificationKind, hkind, hnone⟩ := bind_eq_ok.mp hnone
  obtain ⟨notificationStatus, -, hnone⟩ := bind_eq_ok.mp hnone
  obtain ⟨targetAgentName, hagent, hnone⟩ := bind_eq_ok.mp hnone
  obtain ⟨boardName, hboard, hnone⟩ := bind_eq_ok.mp hnone
  obtain ⟨sourceBoardName, -, hnone⟩ := bind_eq_ok.mp hnone
  obtain ⟨groupName, -, hnone⟩ := bind_eq_ok.mp hnone
  obtain ⟨error, -, hnone⟩ := bind_eq_ok.mp hnone
  have hrows := eq_none_of_detailRows (of_pure_eq_ok_none hnone).1
  simp only [List.forall_mem_cons] at hrows
  obtain ⟨rfl, -, rfl, rfl, -⟩ := hrows
  obtain ⟨key, hkey, htext⟩ := exists_text_of_payloadWith h
  simp only [boardKeys, List.mem_cons, List.not_mem_nil, or_false] at hkey
  obtain rfl | rfl | rfl := hkey
  · exact htext (trimmed_eq_ok hkind).symm
  · exact htext (trimmed_eq_ok hboard).symm
  · exact htext (trimmed_eq_ok hagent).symm

theorem gateway_ne_none (agentPayload rawPayload : Option Fields)
    (h : parseGatewayActivityPayload record = some payload) :
    resolveGatewayActivityContent eventType message (some payload) agentPayload rawPayload ≠ .ok none := by
  intro hnone
  obtain ⟨notificationKind, hkind, hnone⟩ := bind_eq_ok.mp hnone
  obtain ⟨notificationStatus, -, hnone⟩ := bind_eq_ok.mp hnone
  obtain ⟨targetAgentName, -, hnone⟩ := bind_eq_ok.mp hnone
  obtain ⟨boardName, -, hnone⟩ := bind_eq_ok.mp hnone
  obtain ⟨gatewayName, hgateway, hnone⟩ := bind_eq_ok.mp hnone
  obtain ⟨action, haction, hnone⟩ := bind_eq_ok.mp hnone
  obtain ⟨targetKind, -, hnone⟩ := bind_eq_ok.mp hnone
  obtain ⟨workspacePath, -, hnone⟩ := bind_eq_ok.mp hnone
  obtain ⟨sessionKey, -, hnone⟩ := bind_eq_ok.mp hnone
  obtain ⟨error, -, hnone⟩ := bind_eq_ok.mp hnone
  obtain ⟨hrows, hfallback⟩ := of_pure_eq_ok_none hnone
  have hnone : notificationKind = none ∧ gatewayName = none ∧ action = none := by
    have hrows := eq_none_of_detailRows hrows
    cases hagent : startsWith eventType "agent." with
    | false =>
      rw [hagent, if_neg Bool.false_ne_true, List.forall_mem_append] at hrows
      simp only [List.forall_mem_cons] at hrows
      obtain ⟨⟨hkind, -, -, -, hgateway, haction, -⟩, -⟩ := hrows
      exact ⟨hkind, hgateway, haction⟩
    | true =>
      rw [hagent, if_pos rfl, List.forall_mem_append] at hrows
      simp only [List.forall_mem_cons] at hrows
      obtain ⟨⟨-, rfl, -, hgateway, -⟩, -⟩ := hrows
      -- The kind of an event of an agent is in its summary.
      rw [hagent, Bool.or_true, if_pos rfl, Option.none_or, Option.map_eq_none_iff] at hfallback
      exact ⟨hfallback, hgateway, rfl⟩
  obtain ⟨rfl, rfl, rfl⟩ := hnone
  obtain ⟨key, hkey, htext⟩ := exists_text_of_payloadWith h
  simp only [gatewayKeys, List.mem_cons, List.not_mem_nil, or_false] at hkey
  obtain rfl | rfl | rfl := hkey
  · exact htext (trimmed_eq_ok hkind).symm
  · exact htext (trimmed_eq_ok (orRead_eq_ok_none hgateway)).symm
  · exact htext (trimmed_eq_ok (orRead_eq_ok_none haction)).symm

theorem textAtEither_none {payload : Option Fields} {key other : String} :
    TextAtEither payload key none other ↔ TextAt payload key := and_iff_left fun _ => textAt_none

theorem succeeds_notificationContent (boardPayload record : Option Fields) :
    Succeeds (notificationContent eventType message boardPayload none record) ↔ BoardTexts boardPayload := by
  iterate 4 refine succeeds_text (succeeds_trimmedEither.trans textAtEither_none) fun _ => ?_
  iterate 2 refine succeeds_text succeeds_trimmedOr fun _ => ?_
  exact succeeds_last (succeeds_trimmedEither.trans textAtEither_none)

theorem succeeds_bind_first {α : Type} {x : Read (Option α)} {f : Option α → Read β}
    (hsome : ∀ content, Succeeds (f (some content))) (hx : x ≠ .ok none) : Succeeds (x >>= f) ↔ Succeeds x := by
  cases x with
  | error e => exact iff_of_false (not_succeeds_error e) (not_succeeds_error e)
  | ok content =>
    cases content with
    | none => exact absurd rfl hx
    | some content => exact iff_of_true (hsome content) (succeeds_ok _)

theorem succeeds_gateway_first {f : Option ActivityContent → Read β} {P : Prop} (agentPayload record : Option Fields)
    (hsome : ∀ content, Succeeds (f (some content)))
    (hnone : parseGatewayActivityPayload record = none → (Succeeds (f none) ↔ P)) :
    Succeeds
        (resolveGatewayActivityContent eventType message (parseGatewayActivityPayload record) agentPayload record >>=
          f) ↔
      if (parseGatewayActivityPayload record).isSome then GatewayTexts (parseGatewayActivityPayload record) agentPayload
      else P := by
  cases hgateway : parseGatewayActivityPayload record with
  | none =>
    rw [if_neg (by decide)]
    exact hnone hgateway
  | some payload =>
    rw [if_pos Option.isSome_some, ← succeeds_gateway eventType message payload agentPayload record]
    exact succeeds_bind_first hsome (gateway_ne_none eventType message agentPayload record hgateway)

def AgentShowable (record : Option Fields) : Prop :=
  if (parseGatewayActivityPayload record).isSome then
    GatewayTexts (parseGatewayActivityPayload record) (parseAgentActivityPayload record)
  else
    TextsAt (parseAgentActivityPayload record) ["agent_name", "action", "delivery_status", "gateway_name", "target_kind",
      "workspace_path", "session_key", "error"]

def OtherShowable (record : Option Fields) : Prop :=
  if startsWith eventType "board." ∧ (parseBoardActivityPayload record).isSome then
    BoardTexts (parseBoardActivityPayload record)
  else if (parseGatewayActivityPayload record).isSome then
    GatewayTexts (parseGatewayActivityPayload record) (parseAgentActivityPayload record)
  else BoardTexts (parseBoardActivityPayload record)

theorem otherShowable_none : OtherShowable eventType none := by
  have htexts : BoardTexts none := fun _ _ => textAt_none
  unfold OtherShowable
  split
  · exact htexts
  · exact htexts

theorem succeeds_gateway_other (record : Fields) :
    Succeeds (do
      match ← resolveGatewayActivityContent eventType message (parseGatewayActivityPayload record)
        (parseAgentActivityPayload record) record with
      | some content => return some content.withoutStatus
      | none =>
        return (← notificationContent eventType message (parseBoardActivityPayload record)
          (parseGatewayActivityPayload record)
          record).map ActivityContent.withoutStatus) ↔
      if (parseGatewayActivityPayload record).isSome then
        GatewayTexts (parseGatewayActivityPayload record) (parseAgentActivityPayload record)
      else BoardTexts (parseBoardActivityPayload record) := by
  refine succeeds_gateway_first eventType message _ _ ?_ fun hgateway => ?_
  · exact fun content => succeeds_ok _
  · rw [hgateway]
    exact succeeds_bind_pure (succeeds_notificationContent eventType message _ _)

theorem succeeds_otherContent (record : Fields) :
    Succeeds (otherContent eventType message record) ↔ OtherShowable eventType record := by
  unfold otherContent OtherShowable
  dsimp only
  cases startsWith eventType "board." with
  | false =>
    rw [if_neg Bool.false_ne_true, if_neg fun h => Bool.false_ne_true h.1]
    exact succeeds_gateway_other eventType message record
  | true =>
    rw [if_pos rfl]
    cases hboard : parseBoardActivityPayload (some record) with
    | none =>
      have hother := succeeds_gateway_other eventType message record
      rw [hboard] at hother
      rw [if_neg fun h => Bool.false_ne_true h.2]
      exact hother
    | some payload =>
      rw [if_pos ⟨rfl, rfl⟩, ← succeeds_board eventType message payload]
      refine succeeds_bind_first ?_ (board_ne_none eventType message hboard)
      exact fun content => succeeds_ok _

end Contents

def Showable (eventType : String) (record : Option Fields) : Prop :=
  if startsWith eventType "task.execution_run." then True
  else if isTaskChange eventType then
    TextsAt (parseTaskActivityPayload record) ["task_title", "status", "previous_status", "reason", "dependency_task_title"]
  else if startsWith eventType "approval." then
    TextsAt (parseApprovalActivityPayload record) ["approval_status", "action_type", "notification_status", "error"]
  else if startsWith eventType "agent." then AgentShowable record
  else if startsWith eventType "task." && record.isSome then
    TextsAt (parseTaskActivityPayload record) ["task_title", "target_agent_name", "notification_kind", "notification_status",
      "error", "status"]
  else if startsWith eventType "silo.runtime." then
    TextsAt (parseSiloRuntimeActivityPayload record) ["silo_name", "mode", "operation_id", "result_count", "warning_count",
      "restart_required", "gateway_names", "roles"]
  else if startsWith eventType "silo.request." then True
  else if startsWith eventType "queue.worker." then QueueTexts (parseQueueWorkerTelemetryPayload record)
  else if startsWith eventType "webhook.dispatch." then WebhookTexts (parseWebhookTelemetryPayload record)
  else OtherShowable eventType record

/-- **An event is shown exactly if its payload is one that is shown**: the fields that are read of it are texts, and
those that are printed have a text. -/
theorem succeeds_resolve_iff (browser : Browser) (eventType : String) (message : Option String) (payload : JsValue) :
    (∃ content, resolveActivityFeedContent browser eventType message payload = .ok content) ↔
      Showable eventType (toRecord payload) := by
  show Succeeds _ ↔ _
  unfold resolveActivityFeedContent Showable
  dsimp only
  refine succeeds_ite ?run (succeeds_ite ?taskChange (succeeds_ite ?approval (succeeds_ite ?agent (succeeds_ite ?task
    (succeeds_ite ?siloRuntime (succeeds_ite ?siloRequest (succeeds_ite ?queue (succeeds_ite ?webhook ?other))))))))
  case run => exact iff_of_true (succeeds_ok _) trivial
  case taskChange => exact succeeds_taskChangeContent eventType _ _
  case approval => exact succeeds_approvalContent eventType _ _
  case agent =>
    refine succeeds_gateway_first eventType _ _ _ ?_ fun _ => ?_
    · exact fun content => succeeds_ok _
    · exact succeeds_bind_pure (succeeds_agentContent eventType _ _ _)
  case task => exact succeeds_taskContent eventType _ _
  case siloRuntime => exact succeeds_siloRuntimeContent eventType _ _ _
  case siloRequest => exact iff_of_true (succeeds_ok _) trivial
  case queue => exact succeeds_queueWorkerContent eventType _ _ _ _
  case webhook => exact succeeds_webhookDispatchContent eventType _ _ _ _
  case other =>
    cases toRecord payload with
    | none => exact iff_of_true (succeeds_ok _) (otherShowable_none eventType)
    | some record => exact succeeds_bind_pure (succeeds_otherContent eventType _ record)

/-- A number where a text is expected throws. -/
theorem not_everyEventShown : ¬ ∀ (browser : Browser) (eventType : String) (message : Option String) (payload : JsValue),
    ∃ content, resolveActivityFeedContent browser eventType message payload = .ok content := by
  intro h
  obtain ⟨numbers⟩ := exists_numberTexts
  let browser : Browser :=
    { numbers, letters := Sample.asciiLetters, formatNumber := fun x => String.ofList (x.toString numbers) }
  obtain ⟨content, hcontent⟩ := h browser "task.updated" none
    (.obj [("task_title", .str "Fix the door"), ("status", .num (.ofRat 5))])
  have hthrows : resolveActivityFeedContent browser "task.updated" none
      (.obj [("task_title", .str "Fix the door"), ("status", .num (.ofRat 5))]) = .error (.notAFunction "status") := rfl
  rw [hthrows] at hcontent
  cases hcontent

end SiloForge.Frontend
