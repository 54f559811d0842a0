import SiloForge.Queue.Envelope

/-!
# The payloads of queued tasks

Three kinds of tasks are queued, each with a payload contract and a decoder of its own. The decoders also take
legacy tasks.

* `decodeTaskExecutionDispatchTask`, `decodeLifecycleTask`, `decodeWebhookTask` : the decoders;
* `taskFromDelivery`, `taskFromDispatch`, `taskFromReconcile` : the tasks of a delivery, a dispatch and a check;
* `decodeWebhookTask_taskFromDelivery`, `decodeTaskExecutionDispatchTask_taskFromDispatch`,
  `decodeLifecycleTask_taskFromReconcile` : what is written is read back.
-/

namespace SiloForge

/-! ## Execution dispatches -/

structure QueuedTaskExecutionDispatch where
  organizationId : Uuid
  boardId : Uuid
  taskId : Uuid
  runId : Uuid
  attempts : Int := 0
  deriving DecidableEq

structure QueuedAgentLifecycleReconcile where
  agentId : Uuid
  gatewayId : Uuid
  boardId : Option Uuid
  generation : Int
  checkinDeadlineAt : DateTime
  attempts : Int := 0
  deriving DecidableEq

structure QueuedInboundDelivery where
  boardId : Uuid
  webhookId : Uuid
  payloadId : Uuid
  receivedAt : DateTime
  attempts : Int := 0
  deriving DecidableEq

namespace TaskType

def taskExecutionDispatch : String := "task_execution_dispatch"
def agentLifecycleReconcile : String := "agent_lifecycle_reconcile"
def webhookDelivery : String := "webhook_delivery"
def legacy : String := "legacy"

end TaskType

/-! ## Contracts -/

def taskExecutionDispatchSchema : ContractSchema where
  required := ["organization_id", "board_id", "task_id", "run_id"]
  properties := ["organization_id", "board_id", "task_id", "run_id"].map fun key => (key, { types := [.string] })

def agentLifecycleReconcileSchema : ContractSchema where
  required := ["agent_id", "gateway_id", "generation", "checkin_deadline_at"]
  properties := [("agent_id", { types := [.string] }), ("gateway_id", { types := [.string] }),
    ("board_id", { types := [.string, .null] }), ("generation", { types := [.integer], minimum := some 0 }),
    ("checkin_deadline_at", { types := [.string] })]

def webhookDeliverySchema : ContractSchema where
  required := ["board_id", "webhook_id", "payload_id", "received_at"]
  properties := ["board_id", "webhook_id", "payload_id", "received_at"].map fun key => (key, { types := [.string] })

/-! ## Decoders -/

def requireTaskType (task : QueuedTask) (expected : String) : Except QueueError Unit :=
  require (task.taskType = expected ∨ task.taskType = TaskType.legacy) (.taskType task.taskType expected)

def decodeAttempts (task : QueuedTask) : Except QueueError Int :=
  match Json.lookup task.payload "attempts" with
  | some value => orFail (toInt? value) (.field "attempts")
  | none => .ok task.attempts

def decodeTaskExecutionDispatchTask (task : QueuedTask) : Except QueueError QueuedTaskExecutionDispatch := do
  requireTaskType task TaskType.taskExecutionDispatch
  (taskExecutionDispatchSchema.validate (.obj task.payload)).mapError .contract
  let organizationId ← readUuid task.payload "organization_id"
  let boardId ← readUuid task.payload "board_id"
  let taskId ← readUuid task.payload "task_id"
  let runId ← readUuid task.payload "run_id"
  let attempts ← decodeAttempts task
  return { organizationId, boardId, taskId, runId, attempts }

/-- A uuid that may be absent, null or an empty text. -/
def readUuid? (fields : Fields) (key : String) : Except QueueError (Option Uuid) :=
  match (Json.lookup fields key).bind Json.str? with
  | none => .ok none
  | some text => if text = "" then .ok none else (orFail (Uuid.ofString? text) (.field key)).map some

def decodeLifecycleTask (texts : QueueTexts) (task : QueuedTask) :
    Except QueueError QueuedAgentLifecycleReconcile := do
  requireTaskType task TaskType.agentLifecycleReconcile
  (agentLifecycleReconcileSchema.validate (.obj task.payload)).mapError .contract
  let generation ← readInt task.payload "generation" none
  let checkinDeadlineAt ← readDateTime texts task.payload "checkin_deadline_at"
  let boardId ← readUuid? task.payload "board_id"
  let agentId ← readUuid task.payload "agent_id"
  let gatewayId ← readUuid task.payload "gateway_id"
  let attempts ← decodeAttempts task
  return { agentId, gatewayId, boardId, generation, checkinDeadlineAt, attempts }

def legacyDeliveryFields (texts : QueueTexts) (now : Instant) (payload : Fields) : Except QueueError Fields := do
  let boardId ← orFail (Json.lookup payload "board_id") (.field "board_id")
  let webhookId ← orFail (Json.lookup payload "webhook_id") (.field "webhook_id")
  let payloadId ← orFail (Json.lookup payload "payload_id") (.field "payload_id")
  let receivedAt := ((lookupOr payload "received_at" "created_at").bind Json.str?).getD (texts.isoformat (.utc now))
  return [("board_id", .str (toText texts boardId)), ("webhook_id", .str (toText texts webhookId)),
    ("payload_id", .str (toText texts payloadId)), ("received_at", .str receivedAt)]

def parseDelivery (texts : QueueTexts) (fields : Fields) (attempts : Except QueueError Int) :
    Except QueueError QueuedInboundDelivery := do
  (webhookDeliverySchema.validate (.obj fields)).mapError .contract
  let receivedAt ← readDateTime texts fields "received_at"
  let boardId ← readUuid fields "board_id"
  let webhookId ← readUuid fields "webhook_id"
  let payloadId ← readUuid fields "payload_id"
  let attempts ← attempts
  return { boardId, webhookId, payloadId, receivedAt, attempts }

def decodeWebhookTask (texts : QueueTexts) (now : Instant) (task : QueuedTask) :
    Except QueueError QueuedInboundDelivery := do
  requireTaskType task TaskType.webhookDelivery
  if task.taskType = TaskType.legacy then
    let fields ← legacyDeliveryFields texts now task.payload
    parseDelivery texts fields (decodeAttempts task)
  else parseDelivery texts task.payload (decodeAttempts task)

/-! ## Writing a delivery -/

def QueuedInboundDelivery.fields (p : QueuedInboundDelivery) (writeDateTime : DateTime → String) : Fields :=
  [("board_id", .str (Uuid.format p.boardId)), ("webhook_id", .str (Uuid.format p.webhookId)),
    ("payload_id", .str (Uuid.format p.payloadId)), ("received_at", .str (writeDateTime p.receivedAt))]

def finalizeDelivery (texts : QueueTexts) (p : QueuedInboundDelivery) : Except QueueError Fields := do
  let fields := p.fields texts.isoformat
  (webhookDeliverySchema.validate (.obj fields)).mapError .contract
  let receivedAt ← readDateTime texts fields "received_at"
  return { p with receivedAt }.fields texts.dump

def taskFromDelivery (texts : QueueTexts) (p : QueuedInboundDelivery) : Except QueueError QueuedTask := do
  let payload ← finalizeDelivery texts p
  return { taskType := TaskType.webhookDelivery, payload, createdAt := p.receivedAt, attempts := p.attempts }

/-! ## Payloads of any kind -/

inductive Decoded where
  | dispatch (p : QueuedTaskExecutionDispatch)
  | reconcile (p : QueuedAgentLifecycleReconcile)
  | delivery (p : QueuedInboundDelivery)
  deriving DecidableEq

namespace Decoded

def retry : Decoded → Decoded
  | .dispatch p => .dispatch { p with attempts := p.attempts + 1 }
  | .reconcile p => .reconcile { p with attempts := p.attempts + 1 }
  | .delivery p => .delivery { p with attempts := p.attempts + 1 }

end Decoded

/-- The payload of a task, read by the decoder of its type; a legacy task is a delivery. -/
def decodeTyped (texts : QueueTexts) (now : Instant) (task : QueuedTask) : Except QueueError Decoded :=
  if task.taskType = TaskType.taskExecutionDispatch then (decodeTaskExecutionDispatchTask task).map .dispatch
  else if task.taskType = TaskType.agentLifecycleReconcile then (decodeLifecycleTask texts task).map .reconcile
  else (decodeWebhookTask texts now task).map .delivery

variable {texts : QueueTexts} {now : Instant} {task : QueuedTask} {key : String} {p : QueuedAgentLifecycleReconcile}

theorem decodeTyped_dispatch (h : task.taskType = TaskType.taskExecutionDispatch) :
    decodeTyped texts now task = (decodeTaskExecutionDispatchTask task).map .dispatch := if_pos h

theorem decodeTyped_reconcile (h : task.taskType = TaskType.agentLifecycleReconcile) :
    decodeTyped texts now task = (decodeLifecycleTask texts task).map .reconcile := by
  rw [decodeTyped, if_neg (by rw [h]; decide), if_pos h]

theorem decodeTyped_delivery (h : task.taskType = TaskType.webhookDelivery) :
    decodeTyped texts now task = (decodeWebhookTask texts now task).map .delivery := by
  rw [decodeTyped, if_neg (by rw [h]; decide), if_neg (by rw [h]; decide)]

/-! ## One more attempt -/

theorem decodeAttempts_of_accepts {schema : ContractSchema} (h : schema.Accepts task.payload)
    (hkey : "attempts" ∉ schema.properties.map Prod.fst) : decodeAttempts task = .ok task.attempts := by
  unfold decodeAttempts
  cases hlookup : Json.lookup task.payload "attempts" with
  | none => rfl
  | some value => exact absurd (h.closed _ (List.mem_map_of_mem (Json.mem_of_lookup hlookup))) hkey

theorem readUuid_lt {fields : Fields} {u : Uuid} (h : readUuid fields key = .ok u) : u < 2 ^ 128 := by
  obtain ⟨text, -, hu⟩ := bind_eq_ok.mp h
  exact Uuid.ofString?_lt (orFail_eq_ok.mp hu)

theorem readUuid?_sortFields (fields : Fields) (key : String) :
    readUuid? (Json.sortFields fields) key = readUuid? fields key := by
  unfold readUuid?
  rw [Json.lookup_sortFields, Option.bind_map]
  have hstr : Json.str? ∘ Json.sortKeys = Json.str? := funext str?_sortKeys
  rw [hstr]

theorem decodeTaskExecutionDispatchTask_retry {p : QueuedTaskExecutionDispatch}
    (h : decodeTaskExecutionDispatchTask task = .ok p) :
    decodeTaskExecutionDispatchTask (requeueWithAttempt task).sorted = .ok { p with attempts := p.attempts + 1 } := by
  simp only [decodeTaskExecutionDispatchTask, bind_eq_ok, mapError_eq_ok, ContractSchema.validate_obj_eq_ok,
    pure_eq_ok] at h
  obtain ⟨_, htype, _, haccepts, organizationId, horg, boardId, hboard, taskId, htask, runId, hrun, attempts,
    hattempts, rfl⟩ := h
  rw [decodeAttempts_of_accepts haccepts (by decide)] at hattempts
  obtain rfl := Except.ok.inj hattempts
  have hsorted : taskExecutionDispatchSchema.Accepts (requeueWithAttempt task).sorted.payload :=
    ContractSchema.accepts_sortFields.mpr haccepts
  simp only [decodeTaskExecutionDispatchTask, bind_eq_ok, mapError_eq_ok, ContractSchema.validate_obj_eq_ok,
    pure_eq_ok]
  refine ⟨(), htype, (), hsorted, organizationId, ?_, boardId, ?_, taskId, ?_, runId, ?_, task.attempts + 1, ?_, rfl⟩
  · exact (readUuid_sortFields ..).trans horg
  · exact (readUuid_sortFields ..).trans hboard
  · exact (readUuid_sortFields ..).trans htask
  · exact (readUuid_sortFields ..).trans hrun
  · exact decodeAttempts_of_accepts hsorted (by decide)

theorem decodeLifecycleTask_retry (h : decodeLifecycleTask texts task = .ok p) :
    decodeLifecycleTask texts (requeueWithAttempt task).sorted = .ok { p with attempts := p.attempts + 1 } := by
  simp only [decodeLifecycleTask, bind_eq_ok, mapError_eq_ok, ContractSchema.validate_obj_eq_ok, pure_eq_ok] at h
  obtain ⟨_, htype, _, haccepts, generation, hgeneration, deadline, hdeadline, boardId, hboard, agentId, hagent,
    gatewayId, hgateway, attempts, hattempts, rfl⟩ := h
  rw [decodeAttempts_of_accepts haccepts (by decide)] at hattempts
  obtain rfl := Except.ok.inj hattempts
  have hsorted : agentLifecycleReconcileSchema.Accepts (requeueWithAttempt task).sorted.payload :=
    ContractSchema.accepts_sortFields.mpr haccepts
  simp only [decodeLifecycleTask, bind_eq_ok, mapError_eq_ok, ContractSchema.validate_obj_eq_ok, pure_eq_ok]
  refine ⟨(), htype, (), hsorted, generation, ?_, deadline, ?_, boardId, ?_, agentId, ?_, gatewayId, ?_,
    task.attempts + 1, ?_, rfl⟩
  · exact (readInt_sortFields ..).trans hgeneration
  · exact (readDateTime_sortFields ..).trans hdeadline
  · exact (readUuid?_sortFields ..).trans hboard
  · exact (readUuid_sortFields ..).trans hagent
  · exact (readUuid_sortFields ..).trans hgateway
  · exact decodeAttempts_of_accepts hsorted (by decide)

/-! ## Deliveries are written anew -/

structure QueuedInboundDelivery.Fits (p : QueuedInboundDelivery) : Prop where
  boardId : p.boardId < 2 ^ 128
  webhookId : p.webhookId < 2 ^ 128
  payloadId : p.payloadId < 2 ^ 128

theorem parseDelivery_eq_ok {fields : Fields} {attempts : Except QueueError Int} {p : QueuedInboundDelivery}
    (h : parseDelivery texts fields attempts = .ok p) :
    webhookDeliverySchema.Accepts fields ∧ attempts = .ok p.attempts ∧ p.Fits ∧ p.receivedAt.WholeMinutes := by
  simp only [parseDelivery, bind_eq_ok, mapError_eq_ok, ContractSchema.validate_obj_eq_ok, pure_eq_ok] at h
  obtain ⟨_, haccepts, _, hreceived, boardId, hboard, webhookId, hwebhook, payloadId, hpayload, n, hattempts, rfl⟩ := h
  exact ⟨haccepts, hattempts, ⟨readUuid_lt hboard, readUuid_lt hwebhook, readUuid_lt hpayload⟩,
    wholeMinutes_of_readDateTime hreceived⟩

theorem decodeWebhookTask_eq_ok {p : QueuedInboundDelivery} (htype : task.taskType = TaskType.webhookDelivery)
    (h : decodeWebhookTask texts now task = .ok p) :
    p.attempts = task.attempts ∧ p.Fits ∧ p.receivedAt.WholeMinutes := by
  obtain ⟨_, -, h⟩ := bind_eq_ok.mp h
  rw [if_neg (by rw [htype]; decide)] at h
  obtain ⟨haccepts, hattempts, hfits⟩ := parseDelivery_eq_ok h
  rw [decodeAttempts_of_accepts haccepts (by decide)] at hattempts
  exact ⟨(Except.ok.inj hattempts).symm, hfits⟩

theorem readUuid_of_lookup {fields : Fields} {u : Uuid} (hu : u < 2 ^ 128)
    (h : Json.lookup fields key = some (.str (Uuid.format u))) : readUuid fields key = .ok u := by
  have htext : readText fields key = .ok (Uuid.format u) := by
    unfold readText
    rw [h]
    rfl
  exact bind_eq_ok.mpr ⟨_, htext, orFail_eq_ok.mpr (Uuid.ofString?_format hu)⟩

theorem readDateTime_of_lookup {fields : Fields} {s : String} {d : DateTime}
    (h : Json.lookup fields key = some (.str s)) (hs : texts.parse s = some d) :
    readDateTime texts fields key = .ok d := by
  have htext : readText fields key = .ok s := by
    unfold readText
    rw [h]
    rfl
  exact bind_eq_ok.mpr ⟨_, htext, orFail_eq_ok.mpr hs⟩

/-- A contract reads a datetime that `isoformat` wrote only if its offset is in whole minutes. -/
theorem wholeMinutes_of_readDateTime_isoformat {fields : Fields} {d d' : DateTime}
    (h : Json.lookup fields key = some (.str (texts.isoformat d))) (hread : readDateTime texts fields key = .ok d') :
    d.WholeMinutes := by
  by_contra hodd
  have htext : readText fields key = .ok (texts.isoformat d) := by
    unfold readText
    rw [h]
    rfl
  obtain ⟨text, htext', hparse⟩ := bind_eq_ok.mp hread
  obtain rfl := Except.ok.inj (htext.symm.trans htext')
  rw [orFail_eq_ok, texts.parse_isoformat, if_neg hodd] at hparse
  cases hparse

theorem accepts_deliveryFields (p : QueuedInboundDelivery) (writeDateTime : DateTime → String) :
    webhookDeliverySchema.Accepts (p.fields writeDateTime) := by
  constructor
  · simp [webhookDeliverySchema, QueuedInboundDelivery.fields]
  · simp [webhookDeliverySchema, QueuedInboundDelivery.fields]
  · simp [webhookDeliverySchema, QueuedInboundDelivery.fields, Json.lookup_cons, PropertySchema.Accepts,
      PropertySchema.below, JsonType.matches]

theorem taskFromDelivery_eq_ok (texts : QueueTexts) {p : QueuedInboundDelivery} (hwhole : p.receivedAt.WholeMinutes) :
    taskFromDelivery texts p = .ok {
      taskType := TaskType.webhookDelivery
      payload := p.fields texts.dump
      createdAt := p.receivedAt
      attempts := p.attempts } := by
  have hvalid : webhookDeliverySchema.validate (.obj (p.fields texts.isoformat)) = .ok () :=
    ContractSchema.validate_obj_eq_ok.mpr (accepts_deliveryFields p texts.isoformat)
  have hread : readDateTime texts (p.fields texts.isoformat) "received_at" = .ok p.receivedAt :=
    readDateTime_of_lookup rfl (texts.parse_isoformat_of_whole hwhole)
  simp only [taskFromDelivery, finalizeDelivery, hvalid, hread]
  rfl

theorem wholeMinutes_of_taskFromDelivery {p : QueuedInboundDelivery} (h : taskFromDelivery texts p = .ok task) :
    p.receivedAt.WholeMinutes := by
  obtain ⟨payload, hpayload, -⟩ := bind_eq_ok.mp h
  obtain ⟨_, -, hpayload⟩ := bind_eq_ok.mp hpayload
  obtain ⟨received, hread, -⟩ := bind_eq_ok.mp hpayload
  exact wholeMinutes_of_readDateTime_isoformat rfl hread

theorem decodeWebhookTask_of_fields {p : QueuedInboundDelivery} (hfits : p.Fits) (hwhole : p.receivedAt.WholeMinutes)
    (htype : task.taskType = TaskType.webhookDelivery)
    (hpayload : task.payload = Json.sortFields (p.fields texts.dump)) :
    decodeWebhookTask texts now task = .ok { p with attempts := task.attempts } := by
  have hlookup := Json.lookup_sortFields (p.fields texts.dump)
  have haccepts : webhookDeliverySchema.Accepts task.payload := by
    rw [hpayload]
    exact ContractSchema.accepts_sortFields.mpr (accepts_deliveryFields p texts.dump)
  refine bind_eq_ok.mpr ⟨(), require_eq_ok.mpr (.inl htype), ?_⟩
  have hlegacy : task.taskType ≠ TaskType.legacy := by
    rw [htype]
    decide
  refine (if_neg hlegacy).trans ?_
  simp only [parseDelivery, bind_eq_ok, mapError_eq_ok, ContractSchema.validate_obj_eq_ok, pure_eq_ok]
  have hattempts := decodeAttempts_of_accepts haccepts (by decide)
  rw [hpayload] at haccepts ⊢
  refine ⟨(), haccepts, p.receivedAt, ?_, p.boardId, ?_, p.webhookId, ?_, p.payloadId, ?_, task.attempts, hattempts, rfl⟩
  · exact readDateTime_of_lookup ((hlookup _).trans rfl) (texts.parse_dump p.receivedAt hwhole)
  · exact readUuid_of_lookup hfits.boardId ((hlookup _).trans rfl)
  · exact readUuid_of_lookup hfits.webhookId ((hlookup _).trans rfl)
  · exact readUuid_of_lookup hfits.payloadId ((hlookup _).trans rfl)

theorem decodeWebhookTask_taskFromDelivery {p : QueuedInboundDelivery} (hfits : p.Fits)
    (h : taskFromDelivery texts p = .ok task) :
    decodeWebhookTask texts now task.sorted = .ok p := by
  have hwhole := wholeMinutes_of_taskFromDelivery h
  obtain rfl := Except.ok.inj ((taskFromDelivery_eq_ok texts hwhole).symm.trans h)
  exact decodeWebhookTask_of_fields hfits hwhole rfl rfl

theorem decodeWebhookTask_retry {p : QueuedInboundDelivery} (hfits : p.Fits) (h : taskFromDelivery texts p = .ok task) :
    decodeWebhookTask texts now (requeueWithAttempt task).sorted = .ok { p with attempts := p.attempts + 1 } := by
  have hwhole := wholeMinutes_of_taskFromDelivery h
  obtain rfl := Except.ok.inj ((taskFromDelivery_eq_ok texts hwhole).symm.trans h)
  exact decodeWebhookTask_of_fields hfits hwhole rfl rfl

/-! ## Dispatches are written -/

def QueuedTaskExecutionDispatch.fields (p : QueuedTaskExecutionDispatch) : Fields :=
  [("organization_id", .str (Uuid.format p.organizationId)), ("board_id", .str (Uuid.format p.boardId)),
    ("task_id", .str (Uuid.format p.taskId)), ("run_id", .str (Uuid.format p.runId))]

structure QueuedTaskExecutionDispatch.Fits (p : QueuedTaskExecutionDispatch) : Prop where
  organizationId : p.organizationId < 2 ^ 128
  boardId : p.boardId < 2 ^ 128
  taskId : p.taskId < 2 ^ 128
  runId : p.runId < 2 ^ 128

def QueuedAgentLifecycleReconcile.fields (p : QueuedAgentLifecycleReconcile) (writeDateTime : DateTime → String) :
    Fields :=
  [("agent_id", .str (Uuid.format p.agentId)), ("gateway_id", .str (Uuid.format p.gatewayId)),
    ("board_id", (p.boardId.map fun boardId => Json.str (Uuid.format boardId)).getD .null),
    ("generation", .int p.generation), ("checkin_deadline_at", .str (writeDateTime p.checkinDeadlineAt))]

def finalizeReconcile (texts : QueueTexts) (p : QueuedAgentLifecycleReconcile) : Except QueueError Fields := do
  let fields := p.fields texts.isoformat
  (agentLifecycleReconcileSchema.validate (.obj fields)).mapError .contract
  let checkinDeadlineAt ← readDateTime texts fields "checkin_deadline_at"
  return { p with checkinDeadlineAt }.fields texts.dump

def taskFromReconcile (texts : QueueTexts) (now : Instant) (p : QueuedAgentLifecycleReconcile) :
    Except QueueError QueuedTask := do
  let payload ← finalizeReconcile texts p
  return { taskType := TaskType.agentLifecycleReconcile, payload, createdAt := .naive now, attempts := p.attempts }

structure QueuedAgentLifecycleReconcile.Fits (p : QueuedAgentLifecycleReconcile) : Prop where
  agentId : p.agentId < 2 ^ 128
  gatewayId : p.gatewayId < 2 ^ 128
  boardId : ∀ boardId ∈ p.boardId, boardId < 2 ^ 128
  generation : 0 ≤ p.generation

theorem readUuid?_lt {fields : Fields} {u : Option Uuid} (h : readUuid? fields key = .ok u) :
    ∀ id ∈ u, id < 2 ^ 128 := by
  unfold readUuid? at h
  split at h
  · obtain rfl := Except.ok.inj h
    exact fun id hid => absurd hid (Option.not_mem_none id)
  · split at h
    · obtain rfl := Except.ok.inj h
      exact fun id hid => absurd hid (Option.not_mem_none id)
    · obtain ⟨id, hread, rfl⟩ := map_eq_ok.mp h
      intro id' hid'
      obtain rfl := Option.some.inj hid'
      exact Uuid.ofString?_lt (orFail_eq_ok.mp hread)

theorem decodeLifecycleTask_eq_ok (h : decodeLifecycleTask texts task = .ok p) :
    p.attempts = task.attempts ∧ p.Fits ∧ p.checkinDeadlineAt.WholeMinutes := by
  simp only [decodeLifecycleTask, bind_eq_ok, mapError_eq_ok, ContractSchema.validate_obj_eq_ok, pure_eq_ok] at h
  obtain ⟨_, -, _, haccepts, generation, hgeneration, _, hdeadline, boardId, hboard, agentId, hagent, gatewayId,
    hgateway, attempts, hattempts, rfl⟩ := h
  rw [decodeAttempts_of_accepts haccepts (by decide)] at hattempts
  refine ⟨(Except.ok.inj hattempts).symm, ⟨readUuid_lt hagent, readUuid_lt hgateway, readUuid?_lt hboard, ?_⟩,
    wholeMinutes_of_readDateTime hdeadline⟩
  refine readInt_nonneg haccepts (by simp [agentLifecycleReconcileSchema]) (fun m hm => ?_) hgeneration
  exact absurd hm (Option.not_mem_none m)

theorem readUuid?_of_lookup {fields : Fields} {u : Option Uuid} (hu : ∀ id ∈ u, id < 2 ^ 128)
    (h : Json.lookup fields key = some ((u.map fun id => Json.str (Uuid.format id)).getD .null)) :
    readUuid? fields key = .ok u := by
  unfold readUuid?
  rw [h]
  cases u with
  | none => rfl
  | some id =>
    have hid := Uuid.ofString?_format (hu id rfl)
    have hne : Uuid.format id ≠ "" := by
      intro hempty
      rw [hempty] at hid
      cases hid
    show (if Uuid.format id = "" then _ else _) = _
    rw [if_neg hne, hid]
    rfl

theorem accepts_reconcileFields (hgeneration : 0 ≤ p.generation) (writeDateTime : DateTime → String) :
    agentLifecycleReconcileSchema.Accepts (p.fields writeDateTime) := by
  constructor
  · simp [agentLifecycleReconcileSchema, QueuedAgentLifecycleReconcile.fields]
  · simp [agentLifecycleReconcileSchema, QueuedAgentLifecycleReconcile.fields]
  · cases hboard : p.boardId <;>
      simp [agentLifecycleReconcileSchema, QueuedAgentLifecycleReconcile.fields, Json.lookup_cons,
        PropertySchema.Accepts, PropertySchema.below, JsonType.matches, hboard, hgeneration]

theorem taskFromReconcile_eq_ok (hgeneration : 0 ≤ p.generation) (hwhole : p.checkinDeadlineAt.WholeMinutes)
    (texts : QueueTexts) (now : Instant) :
    taskFromReconcile texts now p = .ok {
      taskType := TaskType.agentLifecycleReconcile
      payload := p.fields texts.dump
      createdAt := .naive now
      attempts := p.attempts } := by
  have hvalid : agentLifecycleReconcileSchema.validate (.obj (p.fields texts.isoformat)) = .ok () :=
    ContractSchema.validate_obj_eq_ok.mpr (accepts_reconcileFields hgeneration texts.isoformat)
  have hread : readDateTime texts (p.fields texts.isoformat) "checkin_deadline_at" = .ok p.checkinDeadlineAt :=
    readDateTime_of_lookup rfl (texts.parse_isoformat_of_whole hwhole)
  simp only [taskFromReconcile, finalizeReconcile, hvalid, hread]
  rfl

theorem wholeMinutes_of_taskFromReconcile (h : taskFromReconcile texts now p = .ok task) :
    p.checkinDeadlineAt.WholeMinutes := by
  obtain ⟨payload, hpayload, -⟩ := bind_eq_ok.mp h
  obtain ⟨_, -, hpayload⟩ := bind_eq_ok.mp hpayload
  obtain ⟨deadline, hread, -⟩ := bind_eq_ok.mp hpayload
  exact wholeMinutes_of_readDateTime_isoformat rfl hread

theorem decodeLifecycleTask_taskFromReconcile (hfits : p.Fits) (h : taskFromReconcile texts now p = .ok task) :
    decodeLifecycleTask texts task.sorted = .ok p := by
  have hwhole := wholeMinutes_of_taskFromReconcile h
  obtain rfl := Except.ok.inj ((taskFromReconcile_eq_ok hfits.generation hwhole texts now).symm.trans h)
  have hlookup := Json.lookup_sortFields (p.fields texts.dump)
  have haccepts : agentLifecycleReconcileSchema.Accepts (Json.sortFields (p.fields texts.dump)) :=
    ContractSchema.accepts_sortFields.mpr (accepts_reconcileFields hfits.generation texts.dump)
  simp only [decodeLifecycleTask, bind_eq_ok, mapError_eq_ok, ContractSchema.validate_obj_eq_ok, pure_eq_ok]
  refine ⟨(), require_eq_ok.mpr (.inl rfl), (), haccepts, p.generation, ?_, p.checkinDeadlineAt, ?_, p.boardId, ?_,
    p.agentId, ?_, p.gatewayId, ?_, p.attempts, ?_, rfl⟩
  · exact (readInt_sortFields ..).trans rfl
  · exact readDateTime_of_lookup ((hlookup _).trans rfl) (texts.parse_dump p.checkinDeadlineAt hwhole)
  · exact (readUuid?_sortFields ..).trans (readUuid?_of_lookup hfits.boardId rfl)
  · exact readUuid_of_lookup hfits.agentId ((hlookup _).trans rfl)
  · exact readUuid_of_lookup hfits.gatewayId ((hlookup _).trans rfl)
  · exact decodeAttempts_of_accepts haccepts (by decide)

end SiloForge
