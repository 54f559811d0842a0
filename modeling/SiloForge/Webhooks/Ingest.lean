import SiloForge.Queue.Service
import SiloForge.Webhooks.Payloads

/-!
# Ingesting webhooks

An inbound request is checked, its body is stored with an entry of the board's memory, and a delivery to an agent is
queued. When the delivery is not queued, the agent is to be notified at once.

* `enqueueTaskOn`, `enqueueWebhookDelivery` : the two layers of the queue, by what becomes of the push;
* `PayloadAccounted` : an answered request is stored, and pushed or notified;
* `payloadAccounted_iff` : that is so exactly where Redis takes the push, since the outer layer does not look at the flag of
  the inner one.
-/

namespace SiloForge

open Lib

/-! ## The database and the gateway -/

structure WebhookDb extends AgentDb where
  webhooks : Table BoardWebhook := ∅
  payloads : Table BoardWebhookPayload := ∅
  memory : Table BoardMemory := ∅

structure AgentMessage where
  sessionKey : String
  message : String
  deriving DecidableEq

/-- What a request works on: the database, the queue, and the messages of the gateway. -/
structure IngestWorld where
  db : WebhookDb := {}
  broker : Broker := {}
  sent : List AgentMessage := []

/-- What the endpoint depends on: the queue, the texts of bodies and of floats, the HMAC in hexadecimal, and the limit
of a body. -/
structure IngestEnv where
  queue : QueueEnv
  texts : BodyTexts
  floats : FloatTexts
  hmacHex : String → List UInt8 → String
  maxPayloadBytes : Nat := 1048576

/-! ## The request -/

/-- An inbound request, with the answer of the rate limiter; the names of its headers are in lower case. -/
structure IngestRequest where
  allowed : Bool := true
  sourceIp : String := ""
  headers : List (String × String) := []
  chunks : List (List UInt8) := []

/-- `request.headers.get`. -/
def IngestRequest.header (request : IngestRequest) (name : String) : Option String :=
  (request.headers.find? fun h => h.1 = name).map Prod.snd

def nonEmpty (text : Option String) : Option String := text.filter fun s => s ≠ ""

/-- The size a request declares; one that is no number is none. -/
def declaredLength (request : IngestRequest) : Int :=
  ((nonEmpty (request.header "content-length")).bind intOfText?).getD 0

def tooLarge (env : IngestEnv) : Failure :=
  .text 413 ("Payload exceeds maximum size of " ++ toString env.maxPayloadBytes ++ " bytes.")

/-- Read the body in chunks, up to the limit. -/
def readChunks (env : IngestEnv) (totalSize : Nat) : List (List UInt8) → Except Failure (List UInt8)
  | [] => .ok []
  | chunk :: chunks => do
    require (totalSize + chunk.length ≤ env.maxPayloadBytes) (tooLarge env)
    let rest ← readChunks env (totalSize + chunk.length) chunks
    return chunk ++ rest

def signatureHeader (env : IngestEnv) (webhook : BoardWebhook) (request : IngestRequest) : Option String :=
  match nonEmpty webhook.signatureHeader with
  | some name => nonEmpty (request.header (env.texts.lower name))
  | none => nonEmpty ((nonEmpty (request.header "x-hub-signature-256")).or (request.header "x-webhook-signature"))

def signatureValue (env : IngestEnv) (header : String) : String :=
  let value := if "sha256=".toList <+: (env.texts.lower header).toList then String.ofList (header.toList.drop 7)
    else header
  env.texts.lower (strip value)

/-- Whether the characters of a text are ASCII is decided on them, not on all characters. -/
instance (priority := high) decidableAscii (cs : List Char) : Decidable (∀ c ∈ cs, c.toNat < 128) :=
  List.decidableBAll (fun c => c.toNat < 128) cs

/-- The body is signed with the webhook's secret, if it has one. Texts are compared in ASCII only. -/
def verifyWebhookSignature (env : IngestEnv) (webhook : BoardWebhook) (rawBody : List UInt8)
    (request : IngestRequest) : Except Failure Unit :=
  match nonEmpty webhook.secret with
  | none => .ok ()
  | some secret => do
    let header ← orFail (signatureHeader env webhook request) (.text 403 "Missing webhook signature header.")
    let value := signatureValue env header
    require (∀ c ∈ value.toList, c.toNat < 128) (.status 500)
    require (value = env.texts.lower (strip (env.hmacHex secret rawBody)))
      (.text 403 "Invalid webhook signature.")

def redactedHeaders : List String := ["x-hub-signature-256", "x-webhook-signature", "authorization"]

def setText (fields : List (String × String)) (key value : String) : List (String × String) :=
  if fields.any (fun f => f.1 = key) then fields.map fun f => if f.1 = key then (key, value) else f
  else fields ++ [(key, value)]

def capturedHeaders (env : IngestEnv) (request : IngestRequest) (extraRedacted : Option String) :
    Option (List (String × String)) :=
  let redacted := redactedHeaders ++ ((nonEmpty extraRedacted).map env.texts.lower).toList
  let captured := request.headers.foldl
    (fun captured h =>
      let normalized := env.texts.lower h.1
      if normalized ∈ redacted then captured
      else if normalized = "content-type" ∨ normalized = "user-agent" ∨ "x-".toList <+: normalized.toList then
        setText captured normalized h.2
      else captured) []
  if captured = [] then none else some captured

/-! ## The queue -/

/-- What becomes of a push: Redis answers it, stores the entry while its answer is lost, or does not store it. -/
inductive PushReply where
  | answered | unanswered | refused
  deriving DecidableEq

def PushReply.stored : PushReply → Bool
  | .answered | .unanswered => true
  | .refused => false

/-- `enqueue_task`: every exception is caught, and the flag says whether the push was answered. -/
def enqueueTaskOn (env : QueueEnv) (reply : PushReply) (b : Broker) (task : QueuedTask) : Bool × Broker :=
  match task.toJson env.texts with
  | .error _ => (false, b)
  | .ok entry => (reply = .answered, if reply.stored then b.lpush [entry] else b)

/-- `enqueue_webhook_delivery`: the flag of `enqueue_task` is dropped. -/
def enqueueWebhookDelivery (env : QueueEnv) (reply : PushReply) (b : Broker) (p : QueuedInboundDelivery) :
    Bool × Broker :=
  match taskFromDelivery env.texts p with
  | .error _ => (false, b)
  | .ok queued => (true, (enqueueTaskOn env reply b queued).2)

def deliveryEntry (env : QueueEnv) (p : QueuedInboundDelivery) : Except QueueError Entry := do
  let queued ← taskFromDelivery env.texts p
  queued.toJson env.texts

/-- The envelope of a delivery is pushed between two states of the queue. -/
def Pushed (env : QueueEnv) (p : QueuedInboundDelivery) (b b' : Broker) : Prop :=
  ∃ entry, deliveryEntry env p = .ok entry ∧ b' = b.lpush [entry]

/-! ## Notifying at once -/

/-- The gateway of a board, where it has a URL. -/
def optionalGatewayForBoard (s : WebhookDb) (board : BoardRow) : Option OrgGateway :=
  (getGatewayForBoard s.toAgentDb board).filter fun gateway => strip gateway.url ≠ ""

def webhookTarget (s : WebhookDb) (board : BoardRow) (webhook : BoardWebhook) : Option PlacedAgent :=
  (webhook.agentId.bind fun agentId => s.agents.rows.find? fun a => a.id = agentId ∧ a.boardId = some board.id).or
    (s.agents.rows.find? fun a => a.boardId = some board.id ∧ a.isBoardLead)

/-- `_notify_lead_on_webhook_payload`: the message the gateway takes, if there is one and it `accepts`. -/
def notifyLeadOnWebhookPayload (env : IngestEnv) (accepts : Bool) (s : WebhookDb) (board : BoardRow)
    (webhook : BoardWebhook) (payload : BoardWebhookPayload) : Option AgentMessage := do
  let agent ← webhookTarget s board webhook
  let sessionKey ← nonEmpty agent.openclawSessionId
  let _ ← optionalGatewayForBoard s board
  if accepts then some { sessionKey, message := leadMessage env.floats board webhook payload } else none

/-! ## The endpoint -/

/-- What is outside of a request: its clock, the ids of its rows, and the replies of the database, of Redis and of the
gateway. -/
structure IngestReplies where
  now : Time := 0
  payloadId : Uuid
  memoryId : Uuid
  commits : Bool := true
  push : PushReply := .answered
  accepts : Bool := true

structure BoardWebhookIngestResponse where
  boardId : Uuid
  webhookId : Uuid
  payloadId : Uuid
  deriving DecidableEq

/-- The checks of a request, and the body they leave. -/
def receiveBody (env : IngestEnv) (s : WebhookDb) (boardId webhookId : Uuid) (request : IngestRequest) :
    Except Failure (BoardRow × BoardWebhook × List UInt8) := do
  let board ← orFail (s.boards.get? boardId) (.status 404)
  require (request.allowed = true) (.status 429)
  let webhook ← orFail ((s.webhooks.get? webhookId).filter fun w => w.boardId = board.id) (.status 404)
  require (webhook.enabled = true) (.text 410 "Webhook is disabled.")
  require (declaredLength request ≤ env.maxPayloadBytes) (tooLarge env)
  let rawBody ← readChunks env 0 request.chunks
  verifyWebhookSignature env webhook rawBody request
  return (board, webhook, rawBody)

def payloadRow (env : IngestEnv) (replies : IngestReplies) (board : BoardRow) (webhook : BoardWebhook)
    (request : IngestRequest) (value : Json) : BoardWebhookPayload where
  id := replies.payloadId
  boardId := board.id
  webhookId := webhook.id
  payload := value
  headers := capturedHeaders env request webhook.signatureHeader
  sourceIp := some request.sourceIp
  contentType := request.header "content-type"
  receivedAt := replies.now

def memoryRow (env : IngestEnv) (replies : IngestReplies) (webhook : BoardWebhook) (payload : BoardWebhookPayload) :
    BoardMemory where
  id := replies.memoryId
  boardId := payload.boardId
  content := webhookMemoryContent env.floats webhook payload
  tags := some ["webhook", "webhook:" ++ Uuid.format webhook.id, "payload:" ++ Uuid.format payload.id]
  source := some "webhook"
  createdAt := replies.now

def payloadDelivery (payload : BoardWebhookPayload) : QueuedInboundDelivery where
  boardId := payload.boardId
  webhookId := payload.webhookId
  payloadId := payload.id
  receivedAt := .naive payload.receivedAt

def persistPayload (env : IngestEnv) (replies : IngestReplies) (s : WebhookDb) (webhook : BoardWebhook)
    (payload : BoardWebhookPayload) : Except Failure WebhookDb := do
  let payloads ← orFail (s.payloads.insert? payload) .integrityError
  let memory ← orFail (s.memory.insert? (memoryRow env replies webhook payload)) .integrityError
  require (replies.commits = true) (.status 500)
  return { s with payloads, memory }

def deliverPayload (env : IngestEnv) (replies : IngestReplies) (s : IngestWorld) (board : BoardRow)
    (webhook : BoardWebhook) (payload : BoardWebhookPayload) : IngestWorld :=
  let (enqueued, broker) := enqueueWebhookDelivery env.queue replies.push s.broker (payloadDelivery payload)
  if enqueued then { s with broker }
  else
    let notified := notifyLeadOnWebhookPayload env replies.accepts s.db board webhook payload
    { s with broker, sent := s.sent ++ notified.toList }

def ingestBoardWebhook (env : IngestEnv) (replies : IngestReplies) (s : IngestWorld) (boardId webhookId : Uuid)
    (request : IngestRequest) : Except Failure (BoardWebhookIngestResponse × IngestWorld) := do
  let (board, webhook, rawBody) ← receiveBody env s.db boardId webhookId request
  let value ← orFail (decodePayload env.texts rawBody (request.header "content-type")) (.status 500)
  let payload := payloadRow env replies board webhook request value
  let db ← persistPayload env replies s.db webhook payload
  return ({ boardId := board.id, webhookId := webhook.id, payloadId := payload.id },
    deliverPayload env replies { s with db } board webhook payload)

/-! ## What the queue answers -/

theorem deliveryEntry_eq (env : QueueEnv) {p : QueuedInboundDelivery} (hwhole : p.receivedAt.WholeMinutes) :
    deliveryEntry env p = QueuedTask.toJson env.texts {
      taskType := TaskType.webhookDelivery
      payload := p.fields env.texts.dump
      createdAt := p.receivedAt
      attempts := p.attempts } := by
  unfold deliveryEntry
  rw [taskFromDelivery_eq_ok _ hwhole]
  rfl

theorem deliveryEntry_eq_ok (env : QueueEnv) {p : QueuedInboundDelivery} (hwhole : p.receivedAt.WholeMinutes) :
    (∃ entry, deliveryEntry env p = .ok entry) ↔ 0 ≤ p.attempts := by
  rw [deliveryEntry_eq env hwhole]
  constructor
  · rintro ⟨entry, h⟩
    exact (writable_of_toJson h).attempts
  · exact fun h => ⟨_, toJson_eq_ok ⟨h, hwhole⟩⟩

theorem deliveryEntry_of_taskFromDelivery {env : QueueEnv} {p : QueuedInboundDelivery} {e : QueueError}
    (h : taskFromDelivery env.texts p = .error e) : deliveryEntry env p = .error e := by
  unfold deliveryEntry
  rw [h]
  rfl

theorem enqueueWebhookDelivery_fst (env : QueueEnv) (reply : PushReply) (b : Broker) {p : QueuedInboundDelivery}
    (hwhole : p.receivedAt.WholeMinutes) : (enqueueWebhookDelivery env reply b p).1 = true := by
  unfold enqueueWebhookDelivery
  rw [taskFromDelivery_eq_ok _ hwhole]

theorem enqueueWebhookDelivery_snd (env : QueueEnv) (reply : PushReply) (b : Broker) (p : QueuedInboundDelivery) :
    (enqueueWebhookDelivery env reply b p).2 =
      match deliveryEntry env p with
      | .ok entry => if reply.stored then b.lpush [entry] else b
      | .error _ => b := by
  cases htask : taskFromDelivery env.texts p with
  | error e =>
    rw [deliveryEntry_of_taskFromDelivery htask, enqueueWebhookDelivery, htask]
  | ok queued =>
    have hentry : deliveryEntry env p = queued.toJson env.texts := by
      rw [deliveryEntry, htask]
      rfl
    rw [hentry, enqueueWebhookDelivery, htask]
    dsimp only [enqueueTaskOn]
    cases queued.toJson env.texts <;> rfl

theorem lpush_ne (b : Broker) (entry : Entry) : b ≠ b.lpush [entry] := by
  intro h
  have hlength := congrArg (fun broker : Broker => broker.ready.length) h
  simp [Broker.lpush] at hlength

/-- **A delivery is pushed** exactly when it has an envelope and Redis stores it. -/
theorem pushed_iff (env : QueueEnv) (reply : PushReply) (b : Broker) {p : QueuedInboundDelivery}
    (hwhole : p.receivedAt.WholeMinutes) :
    Pushed env p b (enqueueWebhookDelivery env reply b p).2 ↔ 0 ≤ p.attempts ∧ reply ≠ .refused := by
  have hstored : reply.stored = true ↔ reply ≠ .refused := by cases reply <;> decide
  rw [enqueueWebhookDelivery_snd, ← deliveryEntry_eq_ok env hwhole]
  unfold Pushed
  cases hentry : deliveryEntry env p with
  | error e => simp
  | ok entry =>
    by_cases hreply : reply.stored = true
    · simp [hreply, hstored.mp hreply]
    · have hrefused : ¬ reply ≠ .refused := mt hstored.mpr hreply
      simp [hreply, hrefused, lpush_ne]

/-! ## What an answered request went through -/

theorem readChunks_eq_ok (env : IngestEnv) {totalSize : Nat} (htotal : totalSize ≤ env.maxPayloadBytes)
    (chunks : List (List UInt8)) (rawBody : List UInt8) :
    readChunks env totalSize chunks = .ok rawBody ↔
      rawBody = chunks.flatten ∧ totalSize + chunks.flatten.length ≤ env.maxPayloadBytes := by
  induction chunks generalizing totalSize rawBody with
  | nil => simp [readChunks, htotal, eq_comm]
  | cons chunk chunks ih =>
    unfold readChunks
    rw [List.flatten_cons, List.length_append, ← Nat.add_assoc]
    simp only [bind_eq_ok, require_eq_ok, pure_eq_ok]
    constructor
    · rintro ⟨-, hsize, rest, hrest, rfl⟩
      obtain ⟨rfl, hlimit⟩ := (ih hsize rest).mp hrest
      exact ⟨rfl, hlimit⟩
    · rintro ⟨rfl, hlimit⟩
      have hsize : totalSize + chunk.length ≤ env.maxPayloadBytes := by omega
      exact ⟨(), hsize, chunks.flatten, (ih hsize _).mpr ⟨rfl, hlimit⟩, rfl⟩

/-- A request passes the checks, with these rows. -/
structure Received (env : IngestEnv) (s : WebhookDb) (boardId webhookId : Uuid) (request : IngestRequest)
    (board : BoardRow) (webhook : BoardWebhook) : Prop where
  boardFound : s.boards.get? boardId = some board
  allowed : request.allowed = true
  webhookFound : s.webhooks.get? webhookId = some webhook
  onBoard : webhook.boardId = board.id
  enabled : webhook.enabled = true
  declared : declaredLength request ≤ env.maxPayloadBytes
  size : request.chunks.flatten.length ≤ env.maxPayloadBytes
  signature : verifyWebhookSignature env webhook request.chunks.flatten request = .ok ()

variable {env : IngestEnv} {webhookId : Uuid} {request : IngestRequest}

theorem receiveBody_eq_ok {s : WebhookDb} {boardId : Uuid} {board : BoardRow} {webhook : BoardWebhook}
    {rawBody : List UInt8} :
    receiveBody env s boardId webhookId request = .ok (board, webhook, rawBody) ↔
      Received env s boardId webhookId request board webhook ∧ rawBody = request.chunks.flatten := by
  unfold receiveBody
  simp only [bind_eq_ok, require_eq_ok, orFail_eq_ok, pure_eq_ok, Prod.mk.injEq, Option.filter_eq_some_iff,
    decide_eq_true_eq, readChunks_eq_ok env (Nat.zero_le _), Nat.zero_add]
  constructor
  · rintro ⟨_, hboard, _, hallowed, _, ⟨hwebhook, honBoard⟩, _, henabled, _, hdeclared, _, ⟨rfl, hsize⟩, _,
      hsignature, rfl, rfl, rfl⟩
    exact ⟨⟨hboard, hallowed, hwebhook, honBoard, henabled, hdeclared, hsize, hsignature⟩, rfl⟩
  · rintro ⟨h, rfl⟩
    exact ⟨board, h.boardFound, (), h.allowed, webhook, ⟨h.webhookFound, h.onBoard⟩, (), h.enabled, (), h.declared, _,
      ⟨rfl, h.size⟩, (), h.signature, rfl, rfl, rfl⟩

/-- What a request that is answered needs: it passes the checks, its body is decoded, and its rows are committed. -/
structure Admitted (env : IngestEnv) (replies : IngestReplies) (s : WebhookDb) (boardId webhookId : Uuid)
    (request : IngestRequest) (board : BoardRow) (webhook : BoardWebhook) (value : Json) : Prop where
  received : Received env s boardId webhookId request board webhook
  decoded : decodePayload env.texts request.chunks.flatten (request.header "content-type") = some value
  newPayload : s.payloads.get? replies.payloadId = none
  newMemory : s.memory.get? replies.memoryId = none
  commits : replies.commits = true

theorem persistPayload_eq_ok {replies : IngestReplies} {s s' : WebhookDb} {webhook : BoardWebhook}
    {payload : BoardWebhookPayload} (h : persistPayload env replies s webhook payload = .ok s') :
    payload ∈ s'.payloads ∧ s.payloads.get? payload.id = none ∧ s.memory.get? replies.memoryId = none ∧
      replies.commits = true := by
  simp only [persistPayload, bind_eq_ok, require_eq_ok, orFail_eq_ok, pure_eq_ok] at h
  obtain ⟨payloads, hpayloads, memory, hmemory, _, hcommits, rfl⟩ := h
  exact ⟨(Table.mem_insert? hpayloads).mpr (.inr rfl), Table.exists_insert?.mp ⟨_, hpayloads⟩,
    Table.exists_insert?.mp ⟨_, hmemory⟩, hcommits⟩

theorem exists_persistPayload {replies : IngestReplies} {s : WebhookDb} {webhook : BoardWebhook}
    {payload : BoardWebhookPayload} (hpayload : s.payloads.get? payload.id = none)
    (hmemory : s.memory.get? replies.memoryId = none) (hcommits : replies.commits = true) :
    ∃ s', persistPayload env replies s webhook payload = .ok s' := by
  obtain ⟨payloads, hpayloads⟩ := Table.exists_insert?.mpr hpayload
  obtain ⟨memory, hmemory⟩ :=
    (@Table.exists_insert? _ _ _ _ s.memory (memoryRow env replies webhook payload)).mpr hmemory
  exact ⟨{ s with payloads, memory }, bind_eq_ok.mpr ⟨_, orFail_eq_ok.mpr hpayloads,
    bind_eq_ok.mpr ⟨_, orFail_eq_ok.mpr hmemory, bind_eq_ok.mpr ⟨(), require_eq_ok.mpr hcommits, rfl⟩⟩⟩⟩

theorem wholeMinutes_payloadDelivery (payload : BoardWebhookPayload) :
    (payloadDelivery payload).receivedAt.WholeMinutes := DateTime.wholeMinutes_naive _

theorem deliverPayload_eq (env : IngestEnv) (replies : IngestReplies) (s : IngestWorld) (board : BoardRow)
    (webhook : BoardWebhook) (payload : BoardWebhookPayload) :
    deliverPayload env replies s board webhook payload =
      { s with
        broker := (enqueueWebhookDelivery env.queue replies.push s.broker (payloadDelivery payload)).2 } := by
  have hqueued := enqueueWebhookDelivery_fst env.queue replies.push s.broker (wholeMinutes_payloadDelivery payload)
  unfold deliverPayload
  simp only [hqueued, if_true]

/-- **An answered request** was admitted, and its payload is stored. -/
theorem ingestBoardWebhook_eq_ok {replies : IngestReplies} {s s' : IngestWorld} {boardId : Uuid}
    {response : BoardWebhookIngestResponse}
    (h : ingestBoardWebhook env replies s boardId webhookId request = .ok (response, s')) :
    ∃ board webhook value, Admitted env replies s.db boardId webhookId request board webhook value ∧
      response = { boardId := board.id, webhookId := webhook.id, payloadId := replies.payloadId } ∧
      payloadRow env replies board webhook request value ∈ s'.db.payloads ∧ s'.sent = s.sent ∧
      s'.broker = (enqueueWebhookDelivery env.queue replies.push s.broker
        (payloadDelivery (payloadRow env replies board webhook request value))).2 := by
  obtain ⟨⟨board, webhook, rawBody⟩, hreceive, h⟩ := bind_eq_ok.mp h
  obtain ⟨hreceived, rfl⟩ := receiveBody_eq_ok.mp hreceive
  obtain ⟨value, hvalue, h⟩ := bind_eq_ok.mp h
  obtain ⟨db, hdb, h⟩ := bind_eq_ok.mp h
  obtain ⟨rfl, rfl⟩ := Prod.mk.inj (Except.ok.inj h)
  obtain ⟨hmem, hpayload, hmemory, hcommits⟩ := persistPayload_eq_ok hdb
  rw [deliverPayload_eq]
  exact ⟨board, webhook, value, ⟨hreceived, orFail_eq_ok.mp hvalue, hpayload, hmemory, hcommits⟩, rfl, hmem, rfl, rfl⟩

theorem exists_ingestBoardWebhook {replies : IngestReplies} {s : IngestWorld} {boardId : Uuid} {board : BoardRow}
    {webhook : BoardWebhook} {value : Json}
    (h : Admitted env replies s.db boardId webhookId request board webhook value) :
    ∃ response s', ingestBoardWebhook env replies s boardId webhookId request = .ok (response, s') := by
  have hreceive := receiveBody_eq_ok.mpr ⟨h.received, rfl⟩
  obtain ⟨db, hdb⟩ := @exists_persistPayload env replies s.db webhook (payloadRow env replies board webhook request value)
    h.newPayload h.newMemory h.commits
  exact ⟨_, _, bind_eq_ok.mpr ⟨_, hreceive, bind_eq_ok.mpr ⟨value, orFail_eq_ok.mpr h.decoded,
    bind_eq_ok.mpr ⟨db, hdb, rfl⟩⟩⟩⟩

/-! ## Accounting for a payload -/

/-- **An answered request is accounted for**: the payload of its body is stored, and its delivery is pushed or an agent
is notified. -/
def PayloadAccounted (env : IngestEnv) (replies : IngestReplies) (s : IngestWorld) (boardId webhookId : Uuid)
    (request : IngestRequest) : Prop :=
  ∀ response s', ingestBoardWebhook env replies s boardId webhookId request = .ok (response, s') →
    ∃ payload ∈ s'.db.payloads, payload.id = response.payloadId ∧ payload.webhookId = response.webhookId ∧
      payload.boardId = response.boardId ∧
      decodePayload env.texts request.chunks.flatten (request.header "content-type") = some payload.payload ∧
      (Pushed env.queue (payloadDelivery payload) s.broker s'.broker ∨ ∃ message, s'.sent = s.sent ++ [message])

theorem payloadAccounted_iff_admitted (env : IngestEnv) (replies : IngestReplies) (s : IngestWorld)
    (boardId webhookId : Uuid) (request : IngestRequest) :
    PayloadAccounted env replies s boardId webhookId request ↔
      ((∃ board webhook value, Admitted env replies s.db boardId webhookId request board webhook value) →
        replies.push ≠ .refused) := by
  constructor
  · rintro h ⟨board, webhook, value, hadmitted⟩
    obtain ⟨response, s', hok⟩ := exists_ingestBoardWebhook hadmitted
    obtain ⟨_, _, _, -, -, -, hsent, hbroker⟩ := ingestBoardWebhook_eq_ok hok
    obtain ⟨payload, -, -, -, -, -, ⟨entry, -, hpushed⟩ | ⟨message, hnotified⟩⟩ := h response s' hok
    · -- the push changed the queue, so that Redis stored it
      intro hrefused
      rw [hbroker, enqueueWebhookDelivery_snd, hrefused] at hpushed
      refine lpush_ne s.broker entry ?_
      rw [← hpushed]
      cases deliveryEntry env.queue _ <;> rfl
    · rw [hsent] at hnotified
      exact absurd hnotified (by simp)
  · intro h response s' hok
    obtain ⟨board, webhook, value, hadmitted, rfl, hstored, -, hbroker⟩ := ingestBoardWebhook_eq_ok hok
    refine ⟨_, hstored, rfl, rfl, rfl, hadmitted.decoded, .inl ?_⟩
    rw [hbroker]
    exact (pushed_iff _ _ _ (wholeMinutes_payloadDelivery _)).mpr ⟨Int.le_refl 0, h ⟨board, webhook, value, hadmitted⟩⟩

theorem enqueueWebhookDelivery_iff (env : QueueEnv) (reply : PushReply) (b : Broker) (p : QueuedInboundDelivery) :
    ((enqueueWebhookDelivery env reply b p).1 = true ↔ Pushed env p b (enqueueWebhookDelivery env reply b p).2) ↔
      (p.receivedAt.WholeMinutes → 0 ≤ p.attempts ∧ reply ≠ .refused) := by
  by_cases hwhole : p.receivedAt.WholeMinutes
  · rw [enqueueWebhookDelivery_fst env reply b hwhole, pushed_iff env reply b hwhole]
    exact ⟨fun h _ => h.mp rfl, fun h => iff_of_true rfl (h hwhole)⟩
  · refine iff_of_true ?_ fun h => absurd h hwhole
    cases htask : taskFromDelivery env.texts p with
    | ok queued => exact absurd (wholeMinutes_of_taskFromDelivery htask) hwhole
    | error e =>
      have hfst : (enqueueWebhookDelivery env reply b p).1 = false := by rw [enqueueWebhookDelivery, htask]
      refine iff_of_false (by rw [hfst]; exact Bool.false_ne_true) ?_
      rintro ⟨entry, hentry, -⟩
      rw [deliveryEntry_of_taskFromDelivery htask] at hentry
      cases hentry

/-- **What the queue keeps of a webhook**: an answered request is accounted for exactly when Redis
stores the push; `enqueueWebhookDelivery` answers truly exactly when it does and the delivery has an
envelope, or there is no task. -/
theorem payloadAccounted_iff (env : IngestEnv) (replies : IngestReplies) (s : IngestWorld) (boardId webhookId : Uuid)
    (request : IngestRequest) (queueEnv : QueueEnv) (reply : PushReply) (b : Broker) (p : QueuedInboundDelivery) :
    (PayloadAccounted env replies s boardId webhookId request ↔
      ((∃ board webhook value, Admitted env replies s.db boardId webhookId request board webhook value) →
        replies.push ≠ .refused)) ∧
    (((enqueueWebhookDelivery queueEnv reply b p).1 = true ↔
        Pushed queueEnv p b (enqueueWebhookDelivery queueEnv reply b p).2) ↔
      (p.receivedAt.WholeMinutes → 0 ≤ p.attempts ∧ reply ≠ .refused)) :=
  ⟨payloadAccounted_iff_admitted .., enqueueWebhookDelivery_iff ..⟩

/-! ## Redis is down -/

namespace Sample

def webhookWorld : IngestWorld where
  db := {
    boards := ⟨[{ id := 1, organizationId := 1, name := "Builds" }], by decide⟩
    webhooks := ⟨[{ id := 2, boardId := 1, description := "Triage the build." }], by decide⟩ }

def webhookEnv : IngestEnv where
  queue := queueEnv
  texts := plainTexts
  floats := zeroFloats
  hmacHex := fun _ _ => ""

def redisDown : IngestReplies where
  payloadId := 3
  memoryId := 4
  push := .refused

def pingRequest : IngestRequest where
  headers := [("content-type", "text/plain")]
  chunks := ["ping".toList.map fun c => c.toNat.toUInt8]

theorem admitted_pingRequest :
    Admitted webhookEnv redisDown webhookWorld.db 1 2 pingRequest { id := 1, organizationId := 1, name := "Builds" }
      { id := 2, boardId := 1, description := "Triage the build." } (.str "ping") where
  received := {
    boardFound := by decide
    allowed := rfl
    webhookFound := by decide
    onBoard := rfl
    enabled := rfl
    declared := by decide
    size := by decide
    signature := rfl }
  decoded := by decide
  newPayload := rfl
  newMemory := rfl
  commits := rfl

def pingDelivery : QueuedInboundDelivery where
  boardId := 1
  webhookId := 2
  payloadId := 3
  receivedAt := .naive 0

end Sample

open Sample in
/-- The request is answered, its delivery is not pushed, and no one is notified; the queue said it was. -/
theorem not_payloadAccounted :
    ¬ PayloadAccounted webhookEnv redisDown webhookWorld 1 2 pingRequest ∧
      ¬ ((enqueueWebhookDelivery webhookEnv.queue .refused {} pingDelivery).1 = true ↔
        Pushed webhookEnv.queue pingDelivery {} (enqueueWebhookDelivery webhookEnv.queue .refused {} pingDelivery).2) := by
  constructor
  · rw [payloadAccounted_iff_admitted]
    exact fun h => h ⟨_, _, _, admitted_pingRequest⟩ rfl
  · rw [enqueueWebhookDelivery_iff]
    exact fun h => (h (DateTime.wholeMinutes_naive 0)).2 rfl

end SiloForge
