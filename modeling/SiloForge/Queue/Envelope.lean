import SiloForge.Queue.Contracts

/-!
# Queued tasks

An entry of the queue is the text of an envelope: a task type, a payload, the time it was created at and the
attempts made so far. Older entries are a bare payload.

* `QueuedTask.toJson`, `decodeTask` : writing an envelope and reading an entry;
* `QueuedTask.Writable`, `decodeTask_toJson` : what is written, and that it is read back;
* `Decoded.retry` : the payload of a task with one more attempt.
-/

namespace SiloForge

structure QueuedTask where
  taskType : String
  payload : Fields
  createdAt : DateTime
  attempts : Int := 0

inductive Entry where
  | json (document : Json)
  | other (text : String)
  deriving DecidableEq

/-! ## Envelopes -/

def taskEnvelopeSchema : ContractSchema where
  required := ["task_type", "payload", "created_at"]
  properties := [("task_type", { types := [.string] }), ("payload", { types := [.object] }),
    ("created_at", { types := [.string] }), ("attempts", { types := [.integer], minimum := some 0 })]

def parseQueuedTaskEnvelope (texts : QueueTexts) (fields : Fields) : Except QueueError QueuedTask := do
  (taskEnvelopeSchema.validate (.obj fields)).mapError .contract
  let taskType ← readText fields "task_type"
  let payload ← readFields fields "payload"
  let createdAt ← readDateTime texts fields "created_at"
  let attempts ← readInt fields "attempts" (some 0)
  return { taskType, payload, createdAt, attempts }

def QueuedTask.fields (t : QueuedTask) (writeDateTime : DateTime → String) : Fields :=
  [("task_type", .str t.taskType), ("payload", .obj t.payload), ("created_at", .str (writeDateTime t.createdAt)),
    ("attempts", .int t.attempts)]

def finalizeQueuedTaskEnvelope (texts : QueueTexts) (fields : Fields) : Except QueueError Fields := do
  let parsed ← parseQueuedTaskEnvelope texts fields
  return parsed.fields texts.dump

def QueuedTask.toJson (texts : QueueTexts) (t : QueuedTask) : Except QueueError Entry := do
  let normalized ← finalizeQueuedTaskEnvelope texts (t.fields texts.isoformat)
  return .json (Json.obj normalized).sortKeys

def requeueWithAttempt (task : QueuedTask) : QueuedTask := { task with attempts := task.attempts + 1 }

@[simp] theorem attempts_requeueWithAttempt (task : QueuedTask) :
    (requeueWithAttempt task).attempts = task.attempts + 1 := rfl

/-- The datetime of a value, or the present where it is none. -/
def coerceDatetime (texts : QueueTexts) (now : Instant) : Option Json → DateTime
  | some (.str s) => (texts.fromisoformat s).getD (.utc now)
  | some (.int n) => .utc ((texts.fromtimestamp (.int n)).getD now)
  | some (.float bits) => .utc ((texts.fromtimestamp (.float bits)).getD now)
  | some (.bool b) => .utc ((texts.fromtimestamp (.bool b)).getD now)
  | _ => .utc now

def lookupOr (fields : Fields) (key other : String) : Option Json :=
  match Json.lookup fields key with
  | some value => if truthy value then some value else Json.lookup fields other
  | none => Json.lookup fields other

/-- The task of an entry; a bare payload is a legacy one. -/
def decodeTask (texts : QueueTexts) (now : Instant) : Entry → Except QueueError QueuedTask
  | .json (.obj fields) =>
    if Json.lookup fields "task_type" = none ∧ Json.lookup fields "payload" = none then do
      let attempts ← orFail (toInt? ((Json.lookup fields "attempts").getD (.int 0))) (.field "attempts")
      return {
        taskType := "legacy"
        payload := fields
        createdAt := coerceDatetime texts now (lookupOr fields "created_at" "received_at")
        attempts }
    else parseQueuedTaskEnvelope texts fields
  | _ => .error .document

/-! ## The envelope of a task is read back -/

variable {texts : QueueTexts} {fields : Fields} {t : QueuedTask}

theorem parseQueuedTaskEnvelope_eq_ok (h : parseQueuedTaskEnvelope texts fields = .ok t) :
    taskEnvelopeSchema.Accepts fields ∧
      readDateTime texts fields "created_at" = .ok t.createdAt ∧ readInt fields "attempts" (some 0) = .ok t.attempts := by
  simp only [parseQueuedTaskEnvelope, bind_eq_ok, mapError_eq_ok, pure_eq_ok,
    ContractSchema.validate_obj_eq_ok] at h
  obtain ⟨_, haccepts, _, -, _, -, _, hcreated, attempts, hattempts, rfl⟩ := h
  exact ⟨haccepts, hcreated, hattempts⟩

/-- What an envelope may hold: no negative attempts, and an offset a contract can read. -/
structure QueuedTask.Writable (t : QueuedTask) : Prop where
  attempts : 0 ≤ t.attempts
  createdAt : t.createdAt.WholeMinutes

theorem writable_of_parse (h : parseQueuedTaskEnvelope texts fields = .ok t) : t.Writable := by
  obtain ⟨haccepts, hcreated, hattempts⟩ := parseQueuedTaskEnvelope_eq_ok h
  refine ⟨?_, wholeMinutes_of_readDateTime hcreated⟩
  refine readInt_nonneg haccepts (by simp [taskEnvelopeSchema]) (fun m hm => ?_) hattempts
  exact (Option.some.inj hm).le

theorem parseQueuedTaskEnvelope_of_lookup {s : String} (haccepts : taskEnvelopeSchema.Accepts fields)
    (htype : Json.lookup fields "task_type" = some (.str t.taskType))
    (hpayload : Json.lookup fields "payload" = some (.obj t.payload))
    (hcreated : Json.lookup fields "created_at" = some (.str s)) (hparse : texts.parse s = some t.createdAt)
    (hattempts : Json.lookup fields "attempts" = some (.int t.attempts)) :
    parseQueuedTaskEnvelope texts fields = .ok t := by
  have hvalid : taskEnvelopeSchema.validate (.obj fields) = .ok () := ContractSchema.validate_obj_eq_ok.mpr haccepts
  have hread : readDateTime texts fields "created_at" = .ok t.createdAt := by
    unfold readDateTime readText
    rw [hcreated]
    exact orFail_eq_ok.mpr hparse
  unfold parseQueuedTaskEnvelope readText readFields readInt
  rw [hvalid, htype, hpayload, hread, hattempts]
  rfl

theorem accepts_fields (h : 0 ≤ t.attempts) (writeDateTime : DateTime → String) :
    taskEnvelopeSchema.Accepts (t.fields writeDateTime) := by
  constructor
  · simp [taskEnvelopeSchema, QueuedTask.fields]
  · simp [taskEnvelopeSchema, QueuedTask.fields]
  · simp [taskEnvelopeSchema, QueuedTask.fields, Json.lookup_cons, PropertySchema.Accepts, PropertySchema.below,
      JsonType.matches, Option.filter, h]

theorem parseQueuedTaskEnvelope_fields (h : t.Writable) :
    parseQueuedTaskEnvelope texts (t.fields texts.isoformat) = .ok t :=
  parseQueuedTaskEnvelope_of_lookup (accepts_fields h.attempts texts.isoformat) rfl rfl rfl
    (texts.parse_isoformat_of_whole h.createdAt) rfl

def QueuedTask.sorted (t : QueuedTask) : QueuedTask := { t with payload := Json.sortFields t.payload }

theorem toJson_eq_ok (h : t.Writable) :
    t.toJson texts = .ok (.json (.obj (Json.sortFields (t.fields texts.dump)))) := by
  unfold QueuedTask.toJson finalizeQueuedTaskEnvelope
  rw [parseQueuedTaskEnvelope_fields h]
  rfl

/-- **The tasks that are written** are those an envelope may hold. -/
theorem writable_of_toJson {e : Entry} (h : t.toJson texts = .ok e) : t.Writable := by
  simp only [QueuedTask.toJson, finalizeQueuedTaskEnvelope, bind_eq_ok] at h
  obtain ⟨_, ⟨parsed, hparsed, -⟩, -⟩ := h
  obtain ⟨-, hcreated, hattempts⟩ := parseQueuedTaskEnvelope_eq_ok hparsed
  have hsame : t.attempts = parsed.attempts := Except.ok.inj hattempts
  refine ⟨hsame ▸ (writable_of_parse hparsed).attempts, ?_⟩
  obtain ⟨text, htext, hparse⟩ := bind_eq_ok.mp hcreated
  obtain rfl : texts.isoformat t.createdAt = text := Except.ok.inj htext
  by_contra hodd
  rw [orFail_eq_ok, texts.parse_isoformat, if_neg hodd] at hparse
  cases hparse

/-- **What is written is read back**, but for the order of the payload's keys. -/
theorem decodeTask_toJson {now : Instant} {e : Entry} (he : t.toJson texts = .ok e) :
    decodeTask texts now e = .ok t.sorted := by
  have h := writable_of_toJson he
  rw [toJson_eq_ok h] at he
  obtain rfl := Except.ok.inj he
  have hlookup := Json.lookup_sortFields (t.fields texts.dump)
  have hnew : ¬ (Json.lookup (Json.sortFields (t.fields texts.dump)) "task_type" = none ∧
      Json.lookup (Json.sortFields (t.fields texts.dump)) "payload" = none) := by
    rw [hlookup, hlookup]
    exact fun hnone => nomatch hnone.1
  rw [decodeTask, if_neg hnew]
  apply parseQueuedTaskEnvelope_of_lookup (ContractSchema.accepts_sortFields.mpr (accepts_fields h.attempts texts.dump))
  · exact (hlookup _).trans rfl
  · exact (hlookup _).trans rfl
  · exact (hlookup _).trans rfl
  · exact texts.parse_dump t.createdAt h.createdAt
  · exact (hlookup _).trans rfl

end SiloForge
