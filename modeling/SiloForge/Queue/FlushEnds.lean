import SiloForge.Lib.Countdown
import SiloForge.Queue.WebhookFlush

/-!
# Where a batch ends

A batch pops one entry after the other until the ready list is empty. A dequeue that fails sends the loop into its next
turn: an entry that cannot be read is gone then, but a Redis that cannot be reached has given nothing away.

* `Flusher` : a loop that pops and processes; `taskFlusher`, `deliveryFlusher` : the two of them;
* `Pops`, `Flusher.countdown` : what a dequeue takes, and the loop as a countdown of the ready list;
* `arrivals_taskFlusher_le`, `arrivals_deliveryFlusher_le` : what comes to the ready list, where requeues are delayed;
* `flushes_end_iff` : a batch ends exactly when Redis answers more often than there are entries.
-/

namespace SiloForge

open Lib

/-! ## Flushers -/

/-- A loop that pops an item and processes it. -/
structure Flusher (χ α : Type) where
  dequeue : χ → Broker → Except QueueError (Option α) × Broker
  /-- Taking note of a failed dequeue raises. -/
  failureRaises : χ → Bool
  /-- The turn of an item; the flag tells that an exception left it. -/
  process : χ → α → Broker → Bool × Broker

namespace Flusher
variable {χ α : Type} (F : Flusher χ α)

def turn (c : χ) (b : Broker) : Option Broker :=
  match F.dequeue c b with
  | (.error _, b) => if F.failureRaises c then none else some b
  | (.ok none, _) => none
  | (.ok (some item), b) => if (F.process c item b).1 then none else some (F.process c item b).2

/-- The entries that come to the ready list while an item is processed: what its handler enqueues, or its requeue without
a delay, less what others pop. -/
def arrivals (c : χ) (b : Broker) : ℤ :=
  match F.dequeue c b with
  | (.ok (some item), b) => (F.process c item b).2.ready.length - b.ready.length
  | _ => 0

def Raises (c : χ) (b : Broker) : Prop :=
  match F.dequeue c b with
  | (.error _, _) => F.failureRaises c = true
  | (.ok none, _) => False
  | (.ok (some item), b) => (F.process c item b).1 = true

/-- What a dequeue takes from the ready list: nothing where Redis is not there, and an entry where it is and there is
one, whether or not the entry can be read. -/
structure Pops (up : χ → Bool) : Prop where
  down : ∀ c b, up c = false → F.dequeue c b = (.error .redis, b)
  empty : ∀ c b, up c = true → b.ready = [] → (F.dequeue c b).1 = .ok none
  pop : ∀ c b, up c = true → b.ready ≠ [] →
    (F.dequeue c b).1 ≠ .ok none ∧ (F.dequeue c b).2.ready.length + 1 = b.ready.length

variable {F}

/-- **A batch counts down** the ready list. -/
theorem countdown {up : χ → Bool} (h : F.Pops up) :
    Countdown F.turn (fun b => b.ready.length) up F.arrivals F.Raises where
  broken c b hraises := by
    unfold Raises at hraises
    unfold turn
    split at hraises
    · rw [if_pos hraises]
    · cases hraises
    · rw [if_pos hraises]
  idle c b hdown hgoes := by
    unfold Raises at hgoes
    unfold turn arrivals
    rw [h.down c b hdown] at hgoes ⊢
    exact ⟨b, if_neg hgoes, (Int.add_zero _).symm⟩
  last c b hup hempty := by
    have hnone := h.empty c b hup (List.length_eq_zero_iff.mp hempty)
    unfold turn
    split
    · simp_all
    · rfl
    · simp_all
  consume c b hup hsome hgoes := by
    obtain ⟨hitem, hpopped⟩ := h.pop c b hup fun hnil => hsome (List.length_eq_zero_iff.mpr hnil)
    unfold Raises at hgoes
    unfold turn arrivals
    cases hdequeue : F.dequeue c b with
    | mk answer b' =>
      rw [hdequeue] at hgoes hitem hpopped
      cases answer with
      | error e => exact ⟨b', if_neg hgoes, by simp only at hpopped ⊢; omega⟩
      | ok popped =>
        cases popped with
        | none => exact absurd rfl hitem
        | some item => exact ⟨_, if_neg hgoes, by simp only at hpopped ⊢; omega⟩

end Flusher

/-! ## The two flushes -/

/-- `flush_queue`, without blocking. -/
def taskFlusher (env : QueueEnv) : Flusher Circumstances QueuedTask where
  dequeue c b := dequeueTask env c.up c.clock false b
  failureRaises c := !c.recorded .dequeueFailed
  process c task b := ((flushTask env c task b).stopped, (flushTask env c task b).broker)

/-- `flush_webhook_delivery_queue`, without blocking. -/
def deliveryFlusher (env : QueueEnv) : Flusher DeliveryCircumstances QueuedInboundDelivery where
  dequeue c b := dequeueWebhookDelivery env c.up c.clock false b
  failureRaises _ := false
  process c item b := flushDelivery env c item b

section Fields
variable (env : QueueEnv) (b : Broker)

@[simp] theorem dequeue_taskFlusher (c : Circumstances) :
    (taskFlusher env).dequeue c b = dequeueTask env c.up c.clock false b := rfl

@[simp] theorem failureRaises_taskFlusher (c : Circumstances) :
    (taskFlusher env).failureRaises c = !c.recorded .dequeueFailed := rfl

@[simp] theorem process_taskFlusher (c : Circumstances) (task : QueuedTask) :
    (taskFlusher env).process c task b = ((flushTask env c task b).stopped, (flushTask env c task b).broker) := rfl

@[simp] theorem dequeue_deliveryFlusher (c : DeliveryCircumstances) :
    (deliveryFlusher env).dequeue c b = dequeueWebhookDelivery env c.up c.clock false b := rfl

@[simp] theorem failureRaises_deliveryFlusher (c : DeliveryCircumstances) :
    (deliveryFlusher env).failureRaises c = false := rfl

@[simp] theorem process_deliveryFlusher (c : DeliveryCircumstances) (item : QueuedInboundDelivery) :
    (deliveryFlusher env).process c item b = flushDelivery env c item b := rfl

end Fields

section Dequeue
variable {env : QueueEnv} {clock : Clock} {b : Broker}

theorem dequeueTask_empty (h : b.ready = []) : (dequeueTask env true clock false b).1 = .ok none := by
  unfold dequeueTask
  simp [Broker.rpop, h]

theorem dequeueTask_pop (h : b.ready ≠ []) :
    (dequeueTask env true clock false b).1 ≠ .ok none ∧
      (dequeueTask env true clock false b).2.ready.length + 1 = b.ready.length := by
  have hpop : b.rpop = some (b.ready.getLast h, { b with ready := b.ready.dropLast }) := by
    rw [Broker.rpop, List.getLast?_eq_some_getLast h, Option.map_some]
  have hpositive := List.length_pos_iff.mpr h
  unfold dequeueTask
  simp only [if_true, Bool.false_eq_true, if_false, hpop]
  constructor
  · intro hnone
    obtain ⟨task, -, heq⟩ := map_eq_ok.mp hnone
    cases heq
  · rw [List.length_dropLast]
    omega

end Dequeue

theorem pops_taskFlusher (env : QueueEnv) : (taskFlusher env).Pops (·.up) where
  down c b hdown := by simp [taskFlusher, dequeueTask, hdown]
  empty c b hup hempty := by
    simp only [taskFlusher, hup]
    exact dequeueTask_empty hempty
  pop c b hup hsome := by
    simp only [taskFlusher, hup]
    exact dequeueTask_pop hsome

theorem pops_deliveryFlusher (env : QueueEnv) : (deliveryFlusher env).Pops (·.up) where
  down c b hdown := by simp [deliveryFlusher, dequeueWebhookDelivery, dequeueTask, hdown]
  empty c b hup hempty := by
    have hnone : (dequeueTask env true c.clock false b).1 = .ok none := dequeueTask_empty hempty
    simp only [deliveryFlusher, dequeueWebhookDelivery, hup]
    split
    · simp_all
    · rfl
    · simp_all
  pop c b hup hsome := by
    have hpopped : (dequeueTask env true c.clock false b).1 ≠ .ok none ∧
        (dequeueTask env true c.clock false b).2.ready.length + 1 = b.ready.length := dequeueTask_pop hsome
    simp only [deliveryFlusher, dequeueWebhookDelivery, hup]
    split
    · rename_i hdequeue
      rw [hdequeue] at hpopped
      exact ⟨nofun, hpopped.2⟩
    · rename_i hdequeue
      rw [hdequeue] at hpopped
      exact absurd rfl hpopped.1
    · rename_i task b' hdequeue
      rw [hdequeue] at hpopped
      refine ⟨fun hnone => ?_, hpopped.2⟩
      obtain ⟨item, -, heq⟩ := map_eq_ok.mp hnone
      cases heq

/-! ## What comes to the ready list -/

/-- A requeue after a failure is delayed, whatever the attempts. -/
def DelaysRetries (env : QueueEnv) (jitter : Rat) : Prop :=
  ∀ attempts d, attemptsToDelay env attempts = .ok d → 0 < d + computeJitter env d jitter

theorem length_ready_lpush (b : Broker) (e : Entry) : (b.lpush [e]).ready.length = b.ready.length + 1 := by
  simp [Broker.lpush]

section Arrivals
variable {env : QueueEnv} {up : Bool} {now delay : Seconds} {b b' : Broker} {requeued : Bool}

theorem ready_requeueIfFailed {task : QueuedTask} (hdelay : 0 < delay)
    (h : requeueIfFailed env up now b task delay = .ok (requeued, b')) : b'.ready = b.ready := by
  unfold requeueIfFailed at h
  split at h
  · exact (Prod.mk.inj (Except.ok.inj h)).2 ▸ rfl
  · obtain ⟨b'', hstored, heq⟩ := map_eq_ok.mp h
    obtain ⟨entry, -, -, rfl⟩ := scheduleForLater_eq_ok hstored
    exact (Prod.mk.inj heq).2 ▸ rfl

theorem ready_requeueTask {c : Circumstances} {task : QueuedTask} {handler : TaskHandler} (hdelay : 0 < delay)
    (h : requeueTask env c task delay b handler = .ok (requeued, b')) : b'.ready = b.ready := by
  cases handler with
  | webhook =>
    obtain ⟨payload, -, h⟩ := bind_eq_ok.mp h
    obtain ⟨queued, -, h⟩ := bind_eq_ok.mp h
    exact ready_requeueIfFailed hdelay h
  | lifecycleReconcile => exact ready_requeueIfFailed (lt_max_of_lt_right hdelay) h
  | taskExecutionDispatch => exact ready_requeueIfFailed (lt_max_of_lt_right hdelay) h

theorem ready_failTask {c : Circumstances} (hdelays : DelaysRetries env c.jitter) (task : QueuedTask)
    (handler : TaskHandler) (handled : Bool) (b : Broker) :
    (failTask env c task handler handled b).broker.ready = b.ready := by
  unfold failTask
  split
  · cases hdelay : attemptsToDelay env task.attempts with
    | error e => rfl
    | ok d =>
      simp only
      split
      · rfl
      · rename_i hrequeued
        exact ready_requeueTask (hdelays _ d hdelay) hrequeued
      · rename_i hrequeued
        exact ready_requeueTask (hdelays _ d hdelay) hrequeued
  · rfl

theorem arrivals_taskFlusher_le {c : Circumstances} {k : ℕ} (hdelays : DelaysRetries env c.jitter)
    (hwrites : ∀ b, (c.handlerWrites b).ready.length ≤ b.ready.length + k) : (taskFlusher env).arrivals c b ≤ k := by
  have hran (task : QueuedTask) (b : Broker) : (runHandler env c task b).2.ready.length ≤ b.ready.length + k := by
    unfold runHandler
    split
    · exact hwrites b
    · exact Nat.le_add_right _ k
  have hturn (task : QueuedTask) (b : Broker) : (flushTask env c task b).broker.ready.length ≤ b.ready.length + k := by
    unfold flushTask
    split
    · exact Nat.le_add_right _ k
    · simp only
      split
      · exact hran task b
      · rw [ready_failTask hdelays]
        exact hran task b
  unfold Flusher.arrivals
  split
  · rename_i task b' _
    have hlength := hturn task b'
    rw [process_taskFlusher]
    simp only
    omega
  · exact Int.natCast_nonneg k

theorem ready_webhookRequeueIfFailed {item : QueuedInboundDelivery} (hdelay : 0 < delay)
    (h : webhookRequeueIfFailed env up now b item delay = .ok (requeued, b')) : b'.ready = b.ready := by
  obtain ⟨queued, -, h⟩ := bind_eq_ok.mp h
  exact ready_requeueIfFailed hdelay h

theorem length_webhookRequeueIfFailed_zero {item : QueuedInboundDelivery}
    (h : webhookRequeueIfFailed env up now b item 0 = .ok (requeued, b')) : b'.ready.length ≤ b.ready.length + 1 := by
  obtain ⟨queued, -, h⟩ := bind_eq_ok.mp h
  unfold requeueIfFailed enqueueTask at h
  rw [if_neg (lt_irrefl (0 : Seconds))] at h
  split at h
  · exact (Prod.mk.inj (Except.ok.inj h)).2 ▸ Nat.le_succ _
  · obtain ⟨-, rfl⟩ := Prod.mk.inj (Except.ok.inj h)
    split
    · split
      · exact (length_ready_lpush b _).le
      · exact Nat.le_succ _
    · exact Nat.le_succ _

/-- A turn brings an entry only where a type error has the delivery queued twice. -/
theorem arrivals_deliveryFlusher_le {c : DeliveryCircumstances} (hdelays : DelaysRetries env c.jitter) :
    (deliveryFlusher env).arrivals c b ≤ (if c.recorded .requeued = .typeError then 1 else 0 : ℕ) := by
  set k : ℕ := if c.recorded .requeued = .typeError then 1 else 0 with hk
  have hrequeued (item : QueuedInboundDelivery) {delay : Seconds} (hdelay : 0 < delay) (b : Broker) :
      (requeueDelivery env c item delay b).2.ready.length ≤ b.ready.length + k := by
    unfold requeueDelivery
    split
    · exact Nat.le_add_right _ k
    · rename_i hfirst
      rw [← ready_webhookRequeueIfFailed hdelay hfirst]
      cases hrecorded : c.recorded .requeued with
      | written => exact Nat.le_add_right _ k
      | raised => exact Nat.le_add_right _ k
      | typeError =>
        simp only
        split
        · exact Nat.le_add_right _ k
        · rename_i hagain
          rw [hk, if_pos hrecorded]
          exact length_webhookRequeueIfFailed_zero hagain
  have hturn (item : QueuedInboundDelivery) (b : Broker) :
      (flushDelivery env c item b).2.ready.length ≤ b.ready.length + k := by
    unfold flushDelivery failDelivery
    split
    · exact Nat.le_add_right _ k
    · split
      · cases hdelay : attemptsToDelay env item.attempts with
        | error e => exact Nat.le_add_right _ k
        | ok d => exact hrequeued item (hdelays _ d hdelay) b
      · exact Nat.le_add_right _ k
  unfold Flusher.arrivals
  split
  · rename_i item b' _
    have hlength := hturn item b'
    rw [process_deliveryFlusher]
    omega
  · exact Int.natCast_nonneg k

end Arrivals

variable {env : QueueEnv} {b : Broker}

theorem flushQueue_running_iff {processed : Nat} {cs : List Circumstances} :
    (flushQueue env false processed cs b).ending = .running ↔ turns (taskFlusher env).turn cs b ≠ none := by
  induction cs generalizing processed b with
  | nil => exact ⟨fun _ => nofun, fun _ => rfl⟩
  | cons c cs ih =>
    rw [turns, flushQueue]
    rcases hdequeue : dequeueTask env c.up c.clock false b with ⟨e | _ | task, b'⟩
    · cases hrecorded : c.recorded .dequeueFailed <;> simp [Flusher.turn, hdequeue, hrecorded, ih]
    · simp only [Flusher.turn, dequeue_taskFlusher, hdequeue, Option.bind_none]
      split <;> simp
    · cases hstopped : (flushTask env c task b').stopped <;> simp [Flusher.turn, hdequeue, hstopped, ih]

theorem flushWebhookDeliveryQueue_running_iff {processed : Nat} {cs : List DeliveryCircumstances} :
    (flushWebhookDeliveryQueue env false processed cs b).ending = .running ↔
      turns (deliveryFlusher env).turn cs b ≠ none := by
  induction cs generalizing processed b with
  | nil => exact ⟨fun _ => nofun, fun _ => rfl⟩
  | cons c cs ih =>
    rw [turns, flushWebhookDeliveryQueue]
    rcases hdequeue : dequeueWebhookDelivery env c.up c.clock false b with ⟨e | _ | item, b'⟩
    · simp [Flusher.turn, hdequeue, ih]
    · simp only [Flusher.turn, dequeue_deliveryFlusher, hdequeue, Option.bind_none]
      split <;> simp
    · cases hraised : (flushDelivery env c item b').1 <;> simp [Flusher.turn, hdequeue, hraised, ih]

/-! ## Where they end -/

def FlushQueueEnds (env : QueueEnv) (cs : ℕ → Circumstances) (b : Broker) : Prop :=
  ∃ n, (flushQueue env false 0 (firstInputs cs n) b).ending ≠ .running

def FlushWebhookDeliveryQueueEnds (env : QueueEnv) (cs : ℕ → DeliveryCircumstances) (b : Broker) : Prop :=
  ∃ n, (flushWebhookDeliveryQueue env false 0 (firstInputs cs n) b).ending ≠ .running

/-- Redis answers more dequeues than there are entries, those on the ready list and those that come to it meanwhile; or
an exception leaves the loop. -/
def Flusher.AnswersSuffice {χ α : Type} (F : Flusher χ α) (up : χ → Bool) (cs : ℕ → χ) (b : Broker) : Prop :=
  Outpaced F.turn (fun b => b.ready.length) up F.arrivals F.Raises cs b

theorem flushQueueEnds_iff {cs : ℕ → Circumstances} : FlushQueueEnds env cs b ↔ Ends (taskFlusher env).turn cs b :=
  exists_congr fun _ => (not_congr flushQueue_running_iff).trans not_not

theorem flushWebhookDeliveryQueueEnds_iff {cs : ℕ → DeliveryCircumstances} :
    FlushWebhookDeliveryQueueEnds env cs b ↔ Ends (deliveryFlusher env).turn cs b :=
  exists_congr fun _ => (not_congr flushWebhookDeliveryQueue_running_iff).trans not_not

/-- **Where a batch ends**: exactly where Redis answers often enough. -/
theorem flushes_end_iff (env : QueueEnv) (b : Broker) :
    (∀ cs : ℕ → Circumstances,
      FlushQueueEnds env cs b ↔ (taskFlusher env).AnswersSuffice (·.up) cs b) ∧
    ∀ cs : ℕ → DeliveryCircumstances,
      FlushWebhookDeliveryQueueEnds env cs b ↔ (deliveryFlusher env).AnswersSuffice (·.up) cs b :=
  ⟨fun _ => flushQueueEnds_iff.trans (Flusher.countdown (pops_taskFlusher env)).ends_iff,
    fun _ => flushWebhookDeliveryQueueEnds_iff.trans (Flusher.countdown (pops_deliveryFlusher env)).ends_iff⟩

/-- A batch to which only so many entries come ends if Redis answers again and again. -/
theorem flushes_end_of_answering (env : QueueEnv) (b : Broker) (bound : ℤ) :
    (∀ cs : ℕ → Circumstances,
      (∀ n, total (taskFlusher env).turn (taskFlusher env).arrivals (firstInputs cs n) b ≤ bound) →
      (∀ m, ∃ n, m ≤ (firstInputs cs (n + 1)).countP (·.up)) → FlushQueueEnds env cs b) ∧
    ∀ cs : ℕ → DeliveryCircumstances,
      (∀ n, total (deliveryFlusher env).turn (deliveryFlusher env).arrivals (firstInputs cs n) b ≤ bound) →
      (∀ m, ∃ n, m ≤ (firstInputs cs (n + 1)).countP (·.up)) → FlushWebhookDeliveryQueueEnds env cs b := by
  constructor
  · intro cs hbound hagain
    exact flushQueueEnds_iff.mpr ((Flusher.countdown (pops_taskFlusher env)).ends_of_bounded hbound hagain)
  · intro cs hbound hagain
    exact flushWebhookDeliveryQueueEnds_iff.mpr
      ((Flusher.countdown (pops_deliveryFlusher env)).ends_of_bounded hbound hagain)

namespace Sample

def noRedis : Circumstances := { clock := ⟨0, 0, newYear.micros⟩, up := false }

def noRedisDelivery : DeliveryCircumstances := { clock := ⟨0, 0, newYear.micros⟩, up := false }

def backlog : Broker := { ready := [.other "run 4", entryOf dispatchTask, entryOf failingDeliveryTask] }

def failingTurns : ℕ → Circumstances
  | 0 => noRedis
  | 1 => {
      clock := ⟨0, 0, newYear.micros⟩
      handlerRaises := true
      handlerWrites := fun b => b.lpush [entryOf dispatchTask] }
  | _ => { clock := ⟨0, 0, newYear.micros⟩ }

def failingDeliveryTurns : ℕ → DeliveryCircumstances
  | 0 => noRedisDelivery
  | 1 => {
      clock := ⟨0, 0, newYear.micros⟩
      processRaises := true
      recorded := fun event => if event = .requeued then .typeError else .written }
  | _ => { clock := ⟨0, 0, newYear.micros⟩ }

end Sample

theorem delaysRetries_sample : DelaysRetries Sample.queueEnv 0 := by
  intro attempts d h
  unfold attemptsToDelay at h
  split at h
  · obtain rfl := Except.ok.inj h
    have hpower : (0 : Rat) < 2 ^ (max 0 attempts).toNat := pow_pos (by decide) _
    have hbase : (0 : Rat) < 10 * 2 ^ (max 0 attempts).toNat := mul_pos (by decide) hpower
    rw [computeJitter, mul_zero, add_zero]
    exact lt_min hbase (by decide)
  · cases h

theorem arrivals_failingTurns (n : ℕ) (b : Broker) :
    (taskFlusher Sample.queueEnv).arrivals (Sample.failingTurns n) b ≤ (if n = 1 then 1 else 0 : ℕ) := by
  match n with
  | 0 => exact arrivals_taskFlusher_le delaysRetries_sample fun _ => le_rfl
  | 1 => exact arrivals_taskFlusher_le delaysRetries_sample fun b => (length_ready_lpush b _).le
  | n + 2 => exact arrivals_taskFlusher_le delaysRetries_sample fun _ => le_rfl

theorem arrivals_failingDeliveryTurns (n : ℕ) (b : Broker) :
    (deliveryFlusher Sample.queueEnv).arrivals (Sample.failingDeliveryTurns n) b ≤ (if n = 1 then 1 else 0 : ℕ) := by
  match n with
  | 0 => exact arrivals_deliveryFlusher_le delaysRetries_sample
  | 1 => exact arrivals_deliveryFlusher_le delaysRetries_sample
  | n + 2 => exact arrivals_deliveryFlusher_le delaysRetries_sample

theorem countP_failingTurns (m : ℕ) :
    (firstInputs Sample.failingTurns (m + 1)).countP (·.up) = m ∧
      (firstInputs Sample.failingDeliveryTurns (m + 1)).countP (·.up) = m := by
  induction m with
  | zero => exact ⟨rfl, rfl⟩
  | succ m ih =>
    have hanswered : (Sample.failingTurns (m + 1)).up = true ∧ (Sample.failingDeliveryTurns (m + 1)).up = true := by
      cases m <;> exact ⟨rfl, rfl⟩
    rw [firstInputs_succ, List.countP_append, ih.1, firstInputs_succ Sample.failingDeliveryTurns, List.countP_append, ih.2]
    exact ⟨by simp [hanswered.1], by simp [hanswered.2]⟩

/-- A Redis that is down for a turn, an entry that cannot be read, and failures that bring new entries. -/
theorem flushes_end_of_answering_backlog :
    FlushQueueEnds Sample.queueEnv Sample.failingTurns Sample.backlog ∧
      FlushWebhookDeliveryQueueEnds Sample.queueEnv Sample.failingDeliveryTurns Sample.backlog := by
  obtain ⟨htasks, hdeliveries⟩ := flushes_end_of_answering Sample.queueEnv Sample.backlog (2 * 1 : ℕ)
  have hmost (n : ℕ) : ((if n = 1 then 1 else 0 : ℕ) : ℤ) ≤ (1 : ℕ) := by split_ifs <;> decide
  have hlater {n : ℕ} (hn : 2 ≤ n) : ((if n = 1 then 1 else 0 : ℕ) : ℤ) ≤ 0 := by
    rw [if_neg (by omega)]
    rfl
  constructor
  · refine htasks _ (total_le_mul (fun n b => (arrivals_failingTurns n b).trans (hmost n))
      fun n b hn => (arrivals_failingTurns n b).trans (hlater hn)) fun m => ⟨m, (countP_failingTurns m).1.ge⟩
  · refine hdeliveries _ (total_le_mul (fun n b => (arrivals_failingDeliveryTurns n b).trans (hmost n))
      fun n b hn => (arrivals_failingDeliveryTurns n b).trans (hlater hn)) fun m => ⟨m, (countP_failingTurns m).2.ge⟩

/-- While Redis cannot be reached, no batch ends. -/
theorem not_flushes_end :
    (¬ ∀ (env : QueueEnv) (b : Broker) (cs : ℕ → Circumstances), FlushQueueEnds env cs b) ∧
    ¬ ∀ (env : QueueEnv) (b : Broker) (cs : ℕ → DeliveryCircumstances), FlushWebhookDeliveryQueueEnds env cs b := by
  constructor
  · intro h
    have hends := flushQueueEnds_iff.mp (h Sample.queueEnv {} fun _ => Sample.noRedis)
    refine (Flusher.countdown (pops_taskFlusher _)).not_ends_of_idle (fun _ => rfl) (fun _ b => ?_) hends
    simp [Flusher.Raises, dequeueTask, Sample.noRedis]
  · intro h
    have hends := flushWebhookDeliveryQueueEnds_iff.mp (h Sample.queueEnv {} fun _ => Sample.noRedisDelivery)
    refine (Flusher.countdown (pops_deliveryFlusher _)).not_ends_of_idle (fun _ => rfl) (fun _ b => ?_) hends
    simp [Flusher.Raises, dequeueWebhookDelivery, dequeueTask, Sample.noRedisDelivery]

end SiloForge
