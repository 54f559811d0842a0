import SiloForge.Queue.Retries
import Mathlib.Tactic.Linarith
import Mathlib.Tactic.Positivity

/-!
# The limit of the retries

The webhook flusher retries deliveries as the worker retries tasks, with a second requeue where a type error follows the
first. Both wait longer after each attempt, up to a maximum.

* `backOff_iff` : the settings whose delays grow, and stay below the maximum;
* `deliveryRetried_iff` : the deliveries the flusher retries as often as the limit says;
* `retries_iff` : the retries of the worker and of the flusher, and their delays.
-/

namespace SiloForge

open Lib

/-! ## Delays -/

/-- **The delays of requeues** grow with the attempts, and stay below the maximum, but for a tenth of jitter. -/
structure BackOff (env : QueueEnv) : Prop where
  ordered : ∀ a b d d', 0 ≤ a → a ≤ b → b < env.settings.maxRetries → attemptsToDelay env a = .ok d →
    attemptsToDelay env b = .ok d' → d ≤ d'
  capped : ∀ a d, attemptsToDelay env a = .ok d → d ≤ env.settings.retryMaxSeconds
  jittered : ∀ a d jitter, 0 ≤ a → a < env.settings.maxRetries → attemptsToDelay env a = .ok d → 0 ≤ jitter →
    jitter ≤ 1 → d + computeJitter env d jitter ≤ 11 / 10 * env.settings.retryMaxSeconds

/-- Settings that make the delays grow: a base and a maximum that are not negative, or hardly a retry. -/
def DelaysGrow (settings : QueueSettings) : Prop :=
  settings.maxRetries ≤ 0 ∨ (0 ≤ settings.retryBaseSeconds ∧ 0 ≤ settings.retryMaxSeconds) ∨
    settings.maxRetries = 1 ∧
      (0 ≤ settings.retryMaxSeconds ∨ settings.retryBaseSeconds ≤ 11 / 10 * settings.retryMaxSeconds)

section Delays
variable {env : QueueEnv} {a b : Int} {d d' jitter : Seconds}

theorem attemptsToDelay_eq_ok (ha : 0 ≤ a) (h : attemptsToDelay env a = .ok d) :
    d = min (env.settings.retryBaseSeconds * 2 ^ a.toNat) env.settings.retryMaxSeconds := by
  unfold attemptsToDelay at h
  split at h
  · rw [← Except.ok.inj h, max_eq_right ha]
  · cases h

theorem attemptsToDelay_le (h : attemptsToDelay env a = .ok d) : d ≤ env.settings.retryMaxSeconds := by
  unfold attemptsToDelay at h
  split at h
  · exact (Except.ok.inj h) ▸ min_le_right _ _
  · cases h

theorem attemptsToDelay_zero : attemptsToDelay env 0 =
    .ok (min env.settings.retryBaseSeconds env.settings.retryMaxSeconds) := by
  simp [attemptsToDelay, floatExponentLimit]

theorem attemptsToDelay_one : attemptsToDelay env 1 =
    .ok (min (env.settings.retryBaseSeconds * 2) env.settings.retryMaxSeconds) := by
  simp [attemptsToDelay, floatExponentLimit]

theorem delay_mono (hbase : 0 ≤ env.settings.retryBaseSeconds) (ha : 0 ≤ a) (hab : a ≤ b)
    (hd : attemptsToDelay env a = .ok d) (hd' : attemptsToDelay env b = .ok d') : d ≤ d' := by
  rw [attemptsToDelay_eq_ok ha hd, attemptsToDelay_eq_ok (ha.trans hab) hd']
  have hpow : (2 : Seconds) ^ a.toNat ≤ 2 ^ b.toNat := pow_le_pow_right₀ (by norm_num) (Int.toNat_le_toNat hab)
  exact min_le_min_right _ (mul_le_mul_of_nonneg_left hpow hbase)

theorem jittered_le (hmax : 0 ≤ env.settings.retryMaxSeconds) (hd : d ≤ env.settings.retryMaxSeconds)
    (hjitter : 0 ≤ jitter) (hone : jitter ≤ 1) :
    d + computeJitter env d jitter ≤ 11 / 10 * env.settings.retryMaxSeconds := by
  unfold computeJitter
  set bound := min (env.settings.retryMaxSeconds / 10) (d * (1 / 10)) with hbound
  have hle : bound * jitter ≤ env.settings.retryMaxSeconds / 10 := by
    rcases le_total bound 0 with hneg | hpos
    · exact (mul_nonpos_of_nonpos_of_nonneg hneg hjitter).trans (by positivity)
    · exact (mul_le_of_le_one_right hpos hone).trans (min_le_left _ _)
  linarith

theorem jitter_nonpos (hd : d ≤ 0) (hjitter : 0 ≤ jitter) : computeJitter env d jitter ≤ 0 := by
  unfold computeJitter
  have hbound : min (env.settings.retryMaxSeconds / 10) (d * (1 / 10)) ≤ 0 := min_le_of_right_le (by linarith)
  exact mul_nonpos_of_nonpos_of_nonneg hbound hjitter

theorem BackOff.delaysGrow (h : BackOff env) : DelaysGrow env.settings := by
  have hnoJitter : computeJitter env (min env.settings.retryBaseSeconds env.settings.retryMaxSeconds) 0 = 0 :=
    mul_zero _
  by_cases hnone : env.settings.maxRetries ≤ 0
  · exact .inl hnone
  -- the first delay is within the maximum without any jitter
  have hfirst := h.jittered 0 _ 0 le_rfl (not_le.mp hnone) attemptsToDelay_zero le_rfl zero_le_one
  rw [hnoJitter, add_zero] at hfirst
  have hmax : 0 ≤ env.settings.retryMaxSeconds ∨
      env.settings.retryBaseSeconds ≤ 11 / 10 * env.settings.retryMaxSeconds := by
    rcases min_le_iff.mp hfirst with hbase | hmax
    · exact .inr hbase
    · exact .inl (by linarith)
  by_cases hone : env.settings.maxRetries = 1
  · exact .inr (.inr ⟨hone, hmax⟩)
  · -- with a second retry the delays have to grow
    have hgrow := h.ordered 0 1 _ _ le_rfl zero_le_one (by omega) attemptsToDelay_zero attemptsToDelay_one
    refine .inr (.inl ?_)
    rcases min_le_iff.mp (hgrow.trans (min_le_left _ _)) with hbase | hbelow
    · have hbase' : 0 ≤ env.settings.retryBaseSeconds := by linarith
      exact ⟨hbase', hmax.elim id fun h => by linarith⟩
    · have hmax' : 0 ≤ env.settings.retryMaxSeconds := hmax.elim id fun h => by linarith
      exact ⟨by linarith, hmax'⟩

theorem first_jittered_le (hmax : env.settings.retryMaxSeconds < 0)
    (hbase : env.settings.retryBaseSeconds ≤ 11 / 10 * env.settings.retryMaxSeconds)
    (hd : attemptsToDelay env 0 = .ok d) (hjitter : 0 ≤ jitter) :
    d + computeJitter env d jitter ≤ 11 / 10 * env.settings.retryMaxSeconds := by
  obtain rfl := Except.ok.inj (attemptsToDelay_zero.symm.trans hd)
  have hle := min_le_left env.settings.retryBaseSeconds env.settings.retryMaxSeconds
  have hnegative : min env.settings.retryBaseSeconds env.settings.retryMaxSeconds ≤ 0 := by linarith
  have hnone : computeJitter env (min env.settings.retryBaseSeconds env.settings.retryMaxSeconds) jitter ≤ 0 :=
    jitter_nonpos hnegative hjitter
  exact (add_le_of_nonpos_right hnone).trans (hle.trans hbase)

/-- **The settings whose delays grow.** -/
theorem backOff_iff : BackOff env ↔ DelaysGrow env.settings := by
  refine ⟨BackOff.delaysGrow, fun h => ?_⟩
  constructor
  case ordered =>
    intro a b d d' ha hab hb hd hd'
    rcases h with hnone | ⟨hbase, -⟩ | ⟨hone, -⟩
    · omega
    · exact delay_mono hbase ha hab hd hd'
    · obtain rfl : a = b := by omega
      exact (Except.ok.inj (hd.symm.trans hd')).le
  case capped => exact fun a d => attemptsToDelay_le
  case jittered =>
    intro a d jitter ha hlimit hd hjitter hone
    by_cases hmax : 0 ≤ env.settings.retryMaxSeconds
    · exact jittered_le hmax (attemptsToDelay_le hd) hjitter hone
    · rcases h with hnone | ⟨-, hmax'⟩ | ⟨hone, hmax' | hbase⟩
      · omega
      · exact absurd hmax' hmax
      · exact absurd hmax' hmax
      · obtain rfl : a = 0 := by omega
        exact first_jittered_le (not_le.mp hmax) hbase hd hjitter

end Delays

/-! ## The webhook flusher -/

def DeliveryCircumstances.failing (c : DeliveryCircumstances) : DeliveryCircumstances :=
  { c with processRaises := true }

def readDelivery? (env : QueueEnv) (wall : Instant) (entry : Entry) : Option QueuedInboundDelivery :=
  match decodeTask env.texts wall entry with
  | .ok task => (decodeWebhookTask env.texts wall task).toOption
  | .error _ => none

/-- The entries the turn of a delivery that fails leaves in a queue that was empty. -/
def storedDelivery (env : QueueEnv) (c : DeliveryCircumstances) (item : QueuedInboundDelivery) : List Entry :=
  (flushDelivery env c.failing item {}).2.entries

/-- The turn of an entry: the entry its delivery is stored as. -/
def deliveryTurn (env : QueueEnv) (c : DeliveryCircumstances) (entry : Entry) : Option Entry :=
  (readDelivery? env c.clock.wall entry).bind fun item => sole? (storedDelivery env c item)

def deliveredAt (env : QueueEnv) (cs : ℕ → DeliveryCircumstances) (entry : Entry) (n : ℕ) :
    Option QueuedInboundDelivery :=
  (turns (deliveryTurn env) (firstInputs cs n) entry).bind (readDelivery? env (cs n).clock.wall)

theorem deliveredAt_succ (env : QueueEnv) (cs : ℕ → DeliveryCircumstances) (entry : Entry) (n : ℕ) :
    deliveredAt env cs entry (n + 1) = (deliveredAt env cs entry n).bind fun item =>
      (sole? (storedDelivery env (cs n) item)).bind (readDelivery? env (cs (n + 1)).clock.wall) := by
  rw [deliveredAt, turns_firstInputs_succ, deliveredAt, Option.bind_assoc, Option.bind_assoc]
  congr 1
  funext e
  exact Option.bind_assoc ..

/-- How many of the two requeues of a failed delivery are taken. The second one follows a type error, and has no
delay; the first one raises where it was to have one, and Redis is not there. -/
def requeuesTaken (c : DeliveryCircumstances) (delay : Seconds) : ℕ :=
  (if c.requeueUp = true then 1 else 0) +
    if (c.requeueUp = true ∨ delay ≤ 0) ∧ c.recorded .requeued = .typeError ∧ c.retryUp = true then 1 else 0

/-- The requeue of a failed delivery is reached, below the limit, and taken once. -/
structure DeliveryRetakes (env : QueueEnv) (c : DeliveryCircumstances) (attempts : Int) : Prop where
  recorded : c.recorded .failed = .written
  exponent : attempts < floatExponentLimit
  limit : attempts < env.settings.maxRetries
  once : ∀ d, attemptsToDelay env attempts = .ok d → requeuesTaken c (d + computeJitter env d c.jitter) = 1

section Deliveries
variable {env : QueueEnv} {c : DeliveryCircumstances} {item : QueuedInboundDelivery} {queued : QueuedTask} {b : Broker}
  {delay : Seconds} {entry : Entry}

theorem webhookRequeueIfFailed_eq (hqueued : taskFromDelivery env.texts item = .ok queued) (up : Bool) (now : Seconds)
    (b : Broker) (delay : Seconds) :
    webhookRequeueIfFailed env up now b item delay = requeueIfFailed env up now b queued delay := by
  rw [webhookRequeueIfFailed, hqueued]
  rfl

theorem entries_lpush_cons (b : Broker) (entry : Entry) : (b.lpush [entry]).entries = entry :: b.entries := rfl

theorem requeueIfFailed_now {task : QueuedTask} (hlimit : task.attempts < env.settings.maxRetries)
    (hjson : (requeueWithAttempt task).toJson env.texts = .ok entry) (up : Bool) (now : Seconds) (b : Broker) :
    requeueIfFailed env up now b task 0 = .ok (if up then (true, b.lpush [entry]) else (false, b)) := by
  rw [requeueIfFailed_of_lt hlimit hjson, if_neg (lt_irrefl _)]

/-- **What the requeues of a delivery store**: its entry, once for each that is taken. -/
theorem entries_requeueDelivery (hqueued : taskFromDelivery env.texts item = .ok queued)
    (hlimit : queued.attempts < env.settings.maxRetries) (hwritable : queued.Writable)
    (hjson : (requeueWithAttempt queued).toJson env.texts = .ok entry) :
    (requeueDelivery env c item delay {}).2.entries = List.replicate (requeuesTaken c delay) entry := by
  unfold requeueDelivery requeuesTaken
  simp only [webhookRequeueIfFailed_eq hqueued, requeueIfFailed_now hlimit hjson]
  cases hup : c.requeueUp with
  | true =>
    obtain ⟨put, entry', hstores, hjson', hputs⟩ : ∃ put entry,
        (∀ b, requeueIfFailed env true c.requeueNow b queued delay = .ok (true, put b)) ∧
          (requeueWithAttempt queued).toJson env.texts = .ok entry ∧ Puts entry put :=
      requeueIfFailed_stores hlimit hwritable
    obtain rfl := Except.ok.inj (hjson'.symm.trans hjson)
    have hentries := hputs.entries
    rw [hstores]
    cases hrecorded : c.recorded .requeued with
    | written | raised => simpa [hrecorded] using hentries
    | typeError => cases c.retryUp <;> simp [hentries, entries_lpush_cons]
  | false =>
    rw [requeueIfFailed_down _ hlimit hwritable]
    by_cases hdelay : 0 < delay
    · rw [if_pos hdelay]
      simp [not_le.mpr hdelay]
      rfl
    · rw [if_neg hdelay]
      cases c.recorded .requeued with
      | written | raised =>
        simp
        rfl
      | typeError => cases c.retryUp <;> simp [not_lt.mp hdelay] <;> rfl

theorem entries_requeueDelivery_of_le (hqueued : taskFromDelivery env.texts item = .ok queued)
    (hlimit : env.settings.maxRetries ≤ queued.attempts) : (requeueDelivery env c item delay {}).2.entries = [] := by
  unfold requeueDelivery
  simp only [webhookRequeueIfFailed_eq hqueued, requeueIfFailed_of_le hlimit]
  cases c.recorded .requeued <;> rfl

theorem sole?_replicate {k : ℕ} : sole? (List.replicate k entry) = if k = 1 then some entry else none := by
  match k with
  | 0 => rfl
  | 1 => rfl
  | k + 2 => rfl

theorem storedDelivery_eq (env : QueueEnv) (c : DeliveryCircumstances) (item : QueuedInboundDelivery) :
    storedDelivery env c item = (failDelivery env c.failing item {}).2.entries := by
  have hraises : ¬ (c.failing.processRaises = false ∧ c.failing.recorded .success = .written) := fun h => nomatch h.1
  rw [storedDelivery, flushDelivery, if_neg hraises]

/-- **What a delivery that fails stores**: one entry where it is taken again. -/
theorem sole?_storedDelivery (hqueued : taskFromDelivery env.texts item = .ok queued)
    (hwritable : queued.Writable) (hjson : (requeueWithAttempt queued).toJson env.texts = .ok entry)
    (hsame : queued.attempts = item.attempts) :
    (DeliveryRetakes env c item.attempts → sole? (storedDelivery env c item) = some entry) ∧
      (¬ DeliveryRetakes env c item.attempts → sole? (storedDelivery env c item) = none) := by
  rw [storedDelivery_eq, failDelivery]
  by_cases hrecorded : c.failing.recorded .failed = .written
  · rw [if_pos hrecorded]
    cases hdelay : attemptsToDelay env item.attempts with
    | error e =>
      refine ⟨fun h => ?_, fun _ => rfl⟩
      rw [attemptsToDelay, if_pos h.exponent] at hdelay
      cases hdelay
    | ok d =>
      have hexponent : item.attempts < floatExponentLimit := by
        by_contra hnot
        rw [attemptsToDelay, if_neg hnot] at hdelay
        cases hdelay
      by_cases hlimit : queued.attempts < env.settings.maxRetries
      · simp only [entries_requeueDelivery hqueued hlimit hwritable hjson, sole?_replicate]
        refine ⟨fun h => if_pos (h.once d hdelay), fun h => if_neg fun honce => h ?_⟩
        refine ⟨hrecorded, hexponent, hsame ▸ hlimit, fun d' hd' => ?_⟩
        obtain rfl := Except.ok.inj (hdelay.symm.trans hd')
        exact honce
      · simp only [entries_requeueDelivery_of_le hqueued (not_lt.mp hlimit)]
        exact ⟨fun h => absurd (hsame ▸ h.limit) hlimit, fun _ => rfl⟩
  · rw [if_neg hrecorded]
    exact ⟨fun h => absurd h.recorded hrecorded, fun _ => rfl⟩

/-! ### Its turns -/

variable {cs : ℕ → DeliveryCircumstances} {n : ℕ} {wall : Instant}

theorem fits_of_readDelivery? (h : readDelivery? env wall entry = some item) :
    item.Fits ∧ item.receivedAt.WholeMinutes := by
  unfold readDelivery? at h
  split at h
  · rename_i task _
    cases hread : decodeWebhookTask env.texts wall task with
    | error e =>
      rw [hread] at h
      cases h
    | ok p =>
      rw [hread] at h
      obtain rfl := Option.some.inj h
      obtain ⟨_, -, hread⟩ := bind_eq_ok.mp hread
      split at hread
      · obtain ⟨_, -, hparsed⟩ := bind_eq_ok.mp hread
        exact (parseDelivery_eq_ok hparsed).2.2
      · exact (parseDelivery_eq_ok hread).2.2
  · cases h

theorem readDelivery?_toJson (hjson : queued.toJson env.texts = .ok entry)
    (hread : decodeWebhookTask env.texts wall queued.sorted = .ok item) :
    readDelivery? env wall entry = some item := by
  rw [readDelivery?, decodeTask_toJson hjson]
  simp only
  rw [hread]
  rfl

theorem next_delivery (env : QueueEnv) (c : DeliveryCircumstances) (hfits : item.Fits)
    (hwhole : item.receivedAt.WholeMinutes) (hattempts : 0 ≤ item.attempts) (later : Instant) :
    (DeliveryRetakes env c item.attempts →
      (sole? (storedDelivery env c item)).bind (readDelivery? env later) =
        some { item with attempts := item.attempts + 1 }) ∧
    (¬ DeliveryRetakes env c item.attempts →
      (sole? (storedDelivery env c item)).bind (readDelivery? env later) = none) := by
  have hqueued := taskFromDelivery_eq_ok env.texts hwhole
  set queued : QueuedTask := ⟨TaskType.webhookDelivery, item.fields env.texts.dump, item.receivedAt, item.attempts⟩
  have hwritable : queued.Writable := ⟨hattempts, hwhole⟩
  have hjson : (requeueWithAttempt queued).toJson env.texts =
      .ok (.json (.obj (Json.sortFields ((requeueWithAttempt queued).fields env.texts.dump)))) :=
    toJson_eq_ok hwritable.requeueWithAttempt
  obtain ⟨htaken, hleft⟩ := sole?_storedDelivery (c := c) hqueued hwritable hjson rfl
  refine ⟨fun h => ?_, fun h => by rw [hleft h]; rfl⟩
  rw [htaken h, Option.bind_some]
  exact readDelivery?_toJson hjson (decodeWebhookTask_retry hfits hqueued)

/-- **Retries of the flusher**: as many failures as the limit says are followed by another turn, and each turn's attempts
are the failures so far. -/
structure DeliveryRetried (env : QueueEnv) (cs : ℕ → DeliveryCircumstances) (entry : Entry) : Prop where
  executed : ∀ n, (deliveredAt env cs entry n).isSome = true ↔ (n : ℤ) ≤ env.settings.maxRetries
  attempts : ∀ n item, deliveredAt env cs entry n = some item → item.attempts = n

/-- What they rest on: a limit of none at least, and below it requeues that are reached and taken once. -/
structure DeliveriesSettle (env : QueueEnv) (cs : ℕ → DeliveryCircumstances) : Prop where
  limit : 0 ≤ env.settings.maxRetries
  fails : ∀ n : ℕ, (n : ℤ) < env.settings.maxRetries → DeliveryRetakes env (cs n) n

theorem attempts_deliveredAt (hstart : deliveredAt env cs entry 0 = some item) (hattempts : item.attempts = 0)
    {later : QueuedInboundDelivery} (h : deliveredAt env cs entry n = some later) :
    later.attempts = n ∧ later.Fits ∧ later.receivedAt.WholeMinutes := by
  induction n generalizing later with
  | zero =>
    obtain rfl := Option.some.inj (hstart.symm.trans h)
    obtain ⟨e, -, hread⟩ := Option.bind_eq_some_iff.mp h
    exact ⟨hattempts, fits_of_readDelivery? hread⟩
  | succ n ih =>
    rw [deliveredAt_succ] at h
    obtain ⟨before, hbefore, hnext⟩ := Option.bind_eq_some_iff.mp h
    obtain ⟨hcount, hfits, hwhole⟩ := ih hbefore
    obtain ⟨htaken, hleft⟩ := next_delivery env (cs n) hfits hwhole (by omega) (cs (n + 1)).clock.wall
    by_cases hretakes : DeliveryRetakes env (cs n) before.attempts
    · obtain rfl := Option.some.inj ((htaken hretakes).symm.trans hnext)
      exact ⟨by simp only [hcount]; push_cast; rfl, ⟨hfits.boardId, hfits.webhookId, hfits.payloadId⟩, hwhole⟩
    · rw [hleft hretakes] at hnext
      cases hnext

theorem isSome_deliveredAt_succ (hstart : deliveredAt env cs entry 0 = some item) (hattempts : item.attempts = 0) :
    (deliveredAt env cs entry (n + 1)).isSome = true ↔
      (deliveredAt env cs entry n).isSome = true ∧ DeliveryRetakes env (cs n) n := by
  rw [deliveredAt_succ]
  cases hbefore : deliveredAt env cs entry n with
  | none => simp
  | some before =>
    obtain ⟨hcount, hfits, hwhole⟩ := attempts_deliveredAt hstart hattempts hbefore
    obtain ⟨htaken, hleft⟩ := next_delivery env (cs n) hfits hwhole (by omega) (cs (n + 1)).clock.wall
    rw [hcount] at htaken hleft
    rw [Option.bind_some]
    by_cases hretakes : DeliveryRetakes env (cs n) n
    · rw [htaken hretakes]
      exact ⟨fun _ => ⟨rfl, hretakes⟩, fun _ => rfl⟩
    · rw [hleft hretakes]
      exact ⟨nofun, fun h => absurd h.2 hretakes⟩

/-- **The deliveries the flusher retries as often as the limit says.** -/
theorem deliveryRetried_iff (hstart : deliveredAt env cs entry 0 = some item) (hattempts : item.attempts = 0) :
    DeliveryRetried env cs entry ↔ DeliveriesSettle env cs := by
  constructor
  · intro h
    refine ⟨(h.executed 0).mp (by rw [hstart]; rfl), fun n hlimit => ?_⟩
    have hnext := (h.executed (n + 1)).mpr (by push_cast; omega)
    exact ((isSome_deliveredAt_succ hstart hattempts).mp hnext).2
  · intro h
    refine ⟨fun n => ?_, fun n later hlater => (attempts_deliveredAt hstart hattempts hlater).1⟩
    induction n with
    | zero =>
      rw [hstart]
      exact ⟨fun _ => h.limit, fun _ => rfl⟩
    | succ n ih =>
      rw [isSome_deliveredAt_succ hstart hattempts, ih]
      push_cast
      constructor
      · rintro ⟨-, hretakes⟩
        exact Int.add_one_le_iff.mpr hretakes.limit
      · intro hlimit
        exact ⟨by omega, h.fails n (by omega)⟩

end Deliveries

/-! ## Both -/

/-- **Retries are bounded and back off** exactly where they settle, and where the settings make the delays grow. -/
theorem retries_iff (env : QueueEnv) :
    (∀ ts entry task, executedAt env ts entry 0 = some task → task.attempts = 0 → PutsOff env ts task →
      (Retried env ts entry ↔ RetriesSettle env ts task)) ∧
    (∀ cs entry item, deliveredAt env cs entry 0 = some item → item.attempts = 0 →
      (DeliveryRetried env cs entry ↔ DeliveriesSettle env cs)) ∧
    (BackOff env ↔ DelaysGrow env.settings) :=
  ⟨fun _ _ _ => retried_iff, fun _ _ _ => deliveryRetried_iff, backOff_iff⟩

namespace Sample

def handlerFails (recorded : Bool) : ℕ → Treatment := fun _ => .fails (raising recorded)

def processFails : ℕ → DeliveryCircumstances := fun _ => { clock := ⟨0, 0, newYear.micros⟩ }

end Sample

theorem executedAt_dispatchTask (recorded : Bool) :
    executedAt Sample.queueEnv (Sample.handlerFails recorded) (Sample.entryOf Sample.dispatchTask) 0 =
      some Sample.dispatchTask.sorted := by
  have hhandler : taskHandler? Sample.dispatchTask.taskType = some .taskExecutionDispatch := rfl
  have hjson : Sample.dispatchTask.toJson Sample.queueEnv.texts = .ok (Sample.entryOf Sample.dispatchTask) :=
    toJson_eq_ok ⟨le_rfl, DateTime.wholeMinutes_utc _⟩
  have hworked (later : Instant) : workedTask? Sample.queueEnv later (Sample.entryOf Sample.dispatchTask) =
      some Sample.dispatchTask.sorted := workedTask?_of_toJson hhandler hjson
  exact hworked (Sample.handlerFails recorded 0).circumstances.clock.wall

theorem putsOff_handlerFails (recorded : Bool) (task : QueuedTask) :
    PutsOff Sample.queueEnv (Sample.handlerFails recorded) task := by
  intro n c up now delaySeconds hturn
  cases hturn

theorem deliveredAt_failingDelivery :
    deliveredAt Sample.queueEnv Sample.processFails (Sample.entryOf Sample.failingDeliveryTask) 0 =
      some Sample.failingDelivery := by
  have hfits : Sample.failingDelivery.Fits := ⟨by decide, by decide, by decide⟩
  have hwhole : Sample.failingDelivery.receivedAt.WholeMinutes := DateTime.wholeMinutes_utc _
  have hqueued : taskFromDelivery Sample.queueTexts Sample.failingDelivery = .ok Sample.failingDeliveryTask :=
    taskFromDelivery_eq_ok _ hwhole
  have hread : readDelivery? Sample.queueEnv Sample.newYear.micros (Sample.entryOf Sample.failingDeliveryTask) =
      some Sample.failingDelivery :=
    readDelivery?_toJson (toJson_eq_ok ⟨le_rfl, hwhole⟩) (decodeWebhookTask_taskFromDelivery hfits hqueued)
  exact hread

/-- With three retries the dispatch of run 4 and the delivery are executed four times, later and later. -/
theorem retries_dispatchTask :
    Retried Sample.queueEnv (Sample.handlerFails true) (Sample.entryOf Sample.dispatchTask) ∧
      DeliveryRetried Sample.queueEnv Sample.processFails (Sample.entryOf Sample.failingDeliveryTask) ∧
      BackOff Sample.queueEnv := by
  obtain ⟨hworker, hflusher, hdelays⟩ := retries_iff Sample.queueEnv
  have hexponent : (3 : ℤ) ≤ floatExponentLimit := by decide
  refine ⟨(hworker _ _ _ (executedAt_dispatchTask true) rfl (putsOff_handlerFails true _)).mpr ?_,
    (hflusher _ _ _ deliveredAt_failingDelivery rfl).mpr ?_,
    hdelays.mpr (.inr (.inl ⟨by decide, by decide⟩))⟩
  · refine ⟨by decide, fun n _ hlimit => ?_, fun n hreturned => ?_, fun _ htype => absurd htype (by decide)⟩
    · have hlimit' : (failures (Sample.handlerFails true) n : ℤ) < 3 := hlimit
      exact ⟨rfl, hlimit'.trans_le hexponent, hlimit, rfl⟩
    · cases hreturned
  · refine ⟨by decide, fun n hlimit => ?_⟩
    have hlimit' : (n : ℤ) < 3 := hlimit
    exact ⟨rfl, hlimit'.trans_le hexponent, hlimit, fun d _ => rfl⟩

/-- A dispatch whose failure the database does not record is executed once: the exception leaves the loop before the
requeue. -/
theorem not_retries : ¬ ∀ (env : QueueEnv) (ts : ℕ → Treatment) (entry : Entry) (task : QueuedTask),
    executedAt env ts entry 0 = some task → task.attempts = 0 → PutsOff env ts task → Retried env ts entry := by
  intro h
  have hdefers := putsOff_handlerFails false Sample.dispatchTask.sorted
  have hretried := h Sample.queueEnv (Sample.handlerFails false) _ _ (executedAt_dispatchTask false) rfl hdefers
  have hsettle := (retried_iff (executedAt_dispatchTask false) rfl hdefers).mp hretried
  exact absurd (hsettle.fails 0 rfl (by decide)).recorded Bool.false_ne_true

end SiloForge
