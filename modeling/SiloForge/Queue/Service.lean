import SiloForge.Lib.SortedSet
import SiloForge.Queue.Payloads
import Mathlib.Logic.Encodable.Basic

/-!
# The queue

Ready entries are in a list of Redis, delayed ones in a sorted set by the time they are due.

* `Broker` : the two keys, with the commands sent to them;
* `drainReadyScheduledTasks` : moving what is due to the ready list;
* `enqueueTask`, `enqueueTaskWithDelay`, `requeueIfFailed`, `dequeueTask` : the queue's operations;
* `requeueIfFailed_of_le`, `exists_entry_of_requeued` : what a requeue answers, and what it stores.
-/

namespace SiloForge

open Lib

abbrev Seconds := Rat

structure QueueSettings where
  maxRetries : Int := 3
  retryBaseSeconds : Seconds := 10
  retryMaxSeconds : Seconds := 120

/-- What the queue runs on: its settings, the texts it writes, and the order of these texts. -/
structure QueueEnv where
  settings : QueueSettings
  texts : QueueTexts
  entryLe : Entry → Entry → Bool

/-- The order of a sorted set: by score, and members of one score by their texts. -/
def QueueEnv.scoreLe (env : QueueEnv) (a b : Entry × Seconds) : Prop :=
  a.2 < b.2 ∨ a.2 = b.2 ∧ env.entryLe a.1 b.1 = true

instance (env : QueueEnv) : DecidableRel env.scoreLe := fun a b =>
  inferInstanceAs (Decidable (a.2 < b.2 ∨ a.2 = b.2 ∧ env.entryLe a.1 b.1 = true))

/-! ## Redis -/

/-- The ready list, its left end first, and the scheduled set. -/
structure Broker where
  ready : List Entry := []
  scheduled : SortedSet Entry Seconds := ∅

namespace Broker

/-- `LPUSH`: each value in turn to the left end. -/
def lpush (b : Broker) (values : List Entry) : Broker := { b with ready := values.reverse ++ b.ready }

/-- `RPOP`: the value at the right end. -/
def rpop (b : Broker) : Option (Entry × Broker) :=
  b.ready.getLast?.map fun e => (e, { b with ready := b.ready.dropLast })

def zadd (b : Broker) (e : Entry) (score : Seconds) : Broker := { b with scheduled := b.scheduled.add e score }

def zrem (b : Broker) (values : List Entry) : Broker := { b with scheduled := b.scheduled.remove values }

def Holds (b : Broker) (e : Entry) : Prop := e ∈ b.ready ∨ e ∈ b.scheduled.members

end Broker

/-! ## Scheduled tasks -/

def dryRunBatchSize : Nat := 100

/-- `ZRANGEBYSCORE` up to the present: the entries to move. -/
def readyItems (env : QueueEnv) (now : Seconds) (scheduled : SortedSet Entry Seconds) : List (Entry × Seconds) :=
  scheduled.range env.scoreLe (fun score => score ≤ now) dryRunBatchSize

variable {env : QueueEnv} {now delaySeconds : Seconds} {b b' : Broker} {task : QueuedTask}

theorem mem_readyItems {scheduled : SortedSet Entry Seconds} {v : Entry × Seconds}
    (h : v ∈ readyItems env now scheduled) : v ∈ scheduled.entries ∧ v.2 ≤ now := by
  obtain ⟨hmem, hdue⟩ := SortedSet.mem_range h
  exact ⟨hmem, of_decide_eq_true hdue⟩

theorem nodup_readyItems (env : QueueEnv) (now : Seconds) (scheduled : SortedSet Entry Seconds) :
    (readyItems env now scheduled).Nodup := SortedSet.nodup_range scheduled _ _

def nextDelay (env : QueueEnv) (now : Seconds) (scheduled : SortedSet Entry Seconds) : Option Seconds :=
  (scheduled.range env.scoreLe (fun score => now ≤ score) 1).head?.map fun e => max 0 (e.2 - now)

/-- Move what is due to the ready list, with no other command in between. -/
def drainReadyScheduledTasks (env : QueueEnv) (now : Seconds) (b : Broker) : Option Seconds × Broker :=
  let values := (readyItems env now b.scheduled).map Prod.fst
  let b := if values = [] then b else (b.lpush values).zrem values
  (nextDelay env now b.scheduled, b)

/-- Put a task into the scheduled set; the command raises when Redis is not there (`up`). -/
def scheduleForLater (env : QueueEnv) (up : Bool) (now : Seconds) (b : Broker) (task : QueuedTask)
    (delaySeconds : Seconds) : Except QueueError Broker := do
  let entry ← task.toJson env.texts
  require (up = true) .redis
  return b.zadd entry (now + delaySeconds)

/-! ## Enqueueing -/

def enqueueTask (env : QueueEnv) (up : Bool) (b : Broker) (task : QueuedTask) : Bool × Broker :=
  match task.toJson env.texts with
  | .ok entry => if up then (true, b.lpush [entry]) else (false, b)
  | .error _ => (false, b)

def enqueueTaskWithDelay (env : QueueEnv) (up : Bool) (now : Seconds) (b : Broker) (task : QueuedTask)
    (delaySeconds : Seconds) : Bool × Broker :=
  let delay := max 0 delaySeconds
  if delay = 0 then enqueueTask env up b task
  else
    match scheduleForLater env up now b task delay with
    | .ok b => (true, b)
    | .error _ => (false, b)

/-- Queue a task again with one more attempt, up to the limit; answers whether it is queued. Only the branch without
a delay takes note of an error. -/
def requeueIfFailed (env : QueueEnv) (up : Bool) (now : Seconds) (b : Broker) (task : QueuedTask)
    (delaySeconds : Seconds) : Except QueueError (Bool × Broker) :=
  if env.settings.maxRetries < (requeueWithAttempt task).attempts then .ok (false, b)
  else if 0 < delaySeconds then
    (scheduleForLater env up now b (requeueWithAttempt task) delaySeconds).map fun b => (true, b)
  else .ok (enqueueTask env up b (requeueWithAttempt task))

theorem enqueueTask_up {entry : Entry} (h : task.toJson env.texts = .ok entry) :
    (enqueueTask env true b task).2 = b.lpush [entry] := by
  rw [enqueueTask, h]
  rfl

theorem enqueueTaskWithDelay_up {entry : Entry} (h : task.toJson env.texts = .ok entry) :
    (enqueueTaskWithDelay env true now b task delaySeconds).2 =
      if max 0 delaySeconds = 0 then b.lpush [entry] else b.zadd entry (now + max 0 delaySeconds) := by
  unfold enqueueTaskWithDelay
  simp only
  split
  · exact enqueueTask_up h
  · rw [scheduleForLater, h]
    rfl

/-- The clocks of a dequeue: at its start, after waiting for an entry, and as a datetime. -/
structure Clock where
  now : Seconds
  later : Seconds
  wall : Instant

/-- Pop a task, moving what is due where the queue is waited on or empty. An entry that is no task is gone when the
error is raised. -/
def dequeueTask (env : QueueEnv) (up : Bool) (clock : Clock) (block : Bool) (b : Broker) :
    Except QueueError (Option QueuedTask) × Broker :=
  if up then
    let b := if block then (drainReadyScheduledTasks env clock.now b).2 else b
    match b.rpop with
    | some (entry, b) => ((decodeTask env.texts clock.wall entry).map some, b)
    | none => (.ok none, (drainReadyScheduledTasks env clock.later b).2)
  else (.error .redis, b)

/-! ## What a requeue stores -/

theorem enqueueTask_eq_true {up : Bool} (h : enqueueTask env up b task = (true, b')) :
    ∃ e, task.toJson env.texts = .ok e ∧ b'.Holds e := by
  unfold enqueueTask at h
  split at h
  · rename_i e he
    split at h
    · obtain rfl := (Prod.mk.inj h).2
      exact ⟨e, he, .inl (List.mem_append_left _ (List.mem_singleton.mpr rfl))⟩
    · cases h
  · cases h

theorem scheduleForLater_eq_ok {up : Bool} (h : scheduleForLater env up now b task delaySeconds = .ok b') :
    ∃ e, task.toJson env.texts = .ok e ∧ up = true ∧ b' = b.zadd e (now + delaySeconds) := by
  simp only [scheduleForLater, bind_eq_ok, require_eq_ok, pure_eq_ok] at h
  obtain ⟨e, he, _, hup, rfl⟩ := h
  exact ⟨e, he, hup, rfl⟩

/-- **A requeue that answers yes** has queued the task with one more attempt. -/
theorem exists_entry_of_requeued {up : Bool} (h : requeueIfFailed env up now b task delaySeconds = .ok (true, b')) :
    ∃ e, (requeueWithAttempt task).toJson env.texts = .ok e ∧ b'.Holds e := by
  unfold requeueIfFailed at h
  split at h
  · cases h
  · split at h
    · obtain ⟨b'', hstored, heq⟩ := map_eq_ok.mp h
      obtain rfl := (Prod.mk.inj heq).2
      obtain ⟨e, he, -, rfl⟩ := scheduleForLater_eq_ok hstored
      exact ⟨e, he, .inr (SortedSet.mem_members_add _ _ _)⟩
    · exact enqueueTask_eq_true (Except.ok.inj h)

theorem requeueIfFailed_of_le {up : Bool} (h : env.settings.maxRetries ≤ task.attempts) :
    requeueIfFailed env up now b task delaySeconds = .ok (false, b) := by
  have hlimit : env.settings.maxRetries < (requeueWithAttempt task).attempts := by
    rw [attempts_requeueWithAttempt]
    omega
  rw [requeueIfFailed, if_pos hlimit]

theorem QueuedTask.Writable.requeueWithAttempt (h : task.Writable) : (requeueWithAttempt task).Writable where
  attempts := by
    rw [attempts_requeueWithAttempt]
    have hnonneg := h.attempts
    omega
  createdAt := h.createdAt

theorem requeueIfFailed_of_lt {entry : Entry} (h : task.attempts < env.settings.maxRetries)
    (hjson : (requeueWithAttempt task).toJson env.texts = .ok entry) (up : Bool) (now delaySeconds : Seconds)
    (b : Broker) :
    requeueIfFailed env up now b task delaySeconds =
      if 0 < delaySeconds then
        if up then .ok (true, b.zadd entry (now + delaySeconds)) else .error .redis
      else .ok (if up then (true, b.lpush [entry]) else (false, b)) := by
  have hlimit : ¬ env.settings.maxRetries < (requeueWithAttempt task).attempts := by
    rw [attempts_requeueWithAttempt]
    omega
  rw [requeueIfFailed, if_neg hlimit, enqueueTask, scheduleForLater, hjson]
  cases up <;> rfl

theorem requeueIfFailed_of_up (h : task.attempts < env.settings.maxRetries) (hwritable : task.Writable) :
    ∃ b', requeueIfFailed env true now b task delaySeconds = .ok (true, b') := by
  rw [requeueIfFailed_of_lt h (toJson_eq_ok hwritable.requeueWithAttempt)]
  split <;> exact ⟨_, rfl⟩

theorem requeueIfFailed_of_down : requeueIfFailed env false now b task delaySeconds ≠ .ok (true, b') := by
  intro h
  unfold requeueIfFailed at h
  split at h
  · cases h
  · split at h
    · obtain ⟨b'', hstored, -⟩ := map_eq_ok.mp h
      obtain ⟨-, -, hup, -⟩ := scheduleForLater_eq_ok hstored
      cases hup
    · unfold enqueueTask at h
      split at h <;> cases h

/-! ## A queue to run -/

namespace Sample

def newYear : DateTime := ⟨1767225600000000, some 0⟩

/-- A text for every datetime: the usual one for `newYear`, and some text for each of the others. -/
def datetimeText (usual : String) (d : DateTime) : String :=
  if d = newYear then usual else String.ofList (List.replicate (Encodable.encode (d.micros, d.offset)) 'x')

def datetimeOfText (s : String) : Option DateTime :=
  if s = "2026-01-01T00:00:00+00:00" ∨ s = "2026-01-01T00:00:00Z" then some newYear
  else (Encodable.decode s.length).map fun d : Int × Option Int => ⟨d.1, d.2⟩

theorem datetimeOfText_datetimeText {usual : String}
    (h : usual = "2026-01-01T00:00:00+00:00" ∨ usual = "2026-01-01T00:00:00Z") (d : DateTime) :
    datetimeOfText (datetimeText usual d) = some d := by
  unfold datetimeText
  by_cases hd : d = newYear
  · rw [if_pos hd, datetimeOfText, if_pos h, hd]
  · rw [if_neg hd]
    set s := String.ofList (List.replicate (Encodable.encode (d.micros, d.offset)) 'x') with hs
    have hother : '2' ∉ s.toList := by
      intro hmem
      rw [hs, String.toList_ofList] at hmem
      exact absurd (List.eq_of_mem_replicate hmem) (by decide)
    have hnot : ¬ (s = "2026-01-01T00:00:00+00:00" ∨ s = "2026-01-01T00:00:00Z") := by
      rintro (he | he) <;> exact hother (he ▸ by decide)
    rw [datetimeOfText, if_neg hnot, hs, String.length_ofList, List.length_replicate, Encodable.encodek]
    rfl

/-- A contract reads the same texts, where the offset is in whole minutes. -/
def contractDatetime (s : String) : Option DateTime := (datetimeOfText s).filter fun d => d.WholeMinutes

theorem contractDatetime_datetimeText {usual : String}
    (h : usual = "2026-01-01T00:00:00+00:00" ∨ usual = "2026-01-01T00:00:00Z") (d : DateTime) :
    contractDatetime (datetimeText usual d) = if d.WholeMinutes then some d else none := by
  rw [contractDatetime, datetimeOfText_datetimeText h, Option.filter_some]
  simp only [decide_eq_true_eq]

def queueTexts : QueueTexts where
  isoformat := datetimeText "2026-01-01T00:00:00+00:00"
  fromisoformat := datetimeOfText
  fromtimestamp _ := none
  parse := contractDatetime
  dump := datetimeText "2026-01-01T00:00:00Z"
  repr _ := ""
  parse_isoformat := contractDatetime_datetimeText (.inl rfl)
  parse_dump d h := (contractDatetime_datetimeText (.inr rfl) d).trans (if_pos h)
  wholeMinutes_of_parse _ _ h := of_decide_eq_true (Option.filter_eq_some_iff.mp h).2

def queueEnv : QueueEnv := { settings := {}, texts := queueTexts, entryLe := fun _ _ => true }

def dispatchTask : QueuedTask where
  taskType := TaskType.taskExecutionDispatch
  payload := [("board_id", .str "00000000-0000-0000-0000-000000000002"),
    ("organization_id", .str "00000000-0000-0000-0000-000000000001"),
    ("run_id", .str "00000000-0000-0000-0000-000000000004"),
    ("task_id", .str "00000000-0000-0000-0000-000000000003")]
  createdAt := newYear

def entryOf (task : QueuedTask) : Entry := .json (.obj (Json.sortFields (task.fields queueTexts.dump)))

end Sample

end SiloForge
