import SiloForge.Activity.Log
import SiloForge.Lib.Machine

/-!
# The stream of a board's task events

An event gets its time when it is built, and is there for others when its transaction commits. The stream polls for the
events of the board's tasks that are not older than the latest it has emitted, and keeps the ids of the last 2000.

* `fetchTaskEvents`, `taskStreamStep` : the transactions beside the polls of one stream, in any order;
* `EmitsOnce` : what was committed when the latest poll began was emitted, each event once;
* `PollsInTime` : nothing older than what a poll has read is committed after it, and events of one time fit into the ids
  that are kept;
* `emitsOnce_committed` : a run of such polls emits each event once.
-/

namespace SiloForge

open Lib

/-! ## One poll -/

def taskEventTypes : List String :=
  ["task.created", "task.updated", "task.status_changed", "task.comment", "task.assignee_notified",
   "task.assignee_notify_failed", "task.rework_notified", "task.rework_notify_failed", "task.lead_notified",
   "task.lead_notify_failed", "task.lead_unassigned_notified", "task.lead_unassigned_notify_failed",
   "task.execution_run.created", "task.execution_run.dispatched", "task.execution_run.retried",
   "task.execution_run.updated", "task.execution_run.report", "task.execution_run.acknowledged",
   "task.execution_run.escalated"]

/-- `select(Task.id).where(col(Task.board_id) == board_id)`. -/
def ActivityDb.boardTaskIds (db : ActivityDb) (boardId : Uuid) : List Uuid :=
  (db.tasks.rows.filter fun t => t.boardId = some boardId).map (·.id)

/-- The clause of the second statement, its time apart. -/
def taskEvent (taskIds : List Uuid) (event : ActivityEventRow) : Bool :=
  event.taskId.any (· ∈ taskIds) && decide (event.eventType ∈ taskEventTypes)

/-- The order of the answer; the database may order rows of one time as it likes. -/
def eventsLe (rank : Uuid → Nat) (a b : ActivityEventRow) : Bool :=
  a.createdAt < b.createdAt ∨ (a.createdAt = b.createdAt ∧ rank a.id ≤ rank b.id)

variable {rank : Uuid → Nat}

theorem eventsLe_iff {a b : ActivityEventRow} : eventsLe rank a b = true ↔
    a.createdAt < b.createdAt ∨ (a.createdAt = b.createdAt ∧ rank a.id ≤ rank b.id) := decide_eq_true_iff

theorem eventsLe_trans (a b c : ActivityEventRow) (hab : eventsLe rank a b) (hbc : eventsLe rank b c) :
    eventsLe rank a c := by
  rw [eventsLe_iff] at *
  rcases hab with hab | ⟨hab, hrank⟩ <;> rcases hbc with hbc | ⟨hbc, hrank'⟩
  · exact .inl (hab.trans hbc)
  · exact .inl (hbc ▸ hab)
  · exact .inl (hab ▸ hbc)
  · exact .inr ⟨hab.trans hbc, hrank.trans hrank'⟩

theorem eventsLe_total (a b : ActivityEventRow) : eventsLe rank a b || eventsLe rank b a := by
  rw [Bool.or_eq_true, eventsLe_iff, eventsLe_iff]
  rcases lt_trichotomy a.createdAt b.createdAt with hlt | heq | hlt
  · exact .inl (.inl hlt)
  · exact (le_total (rank a.id) (rank b.id)).imp (fun hrank => .inr ⟨heq, hrank⟩) fun hrank => .inr ⟨heq.symm, hrank⟩
  · exact .inr (.inl hlt)

/-- `_fetch_task_events`, with the ids its first statement has read. -/
def fetchTaskEvents (rank : Uuid → Nat) (taskIds : List Uuid) (db : ActivityDb) (since : Time) :
    List ActivityEventRow :=
  if taskIds = [] then []
  else (db.events.rows.filter fun e => taskEvent taskIds e && since ≤ e.createdAt).mergeSort (eventsLe rank)

structure PollReads where
  began : ActivityDb := {}
  ended : ActivityDb := {}

/-- What a poll reads, whatever the times. -/
def PollReads.events (reads : PollReads) (boardId : Uuid) : List ActivityEventRow :=
  reads.ended.events.rows.filter (taskEvent (reads.began.boardTaskIds boardId))

theorem taskEvent_nil (event : ActivityEventRow) : taskEvent [] event = false := by
  cases h : event.taskId <;> simp [taskEvent, h]

theorem mem_fetchTaskEvents {reads : PollReads} {boardId : Uuid} {since : Time} {event : ActivityEventRow} :
    event ∈ fetchTaskEvents rank (reads.began.boardTaskIds boardId) reads.ended since ↔
      event ∈ reads.events boardId ∧ since ≤ event.createdAt := by
  unfold fetchTaskEvents PollReads.events
  split
  · rename_i hnone
    rw [hnone]
    simp [taskEvent_nil]
  · simp only [List.mem_mergeSort, List.mem_filter, Bool.and_eq_true, decide_eq_true_eq, and_assoc]

def PollReads.feed (reads : PollReads) (boardId : Uuid) (rank : Uuid → Nat) :
    Feed ActivityEventRow ActivityEventRow.createdAt where
  shows event := event ∈ reads.events boardId
  fetch := fetchTaskEvents rank (reads.began.boardTaskIds boardId) reads.ended
  mem_fetch _ _ := mem_fetchTaskEvents

/-! ## Transactions and polls -/

/-- The database, the rows of open transactions, and the stream with what its poll under way and its latest poll have
read. -/
structure TaskStreamState where
  db : ActivityDb := {}
  now : Time := 0
  openTasks : List (Nat × Task) := []
  openEvents : List (Nat × ActivityEventRow) := []
  asking : Option ActivityDb := none
  polled : PollReads := {}
  stream : Poller Uuid Time × List ActivityEventRow

/-- `_task_event_generator` when it starts. -/
def TaskStreamState.opened (db : ActivityDb) (now : Time) (openTasks : List (Nat × Task))
    (openEvents : List (Nat × ActivityEventRow)) (since : Time) : TaskStreamState :=
  { db, now, openTasks, openEvents, stream := (⟨since, []⟩, []) }

inductive TaskStreamAction where
  | wait (seconds : Nat)
  | addTask (tx : Nat) (task : Task)
  | recordActivity (tx : Nat) (event : ActivityEventRow)
  | commit (tx : Nat)
  | rollback (tx : Nat)
  | beginPoll
  | endPoll (rank : Uuid → Nat)

def rowsOf {ρ : Type} (tx : Nat) (rows : List (Nat × ρ)) : List ρ := (rows.filter fun r => r.1 = tx).map (·.2)

/-- A commit inserts the rows of the transaction, where their keys are free and the tasks of the events are there. -/
def commitRows (s : TaskStreamState) (tx : Nat) : Except Failure ActivityDb := do
  let tasks ← orFail (s.db.tasks.insertAll? (rowsOf tx s.openTasks)) .integrityError
  require (∀ event ∈ rowsOf tx s.openEvents, ∀ taskId ∈ event.taskId, (tasks.get? taskId).isSome) .integrityError
  let events ← orFail (s.db.events.insertAll? (rowsOf tx s.openEvents)) .integrityError
  return { s.db with tasks, events }

def TaskStreamState.close (s : TaskStreamState) (tx : Nat) : TaskStreamState :=
  { s with
    openTasks := s.openTasks.filter fun r => r.1 ≠ tx
    openEvents := s.openEvents.filter fun r => r.1 ≠ tx }

def taskStreamStep (boardId : Uuid) (s : TaskStreamState) : TaskStreamAction → TaskStreamState
  | .wait seconds => { s with now := s.now + seconds }
  | .addTask tx task => { s with openTasks := s.openTasks ++ [(tx, task)] }
  | .recordActivity tx event =>
    -- `created_at` is the time at which the object is built
    { s with openEvents := s.openEvents ++ [(tx, { event with createdAt := s.now })] }
  | .commit tx =>
    match commitRows s tx with
    | .ok db => { s.close tx with db }
    | .error _ => s.close tx
  | .rollback tx => s.close tx
  | .beginPoll => { s with asking := some s.db }
  | .endPoll rank =>
    match s.asking with
    | none => s
    | some began =>
      let reads : PollReads := ⟨began, s.db⟩
      { s with
        asking := none
        polled := reads
        stream := poll sseSeenMax ActivityEventRow.id s.stream (reads.feed boardId rank) }

def taskStreamMachine (boardId : Uuid) : Machine TaskStreamState TaskStreamAction where
  commits s a := [taskStreamStep boardId s a]

/-! ## Emitted once -/

/-- What was committed when the latest poll began was emitted once, and nothing twice. -/
structure EmitsOnce (boardId : Uuid) (start : Time) (s : TaskStreamState) : Prop where
  complete : ∀ event ∈ s.polled.began.events, taskEvent (s.polled.began.boardTaskIds boardId) event →
    start ≤ event.createdAt → s.stream.2.count event = 1
  once : ∀ event, s.stream.2.count event ≤ 1
  own : ∀ event ∈ s.stream.2,
    event ∈ s.db.events ∧ taskEvent (s.db.boardTaskIds boardId) event ∧ start ≤ event.createdAt

/-- What a poll reads for the first time is not older than what the poll before has read, and the events of the latest
time read fit into the ids that are kept. -/
def PollsInTime (boardId : Uuid) (start : Time) (s : TaskStreamState) : TaskStreamAction → Prop
  | .endPoll _ => ∀ began ∈ s.asking,
    (∀ event ∈ (PollReads.mk began s.db).events boardId, event ∉ s.polled.events boardId →
      start ≤ event.createdAt → ∀ old ∈ s.polled.events boardId, old.createdAt ≤ event.createdAt) ∧
    ∀ old ∈ s.polled.events boardId, start ≤ old.createdAt →
      (∀ other ∈ s.polled.events boardId, other.createdAt ≤ old.createdAt) →
        ((PollReads.mk began s.db).events boardId).countP (fun e => e.createdAt = old.createdAt) ≤ sseSeenMax
  | _ => True

instance (boardId : Uuid) (start : Time) (s : TaskStreamState) :
    ∀ a, Decidable (PollsInTime boardId start s a)
  | .endPoll _ => inferInstanceAs (Decidable (∀ began ∈ s.asking, (∀ event ∈ _, _) ∧ ∀ old ∈ _, _))
  | .wait _ | .addTask .. | .recordActivity .. | .commit _ | .rollback _ | .beginPoll => .isTrue trivial

/-- Tasks and events stay. -/
structure ActivityDb.Grows (db db' : ActivityDb) : Prop where
  tasks : ∀ task ∈ db.tasks, task ∈ db'.tasks
  events : ∀ event ∈ db.events, event ∈ db'.events

namespace ActivityDb.Grows
variable {db db' db'' : ActivityDb}

theorem refl (db : ActivityDb) : db.Grows db := ⟨fun _ h => h, fun _ h => h⟩

theorem trans (h : db.Grows db') (h' : db'.Grows db'') : db.Grows db'' :=
  ⟨fun t ht => h'.tasks t (h.tasks t ht), fun e he => h'.events e (h.events e he)⟩

theorem boardTaskIds (h : db.Grows db') (boardId : Uuid) : db.boardTaskIds boardId ⊆ db'.boardTaskIds boardId := by
  intro taskId htask
  obtain ⟨task, hmem, rfl⟩ := List.mem_map.mp htask
  obtain ⟨hmem, hboard⟩ := List.mem_filter.mp hmem
  exact List.mem_map_of_mem (List.mem_filter.mpr ⟨h.tasks task hmem, hboard⟩)

end ActivityDb.Grows

theorem taskEvent_mono {taskIds taskIds' : List Uuid} {event : ActivityEventRow} (h : taskIds ⊆ taskIds')
    (hevent : taskEvent taskIds event) : taskEvent taskIds' event := by
  unfold taskEvent at *
  rw [Bool.and_eq_true, Option.any_eq_true] at *
  obtain ⟨⟨taskId, htask, hmem⟩, htype⟩ := hevent
  exact ⟨⟨taskId, htask, decide_eq_true (h (of_decide_eq_true hmem))⟩, htype⟩

/-- The answers of the latest poll, a poll under way and the database, each after the other. -/
structure TaskStreamInv (boardId : Uuid) (start : Time) (s : TaskStreamState) : Prop where
  read : s.polled.began.Grows s.polled.ended
  since : s.polled.ended.Grows s.db
  asking : ∀ began ∈ s.asking, s.polled.ended.Grows began ∧ began.Grows s.db
  handed : HandedOn sseSeenMax ActivityEventRow.id start (s.polled.feed boardId fun _ => 0) s.stream

section Runs
variable {boardId : Uuid} {start : Time} {s : TaskStreamState}

theorem grows_of_commitRows {tx : Nat} {db : ActivityDb} (h : commitRows s tx = .ok db) : s.db.Grows db := by
  obtain ⟨tasks, htasks, h⟩ := bind_eq_ok.mp h
  obtain ⟨_, -, h⟩ := bind_eq_ok.mp h
  obtain ⟨events, hevents, h⟩ := bind_eq_ok.mp h
  obtain rfl := pure_eq_ok.mp h
  rw [orFail_eq_ok] at htasks hevents
  exact ⟨fun t ht => (Table.mem_insertAll? htasks t).mpr (.inl ht),
    fun e he => (Table.mem_insertAll? hevents e).mpr (.inl he)⟩

theorem events_mono {reads later : PollReads} (hbegan : reads.began.Grows later.began)
    (hended : reads.ended.Grows later.ended) : reads.events boardId ⊆ later.events boardId := by
  intro event hevent
  obtain ⟨hmem, htask⟩ := List.mem_filter.mp hevent
  exact List.mem_filter.mpr ⟨hended.events event hmem, taskEvent_mono (hbegan.boardTaskIds boardId) htask⟩

theorem feed_inOrder (reads : PollReads) (rank : Uuid → Nat) : (reads.feed boardId rank).InOrder := by
  constructor
  · intro since
    show (fetchTaskEvents rank (reads.began.boardTaskIds boardId) reads.ended since).Pairwise _
    unfold fetchTaskEvents
    split
    · exact List.Pairwise.nil
    · refine (List.pairwise_mergeSort eventsLe_trans eventsLe_total _).imp fun {a b} hle => ?_
      rcases eventsLe_iff.mp hle with hlt | ⟨heq, -⟩
      · exact hlt.le
      · exact heq.le
  · intro since
    show (fetchTaskEvents rank (reads.began.boardTaskIds boardId) reads.ended since).Nodup
    unfold fetchTaskEvents
    split
    · exact List.nodup_nil
    · have hrows : reads.ended.events.rows.Nodup := List.Nodup.of_map _ reads.ended.events.nodup
      exact (List.mergeSort_perm _ _).nodup_iff.mpr (hrows.filter _)

theorem countP_fetch {reads : PollReads} {rank : Uuid → Nat} {time : Time} (h : start ≤ time) :
    ((reads.feed boardId rank).fetch start).countP (fun e => e.createdAt = time) =
      (reads.events boardId).countP (fun e => e.createdAt = time) := by
  show (fetchTaskEvents rank (reads.began.boardTaskIds boardId) reads.ended start).countP _ = _
  unfold fetchTaskEvents PollReads.events
  split
  · rename_i hnone
    have hempty : reads.ended.events.rows.filter (taskEvent []) = [] :=
      List.filter_eq_nil_iff.mpr fun event _ => by simp [taskEvent_nil]
    rw [hnone, hempty, List.countP_nil]
  · rw [(List.mergeSort_perm _ _).countP_eq, List.countP_filter, List.countP_filter]
    refine List.countP_congr fun event _ => ?_
    simp only [Bool.and_eq_true, decide_eq_true_eq]
    constructor
    · exact fun hevent => ⟨hevent.1, hevent.2.1⟩
    · exact fun hevent => ⟨hevent.1, hevent.2, hevent.1 ▸ h⟩

/-- **One step** keeps the answers in order, and emits what is new. -/
theorem TaskStreamInv.step (h : TaskStreamInv boardId start s) {a : TaskStreamAction}
    (hintime : PollsInTime boardId start s a) : TaskStreamInv boardId start (taskStreamStep boardId s a) := by
  cases a with
  | wait seconds => exact ⟨h.read, h.since, h.asking, h.handed⟩
  | addTask tx task => exact ⟨h.read, h.since, h.asking, h.handed⟩
  | recordActivity tx event => exact ⟨h.read, h.since, h.asking, h.handed⟩
  | rollback tx => exact ⟨h.read, h.since, h.asking, h.handed⟩
  | commit tx =>
    unfold taskStreamStep
    dsimp only
    split
    · rename_i db hcommit
      have hgrows := grows_of_commitRows hcommit
      refine ⟨h.read, h.since.trans hgrows, fun began hbegan => ?_, h.handed⟩
      obtain ⟨hafter, hbefore⟩ := h.asking began hbegan
      exact ⟨hafter, hbefore.trans hgrows⟩
    · exact ⟨h.read, h.since, h.asking, h.handed⟩
  | beginPoll =>
    refine ⟨h.read, h.since, fun began hbegan => ?_, h.handed⟩
    obtain rfl := Option.some.inj hbegan
    exact ⟨h.since, .refl s.db⟩
  | endPoll rank =>
    unfold taskStreamStep
    dsimp only
    split
    · exact h
    · rename_i began hasking
      obtain ⟨hafter, hbefore⟩ := h.asking began hasking
      obtain ⟨hfollows, hroom⟩ := hintime began hasking
      refine ⟨hbefore, .refl s.db, fun _ hnone => absurd hnone (by simp), ?_⟩
      have hpolled : HandedOn sseSeenMax ActivityEventRow.id start
          ((PollReads.mk began s.db).feed boardId rank) (poll sseSeenMax ActivityEventRow.id s.stream
            ((PollReads.mk began s.db).feed boardId rank)) := by
        refine handedOn_poll h.handed ?_ ?_ (feed_inOrder _ rank) hfollows ?_
        · exact events_mono (h.read.trans hafter) h.since
        · intro a b ha hb hid
          exact Table.eq_of_key_eq (List.mem_filter.mp ha).1 (List.mem_filter.mp hb).1 hid
        · intro old hold hstart hlatest
          rw [countP_fetch hstart]
          exact hroom old hold hstart hlatest
      exact hpolled.congr fun _ => Iff.rfl

theorem TaskStreamInv.emitsOnce (h : TaskStreamInv boardId start s) : EmitsOnce boardId start s where
  complete := by
    intro event hevent htask hstart
    have hmem : event ∈ s.polled.events boardId := List.mem_filter.mpr ⟨h.read.events event hevent, htask⟩
    exact List.count_eq_one_of_mem h.handed.nodup ((h.handed.mem event).mpr ⟨hmem, hstart⟩)
  once event := List.nodup_iff_count_le_one.mp h.handed.nodup event
  own := by
    intro event hevent
    obtain ⟨hshown, hstart⟩ := (h.handed.mem event).mp hevent
    obtain ⟨hmem, htask⟩ := List.mem_filter.mp hshown
    exact ⟨h.since.events event hmem, taskEvent_mono ((h.read.trans h.since).boardTaskIds boardId) htask, hstart⟩

theorem taskStreamInv_opened (db : ActivityDb) (now : Time) (openTasks : List (Nat × Task))
    (openEvents : List (Nat × ActivityEventRow)) (since : Time) :
    TaskStreamInv boardId since (.opened db now openTasks openEvents since) where
  read := .refl _
  since := ⟨fun _ h => absurd h (Table.not_mem_empty _), fun _ h => absurd h (Table.not_mem_empty _)⟩
  asking _ h := absurd h (by simp [TaskStreamState.opened])
  handed := handedOn_nil fun _ h => absurd h List.not_mem_nil

/-- **A run** of polls in time emits each event once. -/
theorem emitsOnce_committed {db : ActivityDb} {now since : Time} {openTasks : List (Nat × Task)}
    {openEvents : List (Nat × ActivityEventRow)} {actions : List TaskStreamAction}
    (h : (taskStreamMachine boardId).Along (PollsInTime boardId since)
      (.opened db now openTasks openEvents since) actions) :
    ∀ s ∈ (taskStreamMachine boardId).committed (.opened db now openTasks openEvents since) actions,
      EmitsOnce boardId since s := by
  have hinv : ∀ s ∈ (taskStreamMachine boardId).committed (.opened db now openTasks openEvents since) actions,
      TaskStreamInv boardId since s := by
    refine Machine.committed_inv _ (fun s a hs hintime t ht => ?_) (taskStreamInv_opened ..) h
    obtain rfl := List.mem_singleton.mp ht
    exact hs.step hintime
  exact fun s hs => (hinv s hs).emitsOnce

end Runs

/-! ## A late commit -/

def oneTaskDb : ActivityDb :=
  { tasks := ⟨[{ id := 1, boardId := some 7, title := "Ship" }], List.nodup_singleton _⟩ }

def updatedEvent (id : Uuid) (createdAt : Time) : ActivityEventRow :=
  { id, eventType := "task.updated", taskId := some 1, createdAt }

/-- The first event is built before the second and committed after it, and a poll comes in between. -/
def lateCommit : List TaskStreamAction :=
  [.recordActivity 1 (updatedEvent 11 0), .wait 5, .recordActivity 2 (updatedEvent 12 0), .commit 2, .beginPoll,
   .endPoll fun _ => 0, .commit 1, .beginPoll, .endPoll fun _ => 0]

/-- **The event committed late** is not emitted. -/
theorem not_emitsOnce : ¬ ∀ (boardId : Uuid) (db : ActivityDb) (now since : Time) (openTasks : List (Nat × Task))
    (openEvents : List (Nat × ActivityEventRow)) (actions : List TaskStreamAction),
    ∀ s ∈ (taskStreamMachine boardId).committed (.opened db now openTasks openEvents since) actions,
      EmitsOnce boardId since s := by
  intro h
  have hlost : ∃ s ∈ (taskStreamMachine 7).committed (.opened oneTaskDb 10 [] [] 10) lateCommit,
      updatedEvent 11 10 ∈ s.polled.began.events.rows ∧
        taskEvent (s.polled.began.boardTaskIds 7) (updatedEvent 11 10) = true ∧
          s.stream.2.count (updatedEvent 11 10) = 0 := by
    decide +kernel
  obtain ⟨s, hs, hcommitted, htask, hcount⟩ := hlost
  have honce := (h 7 oneTaskDb 10 10 [] [] lateCommit s hs).complete _ hcommitted htask le_rfl
  rw [hcount] at honce
  exact absurd honce (by decide)

/-- Committed in the order in which they are built, both are emitted. -/
theorem emitsOnce_inOrder : ((taskStreamMachine 7).committed (.opened oneTaskDb 10 [] [] 10)
    [.recordActivity 1 (updatedEvent 11 0), .commit 1, .beginPoll, .endPoll fun _ => 0, .wait 5,
     .recordActivity 2 (updatedEvent 12 0), .commit 2, .beginPoll, .endPoll fun _ => 0]).Forall (EmitsOnce 7 10) :=
  List.forall_iff_forall_mem.mpr (emitsOnce_committed (by decide +kernel))

end SiloForge
