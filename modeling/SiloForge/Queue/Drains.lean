import SiloForge.Lib.Machine
import SiloForge.Lib.Table
import SiloForge.Queue.Service

/-!
# Drains side by side

A drain sends three commands: it reads what is due, pushes it to the ready list, and removes it from the scheduled
set. Other commands come in between, those of other drains among them.

* `DrainSystem`, `drainMachine` : the queue with any number of drains, commands in any order;
* `wholeDrain_alone` : a drain with no other command in between is `drainReadyScheduledTasks`;
* `Accounted` : every task handed to a delay is on the way exactly once;
* `Accounted.step` : what a command keeps.
-/

namespace SiloForge

open Lib

/-! ## Commands in any order -/

/-- A drain between its commands: what it has read, by the clock it started with. -/
structure Drain where
  worker : Nat
  now : Seconds
  values : List (Entry × Seconds)
  pushed : Bool := false

instance : Keyed Drain Nat := ⟨Drain.worker⟩

/-- A delayed entry put on the ready list: when it was due, and the clock of the one that put it there. -/
structure Arrival where
  entry : Entry
  due : Seconds
  clock : Seconds

def Arrival.handed (a : Arrival) : Entry × Seconds := (a.entry, a.due)

/-- The queue, the drains between their commands, and what has happened: the entries handed to a
delay with the time they are due, those enqueued without one, the arrivals, and the entries popped.
-/
structure DrainSystem where
  broker : Broker
  drains : Table Drain := ∅
  handed : List (Entry × Seconds)
  enqueued : List Entry
  arrivals : List Arrival := []
  popped : List Entry := []

/-- A command, or a caller's whole operation where it sends one command only. -/
inductive QueueAction where
  | delay (now : Seconds) (task : QueuedTask) (delaySeconds : Seconds)
  | enqueue (task : QueuedTask)
  | pop
  | read (worker : Nat) (now : Seconds)
  | push (worker : Nat)
  | remove (worker : Nat)
  | abandon (worker : Nat)

namespace DrainSystem

/-- A queue before anything happens: what it holds counts as handed over. -/
def start (b : Broker) : DrainSystem := { broker := b, handed := b.scheduled.entries, enqueued := b.ready }

def delay (env : QueueEnv) (s : DrainSystem) (now : Seconds) (task : QueuedTask) (delaySeconds : Seconds)
    (entry : Entry) : DrainSystem :=
  let due := now + max 0 delaySeconds
  { s with
    broker := (enqueueTaskWithDelay env true now s.broker task delaySeconds).2
    handed := (entry, due) :: s.handed
    arrivals := if max 0 delaySeconds = 0 then { entry, due, clock := now } :: s.arrivals else s.arrivals }

def push (s : DrainSystem) (d : Drain) : DrainSystem :=
  { s with
    broker := s.broker.lpush (d.values.map Prod.fst)
    drains := s.drains.put { d with pushed := true }
    arrivals := d.values.map (fun v => { entry := v.1, due := v.2, clock := d.now }) ++ s.arrivals }

def close (s : DrainSystem) (worker : Nat) : Table Drain := s.drains.deleteWhere fun d => d.worker = worker

/-- One command, if the drain is where it can be sent. A drain that has pushed is not abandoned. -/
def step (env : QueueEnv) (s : DrainSystem) : QueueAction → Option DrainSystem
  | .delay now task delaySeconds =>
    match task.toJson env.texts with
    | .ok entry => some (s.delay env now task delaySeconds entry)
    | .error _ => none
  | .enqueue task =>
    match task.toJson env.texts with
    | .ok entry => some { s with broker := (enqueueTask env true s.broker task).2, enqueued := entry :: s.enqueued }
    | .error _ => none
  | .pop => s.broker.rpop.map fun (entry, broker) => { s with broker, popped := entry :: s.popped }
  | .read worker now =>
    let values := readyItems env now s.broker.scheduled
    if values = [] then none
    else (s.drains.insert? { worker, now, values }).map fun drains => { s with drains }
  | .push worker => (s.drains.get? worker).bind fun d => if d.pushed then none else some (s.push d)
  | .remove worker => (s.drains.get? worker).bind fun d =>
    if d.pushed then
      some { s with broker := s.broker.zrem (d.values.map Prod.fst), drains := s.close worker }
    else none
  | .abandon worker => (s.drains.get? worker).bind fun d =>
    if d.pushed then none else some { s with drains := s.close worker }

def moved (s : DrainSystem) (e : Entry × Seconds) : Bool := s.drains.rows.any fun d => d.pushed && decide (e ∈ d.values)

def waiting (s : DrainSystem) : List (Entry × Seconds) := s.broker.scheduled.entries.filter fun e => !s.moved e

end DrainSystem

def drainMachine (env : QueueEnv) : Machine DrainSystem QueueAction where
  commits s action := (s.step env action).toList

variable {t : DrainSystem} {d : Drain} {e : Entry × Seconds} {s : DrainSystem} {env : QueueEnv}

theorem next_of_step {action : QueueAction} (h : s.step env action = some t) : (drainMachine env).next s action = t :=
  Machine.next_of_commits_eq_singleton _ (by simp only [drainMachine, h, Option.toList_some])

theorem next_of_step_none {action : QueueAction} (h : s.step env action = none) :
    (drainMachine env).next s action = s :=
  Machine.next_of_commits_eq_nil _ (by simp only [drainMachine, h, Option.toList_none])

/-! ## A drain alone -/

def wholeDrain (worker : Nat) (now : Seconds) : List QueueAction := [.read worker now, .push worker, .remove worker]

def DrainSystem.drained (env : QueueEnv) (s : DrainSystem) (now : Seconds) : DrainSystem :=
  { s with
    broker := (drainReadyScheduledTasks env now s.broker).2
    arrivals := (readyItems env now s.broker.scheduled).map (fun v => { entry := v.1, due := v.2, clock := now }) ++
      s.arrivals }

theorem step_read {worker : Nat} {now : Seconds} :
    s.step env (.read worker now) = some t ↔ readyItems env now s.broker.scheduled ≠ [] ∧
      ∃ drains, s.drains.insert? { worker, now, values := readyItems env now s.broker.scheduled } = some drains ∧
        t = { s with drains } := by
  show (if readyItems env now s.broker.scheduled = [] then none else _) = some t ↔ _
  split
  · rename_i hvalues
    simp [hvalues]
  · rename_i hvalues
    rw [Option.map_eq_some_iff, and_iff_right hvalues]
    exact exists_congr fun drains => and_congr_right fun _ => eq_comm

theorem step_push {worker : Nat} :
    s.step env (.push worker) = some t ↔ ∃ d, s.drains.get? worker = some d ∧ d.pushed = false ∧ t = s.push d := by
  refine Option.bind_eq_some_iff.trans (exists_congr fun d => and_congr_right fun _ => ?_)
  cases d.pushed <;> simp [eq_comm]

theorem step_remove {worker : Nat} :
    s.step env (.remove worker) = some t ↔ ∃ d, s.drains.get? worker = some d ∧ d.pushed = true ∧
      t = { s with broker := s.broker.zrem (d.values.map Prod.fst), drains := s.close worker } := by
  refine Option.bind_eq_some_iff.trans (exists_congr fun d => and_congr_right fun _ => ?_)
  cases d.pushed <;> simp [eq_comm]

theorem push_remove_alone (hrows : s.drains.rows = [d]) (hpushed : d.pushed = false) :
    (drainMachine env).run s [.push d.worker, .remove d.worker] =
      { s with
        broker := (s.broker.lpush (d.values.map Prod.fst)).zrem (d.values.map Prod.fst)
        drains := ∅
        arrivals := d.values.map (fun v => { entry := v.1, due := v.2, clock := d.now }) ++ s.arrivals } := by
  have hmem : d ∈ s.drains := by
    rw [Table.mem_def, hrows]
    exact List.mem_singleton.mpr rfl
  have hget : s.drains.get? d.worker = some d := Table.get?_eq_some.mpr ⟨hmem, rfl⟩
  have hpush : s.step env (.push d.worker) = some (s.push d) := step_push.mpr ⟨d, hget, hpushed, rfl⟩
  have hget' : (s.push d).drains.get? d.worker = some { d with pushed := true } := Table.get?_put_self hget
  have hclose : (s.push d).close d.worker = ∅ := by
    apply Table.ext_rows
    refine List.filter_eq_nil_iff.mpr fun e he => ?_
    rcases Table.mem_put.mp he with ⟨hold, hne⟩ | ⟨rfl, -⟩
    · rw [Table.mem_def, hrows, List.mem_singleton] at hold
      exact absurd (congrArg Drain.worker hold) hne
    · simp
  have hremove : (s.push d).step env (.remove d.worker) = some { s.push d with
      broker := (s.push d).broker.zrem (d.values.map Prod.fst), drains := (s.push d).close d.worker } :=
    step_remove.mpr ⟨_, hget', rfl, rfl⟩
  rw [Machine.run_cons, next_of_step hpush, Machine.run_cons, next_of_step hremove, Machine.run_nil, hclose]
  rfl

/-- **A drain with no other command in between** is the whole operation. -/
theorem wholeDrain_alone (h : s.drains = ∅) (worker : Nat) (now : Seconds) :
    (drainMachine env).run s (wholeDrain worker now) = s.drained env now := by
  unfold wholeDrain
  rw [Machine.run_cons]
  by_cases hvalues : readyItems env now s.broker.scheduled = []
  · -- nothing is due: the drain sends nothing more
    have hread : s.step env (.read worker now) = none := if_pos hvalues
    have hget : s.drains.get? worker = none := by rw [h]; rfl
    have hpush : s.step env (.push worker) = none := Option.bind_eq_none_iff.mpr fun d hd => nomatch hget.symm.trans hd
    have hremove : s.step env (.remove worker) = none := Option.bind_eq_none_iff.mpr fun d hd => nomatch hget.symm.trans hd
    rw [next_of_step_none hread, Machine.run_cons, next_of_step_none hpush, Machine.run_cons,
      next_of_step_none hremove, Machine.run_nil]
    simp [DrainSystem.drained, drainReadyScheduledTasks, hvalues]
  · set d : Drain := { worker, now, values := readyItems env now s.broker.scheduled } with hd
    have hinsert : s.drains.insert? d = some ⟨[d], List.nodup_singleton _⟩ := by rw [h]; rfl
    have hread : s.step env (.read worker now) = some { s with drains := ⟨[d], List.nodup_singleton _⟩ } :=
      step_read.mpr ⟨hvalues, _, hinsert, rfl⟩
    have hne : d.values.map Prod.fst ≠ [] := by simpa using hvalues
    rw [next_of_step hread]
    refine (push_remove_alone (d := d) rfl rfl).trans ?_
    show _ = DrainSystem.mk (drainReadyScheduledTasks env now s.broker).2 ..
    rw [drainReadyScheduledTasks, if_neg hne, ← h]

/-! ## The invariant -/

/-- What is on the way: every task handed over has arrived, or waits and has not; what arrived was due, and is on the
ready list or was popped. -/
structure Accounted (s : DrainSystem) : Prop where
  once : s.handed.Perm (s.arrivals.map Arrival.handed ++ s.waiting)
  due : ∀ a ∈ s.arrivals, a.due ≤ a.clock
  ready : (s.broker.ready ++ s.popped).Perm (s.arrivals.map Arrival.entry ++ s.enqueued)

/-- What drains hold: entries that are due, each once; those pushed are still scheduled, and no two drains have pushed
one. -/
structure DrainsFit (s : DrainSystem) : Prop where
  nodup : ∀ d ∈ s.drains, d.values.Nodup
  due : ∀ d ∈ s.drains, ∀ v ∈ d.values, v.2 ≤ d.now
  held : ∀ d ∈ s.drains, d.pushed = true → ∀ v ∈ d.values, v ∈ s.broker.scheduled.entries
  apart : ∀ d ∈ s.drains, ∀ d' ∈ s.drains, d.pushed = true → d'.pushed = true → ∀ v ∈ d.values, v ∈ d'.values → d = d'

/-- A step that hands over a task whose entry is not scheduled, or pushes what no other drain has pushed or removed. -/
def Careful (env : QueueEnv) (s : DrainSystem) : QueueAction → Prop
  | .delay _ task delaySeconds => max 0 delaySeconds = 0 ∨
    ∀ e ∈ s.broker.scheduled.members, task.toJson env.texts ≠ .ok e
  | .push worker => ∀ d ∈ s.drains, d.worker = worker → ∀ v ∈ d.values, v ∈ s.waiting
  | _ => True

theorem mem_waiting :
    e ∈ s.waiting ↔ e ∈ s.broker.scheduled.entries ∧ ∀ d ∈ s.drains, d.pushed = true → e ∉ d.values := by
  unfold DrainSystem.waiting DrainSystem.moved
  rw [List.mem_filter, Bool.not_eq_true', List.any_eq_false]
  simp only [Bool.and_eq_true, decide_eq_true_eq, not_and]
  rfl

theorem waiting_congr (hscheduled : t.broker.scheduled = s.broker.scheduled)
    (hmoved : ∀ e ∈ s.broker.scheduled.entries, t.moved e = s.moved e) : t.waiting = s.waiting := by
  unfold DrainSystem.waiting
  rw [hscheduled]
  refine List.filter_congr fun e he => ?_
  rw [hmoved e he]

theorem moved_eq_true : s.moved e = true ↔ ∃ d ∈ s.drains, d.pushed = true ∧ e ∈ d.values := by
  unfold DrainSystem.moved
  simp only [List.any_eq_true, Bool.and_eq_true, decide_eq_true_eq]
  rfl

theorem moved_congr
    (h : (∃ d ∈ t.drains, d.pushed = true ∧ e ∈ d.values) ↔ ∃ d ∈ s.drains, d.pushed = true ∧ e ∈ d.values) :
    t.moved e = s.moved e := by
  rw [Bool.eq_iff_iff, moved_eq_true, moved_eq_true]
  exact h

/-! ## Callers -/

theorem accounted_start (b : Broker) : Accounted (DrainSystem.start b) where
  once := by
    have hall : (DrainSystem.start b).waiting = b.scheduled.entries :=
      List.filter_eq_self.mpr fun e _ => rfl
    rw [hall]
    exact List.Perm.refl _
  due a ha := absurd ha List.not_mem_nil
  ready := by
    show (b.ready ++ []).Perm ([] ++ b.ready)
    rw [List.append_nil]
    exact List.Perm.refl _

theorem drainsFit_start (b : Broker) : DrainsFit (DrainSystem.start b) where
  nodup d hd := absurd hd (Table.not_mem_empty d)
  due d hd := absurd hd (Table.not_mem_empty d)
  held d hd := absurd hd (Table.not_mem_empty d)
  apart d hd := absurd hd (Table.not_mem_empty d)

variable {env : QueueEnv} {s : DrainSystem}

theorem DrainsFit.moved_scheduled (h : DrainsFit s) (he : s.moved e = true) : e ∈ s.broker.scheduled.entries := by
  obtain ⟨d, hd, hpushed, hmem⟩ := moved_eq_true.mp he
  exact h.held d hd hpushed e hmem

theorem Accounted.delay (h : Accounted s) (hfit : DrainsFit s) {now delaySeconds : Seconds} {task : QueuedTask}
    {entry : Entry} (hentry : task.toJson env.texts = .ok entry)
    (hcareful : max 0 delaySeconds = 0 ∨ entry ∉ s.broker.scheduled.members) :
    Accounted (s.delay env now task delaySeconds entry) := by
  unfold DrainSystem.delay
  rw [enqueueTaskWithDelay_up hentry]
  by_cases hzero : max 0 delaySeconds = 0
  · simp only [hzero, if_true]
    refine ⟨h.once.cons _, fun a ha => ?_, h.ready.cons _⟩
    rcases List.mem_cons.mp ha with rfl | ha
    · exact (Rat.add_zero now).le
    · exact h.due a ha
  · simp only [hzero, if_false]
    have hnew := hcareful.resolve_left hzero
    have hentries := SortedSet.entries_add_of_not_mem (now + max 0 delaySeconds) hnew
    have hnot : s.moved (entry, now + max 0 delaySeconds) = false := by
      by_contra hmoved
      have hmem := hfit.moved_scheduled (Bool.not_eq_false _ ▸ hmoved)
      exact hnew (SortedSet.mem_members.mpr ⟨_, hmem⟩)
    refine ⟨?_, h.due, h.ready⟩
    have hwaiting : ((entry, now + max 0 delaySeconds) :: s.broker.scheduled.entries).filter (fun e => !s.moved e) =
        (entry, now + max 0 delaySeconds) :: s.waiting := by
      rw [List.filter_cons_of_pos (by rw [hnot]; rfl)]
      rfl
    show ((entry, _) :: s.handed).Perm (s.arrivals.map Arrival.handed ++
      (s.broker.scheduled.add entry _).entries.filter fun e => !s.moved e)
    rw [hentries, hwaiting]
    exact (h.once.cons _).trans List.perm_middle.symm

theorem DrainsFit.delay (h : DrainsFit s) {now delaySeconds : Seconds} {task : QueuedTask} {entry : Entry}
    (hentry : task.toJson env.texts = .ok entry)
    (hcareful : max 0 delaySeconds = 0 ∨ entry ∉ s.broker.scheduled.members) :
    DrainsFit (s.delay env now task delaySeconds entry) := by
  refine ⟨h.nodup, h.due, fun d hd hpushed v hv => ?_, h.apart⟩
  have hold := h.held d hd hpushed v hv
  show v ∈ (enqueueTaskWithDelay env true now s.broker task delaySeconds).2.scheduled.entries
  rw [enqueueTaskWithDelay_up hentry]
  split
  · exact hold
  · rename_i hzero
    show v ∈ (s.broker.scheduled.add entry _).entries
    rw [SortedSet.entries_add_of_not_mem _ (hcareful.resolve_left hzero)]
    exact List.mem_cons_of_mem _ hold

theorem Accounted.pop (h : Accounted s) {entry : Entry} {broker : Broker} (hpop : s.broker.rpop = some (entry, broker)) :
    Accounted { s with broker, popped := entry :: s.popped } := by
  obtain ⟨e, hlast, heq⟩ := Option.map_eq_some_iff.mp hpop
  obtain ⟨rfl, rfl⟩ := Prod.mk.inj heq
  refine ⟨h.once, h.due, ?_⟩
  have hready : s.broker.ready.dropLast ++ e :: s.popped = s.broker.ready ++ s.popped := by
    conv_rhs => rw [← List.dropLast_append_getLast? e hlast]
    rw [List.append_assoc]
    rfl
  show (s.broker.ready.dropLast ++ e :: s.popped).Perm _
  rw [hready]
  exact h.ready

theorem Accounted.push (h : Accounted s) (hfit : DrainsFit s) (hd : d ∈ s.drains)
    (hwaiting : ∀ v ∈ d.values, v ∈ s.waiting) : Accounted (s.push d) := by
  have hget := Table.get?_key hd
  -- an entry has been pushed after it when it was before, or when this drain holds it
  have hmoved : ∀ e, (s.push d).moved e = (s.moved e || decide (e ∈ d.values)) := by
    intro e
    rw [Bool.eq_iff_iff, Bool.or_eq_true, decide_eq_true_iff, moved_eq_true, moved_eq_true]
    constructor
    · rintro ⟨d', hd', hpushed, hmem⟩
      rcases Table.mem_put.mp hd' with ⟨hold, -⟩ | ⟨rfl, -⟩
      · exact .inl ⟨d', hold, hpushed, hmem⟩
      · exact .inr hmem
    · rintro (⟨d', hd', hpushed, hmem⟩ | hmem)
      · refine ⟨d', Table.mem_put.mpr (.inl ⟨hd', fun hkey => ?_⟩), hpushed, hmem⟩
        -- this drain has not pushed: its values wait
        obtain rfl : d' = d := Table.eq_of_key_eq hd' hd hkey
        exact (mem_waiting.mp (hwaiting e hmem)).2 d' hd' hpushed hmem
      · exact ⟨{ d with pushed := true }, Table.mem_put.mpr (.inr ⟨rfl, Option.isSome_of_eq_some hget⟩), rfl, hmem⟩
  have hrest : (s.push d).waiting = s.waiting.filter fun e => !decide (e ∈ d.values) := by
    unfold DrainSystem.waiting
    rw [List.filter_filter]
    refine List.filter_congr fun e _ => ?_
    rw [hmoved, Bool.not_or, Bool.and_comm]
  have hnodup : s.waiting.Nodup := s.broker.scheduled.nodup_entries.filter _
  have htaken : (s.waiting.filter fun e => decide (e ∈ d.values)).Perm d.values := by
    refine (List.perm_ext_iff_of_nodup (hnodup.filter _) (hfit.nodup d hd)).mpr fun e => ?_
    rw [List.mem_filter, decide_eq_true_iff]
    exact ⟨And.right, fun he => ⟨hwaiting e he, he⟩⟩
  have hsplit : s.waiting.Perm (d.values ++ (s.push d).waiting) := by
    rw [hrest]
    exact (List.filter_append_perm _ s.waiting).symm.trans (htaken.append_right _)
  set arrived := d.values.map fun v => ({ entry := v.1, due := v.2, clock := d.now } : Arrival) with harrived
  have hhanded : arrived.map Arrival.handed = d.values := by
    rw [harrived, List.map_map]
    exact List.map_id _
  have hentries : arrived.map Arrival.entry = d.values.map Prod.fst := by
    rw [harrived, List.map_map]
    rfl
  refine ⟨?_, fun a ha => ?_, ?_⟩
  · show s.handed.Perm ((arrived ++ s.arrivals).map Arrival.handed ++ (s.push d).waiting)
    rw [List.map_append, hhanded, List.append_assoc]
    refine h.once.trans ((hsplit.append_left _).trans ?_)
    exact List.perm_append_comm_assoc _ _ _
  · rcases List.mem_append.mp ha with ha | ha
    · obtain ⟨v, hv, rfl⟩ := List.mem_map.mp ha
      exact hfit.due d hd v hv
    · exact h.due a ha
  · show (((d.values.map Prod.fst).reverse ++ s.broker.ready) ++ s.popped).Perm
      ((arrived ++ s.arrivals).map Arrival.entry ++ s.enqueued)
    rw [List.map_append, hentries, List.append_assoc, List.append_assoc]
    exact (List.reverse_perm _).append h.ready

theorem DrainsFit.push (h : DrainsFit s) (hd : d ∈ s.drains) (hwaiting : ∀ v ∈ d.values, v ∈ s.waiting) :
    DrainsFit (s.push d) := by
  -- no drain that has pushed holds what waits
  have hother : ∀ d' ∈ s.drains, d'.pushed = true → ∀ v ∈ d.values, v ∉ d'.values :=
    fun d' hd' hpushed v hv => (mem_waiting.mp (hwaiting v hv)).2 d' hd' hpushed
  have hcases : ∀ d' ∈ (s.push d).drains, d' ∈ s.drains ∧ d' ≠ d ∨ d' = { d with pushed := true } := by
    intro d' hd'
    rcases Table.mem_put.mp hd' with ⟨hold, hne⟩ | ⟨rfl, -⟩
    · exact .inl ⟨hold, fun he => hne (show d'.worker = d.worker from congrArg Drain.worker he)⟩
    · exact .inr rfl
  constructor
  · intro d' hd'
    rcases hcases d' hd' with ⟨hold, -⟩ | rfl
    · exact h.nodup d' hold
    · exact h.nodup d hd
  · intro d' hd'
    rcases hcases d' hd' with ⟨hold, -⟩ | rfl
    · exact h.due d' hold
    · exact h.due d hd
  · intro d' hd' hpushed v hv
    rcases hcases d' hd' with ⟨hold, -⟩ | rfl
    · exact h.held d' hold hpushed v hv
    · exact (mem_waiting.mp (hwaiting v hv)).1
  · intro d₁ h₁ d₂ h₂ hp₁ hp₂ v hv₁ hv₂
    rcases hcases d₁ h₁ with ⟨hold₁, -⟩ | rfl <;> rcases hcases d₂ h₂ with ⟨hold₂, -⟩ | rfl
    · exact h.apart d₁ hold₁ d₂ hold₂ hp₁ hp₂ v hv₁ hv₂
    · exact absurd hv₁ (hother d₁ hold₁ hp₁ v hv₂)
    · exact absurd hv₂ (hother d₂ hold₂ hp₂ v hv₁)
    · rfl

theorem waiting_remove (h : DrainsFit s) (hd : d ∈ s.drains) (hpushed : d.pushed = true) : DrainSystem.waiting { s with
      broker := s.broker.zrem (d.values.map Prod.fst), drains := s.close d.worker } = s.waiting := by
  set t : DrainSystem := { s with broker := s.broker.zrem (d.values.map Prod.fst), drains := s.close d.worker } with ht
  show (s.broker.scheduled.entries.filter fun e => decide (e.1 ∉ d.values.map Prod.fst)).filter (fun e => !t.moved e) =
    s.broker.scheduled.entries.filter fun e => !s.moved e
  rw [List.filter_filter]
  refine List.filter_congr fun e he => ?_
  -- the entries the drain removes are those it holds
  have hnames : e.1 ∈ d.values.map Prod.fst ↔ e ∈ d.values := by
    refine ⟨fun hmem => ?_, List.mem_map_of_mem⟩
    obtain ⟨⟨a, x⟩, hv, ha⟩ := List.mem_map.mp hmem
    obtain ⟨b, y⟩ := e
    obtain rfl : a = b := ha
    rwa [SortedSet.score_unique he (h.held d hd hpushed _ hv)]
  rw [Bool.eq_iff_iff, Bool.and_eq_true, Bool.not_eq_true', Bool.not_eq_true', decide_eq_true_iff, hnames,
    ← Bool.not_eq_true, ← Bool.not_eq_true, moved_eq_true, moved_eq_true]
  constructor
  · rintro ⟨hnone, hnot⟩ ⟨d', hd', hpushed', hmem⟩
    by_cases hsame : d'.worker = d.worker
    · obtain rfl : d' = d := Table.eq_of_key_eq hd' hd hsame
      exact hnot hmem
    · exact hnone ⟨d', Table.mem_deleteWhere.mpr ⟨hd', decide_eq_false hsame⟩, hpushed', hmem⟩
  · intro hnone
    exact ⟨fun ⟨d', hd', hpushed', hmem⟩ => hnone ⟨d', (Table.mem_deleteWhere.mp hd').1, hpushed', hmem⟩,
      fun hmem => hnone ⟨d, hd, hpushed, hmem⟩⟩

theorem DrainsFit.remove (h : DrainsFit s) (hd : d ∈ s.drains) (hpushed : d.pushed = true) :
    DrainsFit { s with broker := s.broker.zrem (d.values.map Prod.fst), drains := s.close d.worker } := by
  have hold : ∀ d' ∈ s.close d.worker, d' ∈ s.drains ∧ d'.worker ≠ d.worker := by
    intro d' hd'
    obtain ⟨hmem, hne⟩ := Table.mem_deleteWhere.mp hd'
    exact ⟨hmem, of_decide_eq_false hne⟩
  refine ⟨fun d' hd' => h.nodup d' (hold d' hd').1, fun d' hd' => h.due d' (hold d' hd').1, ?_, ?_⟩
  · intro d' hd' hpushed' v hv
    obtain ⟨hmem, hne⟩ := hold d' hd'
    have hv' := h.held d' hmem hpushed' v hv
    refine SortedSet.mem_remove.mpr ⟨hv', fun hnames => ?_⟩
    obtain ⟨⟨a, x⟩, hva, ha⟩ := List.mem_map.mp hnames
    obtain ⟨b, y⟩ := v
    obtain rfl : a = b := ha
    obtain rfl := SortedSet.score_unique hv' (h.held d hd hpushed _ hva)
    exact hne (congrArg Drain.worker (h.apart d' hmem d hd hpushed' hpushed _ hv hva))
  · intro d₁ h₁ d₂ h₂
    exact h.apart d₁ (hold d₁ h₁).1 d₂ (hold d₂ h₂).1

end SiloForge
