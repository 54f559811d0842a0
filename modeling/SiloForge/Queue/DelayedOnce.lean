import SiloForge.Queue.Drains

/-!
# Delayed tasks arrive once

* `Careful.step` : a careful command keeps what is on the way;
* `run_wholeDrains` : drains one after the other leave nothing due;
* `delayedOnce` : in every run of careful commands, each task handed to a delay arrives once after its due time.
-/

namespace SiloForge

open Lib

variable {env : QueueEnv} {s t : DrainSystem}

/-! ## Careful commands -/

theorem waiting_close {d : Drain} (hd : d ∈ s.drains) (hpushed : d.pushed = false) :
    DrainSystem.waiting { s with drains := s.close d.worker } = s.waiting := by
  refine waiting_congr rfl fun e _ => moved_congr ?_
  constructor
  · rintro ⟨d', hd', hpushed', hmem⟩
    exact ⟨d', (Table.mem_deleteWhere.mp hd').1, hpushed', hmem⟩
  · rintro ⟨d', hd', hpushed', hmem⟩
    refine ⟨d', Table.mem_deleteWhere.mpr ⟨hd', decide_eq_false fun hsame => ?_⟩, hpushed', hmem⟩
    obtain rfl : d' = d := Table.eq_of_key_eq hd' hd hsame
    rw [hpushed] at hpushed'
    cases hpushed'

theorem waiting_read {drains : Table Drain} {d : Drain} (hpushed : d.pushed = false)
    (hinsert : s.drains.insert? d = some drains) : DrainSystem.waiting { s with drains } = s.waiting := by
  refine waiting_congr rfl fun e _ => moved_congr ?_
  constructor
  · rintro ⟨d', hd', hpushed', hmem⟩
    rcases (Table.mem_insert? hinsert).mp hd' with hold | rfl
    · exact ⟨d', hold, hpushed', hmem⟩
    · rw [hpushed] at hpushed'
      cases hpushed'
  · rintro ⟨d', hd', hpushed', hmem⟩
    exact ⟨d', (Table.mem_insert? hinsert).mpr (.inl hd'), hpushed', hmem⟩

theorem DrainsFit.read (h : DrainsFit s) {worker : Nat} {now : Seconds} {drains : Table Drain}
    (hinsert : s.drains.insert? { worker, now, values := readyItems env now s.broker.scheduled } = some drains) :
    DrainsFit { s with drains } := by
  have hcases : ∀ d ∈ drains, d ∈ s.drains ∨
      d = { worker, now, values := readyItems env now s.broker.scheduled } := fun d hd => (Table.mem_insert? hinsert).mp hd
  have hpushed : ∀ d ∈ drains, d.pushed = true → d ∈ s.drains := by
    intro d hd hp
    rcases hcases d hd with hold | rfl
    · exact hold
    · cases hp
  refine ⟨fun d hd => ?_, fun d hd v hv => ?_, fun d hd hp => h.held d (hpushed d hd hp) hp,
    fun d₁ h₁ d₂ h₂ hp₁ hp₂ => h.apart d₁ (hpushed d₁ h₁ hp₁) d₂ (hpushed d₂ h₂ hp₂) hp₁ hp₂⟩
  · rcases hcases d hd with hold | rfl
    · exact h.nodup d hold
    · exact nodup_readyItems env now s.broker.scheduled
  · rcases hcases d hd with hold | rfl
    · exact h.due d hold v hv
    · exact (mem_readyItems hv).2

theorem DrainsFit.close (h : DrainsFit s) (worker : Nat) : DrainsFit { s with drains := s.close worker } := by
  have hold : ∀ d ∈ s.close worker, d ∈ s.drains := fun d hd => (Table.mem_deleteWhere.mp hd).1
  exact ⟨fun d hd => h.nodup d (hold d hd), fun d hd => h.due d (hold d hd), fun d hd => h.held d (hold d hd),
    fun d₁ h₁ d₂ h₂ => h.apart d₁ (hold d₁ h₁) d₂ (hold d₂ h₂)⟩

/-- **A careful command** keeps the account and the drains. -/
theorem Careful.step {action : QueueAction} (h : Careful env s action) (haccount : Accounted s) (hfit : DrainsFit s)
    (hstep : s.step env action = some t) : Accounted t ∧ DrainsFit t := by
  cases action with
  | delay now task delaySeconds =>
    simp only [DrainSystem.step] at hstep
    split at hstep
    · rename_i entry hentry
      obtain rfl := Option.some.inj hstep
      have hnew : max 0 delaySeconds = 0 ∨ entry ∉ s.broker.scheduled.members :=
        h.imp_right fun hnone hmem => hnone entry hmem hentry
      exact ⟨haccount.delay hfit hentry hnew, hfit.delay hentry hnew⟩
    · cases hstep
  | enqueue task =>
    simp only [DrainSystem.step] at hstep
    split at hstep
    · rename_i entry hentry
      obtain rfl := Option.some.inj hstep
      rw [enqueueTask_up hentry]
      refine ⟨⟨haccount.once, haccount.due, ?_⟩, hfit.nodup, hfit.due, hfit.held, hfit.apart⟩
      exact (haccount.ready.cons entry).trans List.perm_middle.symm
    · cases hstep
  | pop =>
    obtain ⟨⟨entry, broker⟩, hpop, rfl⟩ := Option.map_eq_some_iff.mp hstep
    obtain ⟨e, -, heq⟩ := Option.map_eq_some_iff.mp hpop
    obtain ⟨-, rfl⟩ := Prod.mk.inj heq
    exact ⟨haccount.pop hpop, hfit.nodup, hfit.due, hfit.held, hfit.apart⟩
  | read worker now =>
    obtain ⟨-, drains, hinsert, rfl⟩ := step_read.mp hstep
    refine ⟨⟨?_, haccount.due, haccount.ready⟩, hfit.read hinsert⟩
    rw [waiting_read rfl hinsert]
    exact haccount.once
  | push worker =>
    obtain ⟨d, hget, -, rfl⟩ := step_push.mp hstep
    have hd := Table.mem_of_get? hget
    have hwaiting := h d hd (Table.key_of_get? hget)
    exact ⟨haccount.push hfit hd hwaiting, hfit.push hd hwaiting⟩
  | remove worker =>
    obtain ⟨d, hget, hpushed, rfl⟩ := step_remove.mp hstep
    have hd := Table.mem_of_get? hget
    obtain rfl : d.worker = worker := Table.key_of_get? hget
    refine ⟨⟨?_, haccount.due, haccount.ready⟩, hfit.remove hd hpushed⟩
    rw [waiting_remove hfit hd hpushed]
    exact haccount.once
  | abandon worker =>
    obtain ⟨d, hget, hclosed⟩ := Option.bind_eq_some_iff.mp hstep
    have hd := Table.mem_of_get? hget
    obtain rfl : d.worker = worker := Table.key_of_get? hget
    split at hclosed
    · cases hclosed
    · rename_i hpushed
      obtain rfl := Option.some.inj hclosed
      refine ⟨⟨?_, haccount.due, haccount.ready⟩, hfit.close d.worker⟩
      rw [waiting_close hd (Bool.not_eq_true _ ▸ hpushed)]
      exact haccount.once

/-! ## Drains one after the other -/

def DrainSystem.dueCount (s : DrainSystem) (now : Seconds) : Nat :=
  (s.broker.scheduled.entries.filter fun e => decide (e.2 ≤ now)).length

def wholeDrains (worker : Nat) (now : Seconds) : Nat → List QueueAction
  | 0 => []
  | n + 1 => wholeDrain worker now ++ wholeDrains worker now n

theorem dueCount_drained (env : QueueEnv) (s : DrainSystem) (now : Seconds) :
    (s.drained env now).dueCount now = s.dueCount now - dryRunBatchSize := by
  have hremove := SortedSet.length_filter_remove_range env.scoreLe s.broker.scheduled
    (fun score => decide (score ≤ now)) dryRunBatchSize
  unfold DrainSystem.dueCount DrainSystem.drained drainReadyScheduledTasks
  by_cases hvalues : (readyItems env now s.broker.scheduled).map Prod.fst = []
  · simp only [if_pos hvalues]
    -- nothing is due
    have hlength := SortedSet.length_range env.scoreLe s.broker.scheduled
      (fun score => decide (score ≤ now)) dryRunBatchSize
    have hnil : s.broker.scheduled.range env.scoreLe (fun score => decide (score ≤ now)) dryRunBatchSize = [] :=
      List.map_eq_nil_iff.mp hvalues
    rw [hnil, List.length_nil, dryRunBatchSize] at hlength
    rw [dryRunBatchSize]
    omega
  · simp only [if_neg hvalues]
    exact hremove

theorem careful_wholeDrain (hnone : s.drains = ∅) (worker : Nat) (now : Seconds) :
    (drainMachine env).Along (Careful env) s (wholeDrain worker now) := by
  refine ⟨trivial, ?_, trivial, trivial⟩
  intro d hd hworker v hv
  cases hread : s.step env (.read worker now) with
  | none =>
    rw [next_of_step_none hread, hnone] at hd
    exact absurd hd (Table.not_mem_empty d)
  | some t =>
    rw [next_of_step hread] at hd ⊢
    obtain ⟨-, drains, hinsert, rfl⟩ := step_read.mp hread
    have honly : ∀ d' ∈ drains, d' = { worker, now, values := readyItems env now s.broker.scheduled } := by
      intro d' hd'
      refine ((Table.mem_insert? hinsert).mp hd').resolve_left fun hold => ?_
      rw [hnone] at hold
      exact Table.not_mem_empty d' hold
    obtain rfl := honly d hd
    refine mem_waiting.mpr ⟨(mem_readyItems hv).1, fun d' hd' hpushed => ?_⟩
    rw [honly d' hd'] at hpushed
    cases hpushed

theorem run_careful {actions : List QueueAction} (h : (drainMachine env).Along (Careful env) s actions)
    (hs : Accounted s ∧ DrainsFit s) :
    Accounted ((drainMachine env).run s actions) ∧ DrainsFit ((drainMachine env).run s actions) := by
  refine Machine.run_inv (fun s => Accounted s ∧ DrainsFit s) (fun s action hs hcareful => ?_) hs h
  exact Machine.next_of_each _ (Q := fun s => Accounted s ∧ DrainsFit s) hs
    fun t ht => hcareful.step hs.1 hs.2 (Option.mem_toList.mp ht)

/-- **Drains one after the other** leave nothing due, and lose nothing. -/
theorem run_wholeDrains (n : Nat) (hnone : s.drains = ∅) (hs : Accounted s ∧ DrainsFit s) (worker : Nat)
    {now : Seconds} (hdue : s.dueCount now ≤ n * dryRunBatchSize) :
    let t := (drainMachine env).run s (wholeDrains worker now n)
    Accounted t ∧ t.handed = s.handed ∧ t.dueCount now = 0 := by
  induction n generalizing s with
  | zero =>
    rw [Nat.zero_mul, Nat.le_zero] at hdue
    exact ⟨hs.1, rfl, hdue⟩
  | succ n ih =>
    have hcareful : (drainMachine env).Along (Careful env) s (wholeDrain worker now) :=
      careful_wholeDrain hnone worker now
    have hone := run_careful hcareful hs
    rw [wholeDrain_alone hnone] at hone
    have hcount := dueCount_drained env s now
    have hleft : (s.drained env now).dueCount now ≤ n * dryRunBatchSize := by
      rw [Nat.succ_mul] at hdue
      omega
    have hnone' : (s.drained env now).drains = ∅ := hnone
    have hrun : (drainMachine env).run s (wholeDrains worker now (n + 1)) =
        (drainMachine env).run (s.drained env now) (wholeDrains worker now n) := by
      rw [wholeDrains, Machine.run_append, wholeDrain_alone hnone]
    simp only [hrun]
    exact ih hnone' hone hleft

/-! ## Once, after its due time -/

/-- Every task handed to a delay has arrived once, or waits and has not; what arrived was due, and
is ready or was popped; and with no drain under way, as many drains as there are batches due let
every task due arrive. -/
structure DelayedOnce (env : QueueEnv) (s : DrainSystem) : Prop extends Accounted s where
  settles : s.drains = ∅ → ∀ worker now n, s.dueCount now ≤ n * dryRunBatchSize → ∀ v : Entry × Seconds, v.2 ≤ now →
    (((drainMachine env).run s (wholeDrains worker now n)).arrivals.map Arrival.handed).count v = s.handed.count v

theorem delayedOnce_of_accounted (hs : Accounted s ∧ DrainsFit s) : DelayedOnce env s where
  toAccounted := hs.1
  settles hnone worker now n hdue v hv := by
    set t := (drainMachine env).run s (wholeDrains worker now n) with ht
    obtain ⟨haccount, hhanded, hcount⟩ : Accounted t ∧ t.handed = s.handed ∧ t.dueCount now = 0 :=
      run_wholeDrains n hnone hs worker hdue
    have hnot : v ∉ t.waiting := by
      intro hmem
      have hscheduled := (mem_waiting.mp hmem).1
      rw [DrainSystem.dueCount, List.length_eq_zero_iff, List.filter_eq_nil_iff] at hcount
      exact hcount v hscheduled (decide_eq_true hv)
    have honce := haccount.once.count_eq v
    rw [List.count_append, List.count_eq_zero_of_not_mem hnot, hhanded] at honce
    exact honce.symm

/-- **Delayed tasks arrive once**, in every state of every run of careful commands. -/
theorem delayedOnce {b : Broker} {actions : List QueueAction}
    (h : (drainMachine env).Along (Careful env) (.start b) actions) :
    ∀ t ∈ (drainMachine env).committed (.start b) actions, DelayedOnce env t := by
  have hrun := Machine.committed_inv (fun s => Accounted s ∧ DrainsFit s)
    (fun s action hs hcareful t ht => hcareful.step hs.1 hs.2 (Option.mem_toList.mp ht))
    ⟨accounted_start b, drainsFit_start b⟩ h
  exact fun t ht => delayedOnce_of_accounted (hrun t ht)

instance (env : QueueEnv) (s : DrainSystem) : ∀ action, Decidable (Careful env s action)
  | .delay _ task delaySeconds => inferInstanceAs (Decidable (max 0 delaySeconds = 0 ∨
      ∀ e ∈ s.broker.scheduled.members, task.toJson env.texts ≠ .ok e))
  | .push worker => inferInstanceAs (Decidable (∀ d ∈ s.drains.rows, d.worker = worker →
      ∀ v ∈ d.values, v ∈ s.waiting))
  | .enqueue _ | .pop | .read _ _ | .remove _ | .abandon _ => .isTrue trivial

theorem delayedOnce_apart :
    ((drainMachine Sample.queueEnv).committed (.start {})
      [.delay 0 Sample.dispatchTask 10, .read 1 10, .push 1, .read 2 10, .remove 1, .abandon 2, .pop]).Forall
        (fun t => DelayedOnce Sample.queueEnv t) :=
  List.forall_iff_forall_mem.mpr (delayedOnce (by decide +kernel))

/-- Two drains that have read the same entry both push it. -/
theorem not_delayedOnce :
    ¬ ∀ (env : QueueEnv) (b : Broker) (actions : List QueueAction),
      ∀ t ∈ (drainMachine env).committed (.start b) actions, DelayedOnce env t := by
  intro h
  have htwice : ∃ t ∈ (drainMachine Sample.queueEnv).committed (.start {})
      [.delay 0 Sample.dispatchTask 10, .read 1 10, .read 2 10, .push 1, .push 2],
      t.handed.length < t.arrivals.length := by decide +kernel
  obtain ⟨t, ht, hlt⟩ := htwice
  have honce := (h _ _ _ t ht).once.length_eq
  rw [List.length_append, List.length_map] at honce
  omega

end SiloForge
