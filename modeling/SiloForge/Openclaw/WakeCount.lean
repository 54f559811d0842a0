import SiloForge.Lib.Machine
import SiloForge.Openclaw.Lifecycle

/-!
# Counting wakes

An agent is woken by lifecycle runs, some of them repeated by the reconciler, and checks in by heartbeats and by any
other request. The row counts the wakes since the last check-in; a record beside it counts the messages that went out.

* `WakeRecord`, `wakeMachine` : the row, the time, and what has happened; one action after the other;
* `WakesCounted` : the row counts right, the reconciler stops in time, and gives up no agent that has checked in;
* `CountsRight` : the actions that keep the count right, exactly (`counted_step_iff`);
* `wakesCounted` : the wakes are counted in every run of such actions.
-/

namespace SiloForge

open Lib

/-! ## Actions on one agent -/

/-- The row of an agent and the time, with the wakes since the last check-in, those of the
reconciler among them, whether the agent has checked in since the last wake, and whether it was ever
given up though it had. -/
structure WakeRecord where
  row : AgentRow
  clock : Time
  sent : Nat := 0
  reconcilerSent : Nat := 0
  checkedIn : Bool := false
  wronged : Bool := false

/-- What happens to an agent, after some time: a lifecycle run of a request, a task of the queue, a
heartbeat, another request of the agent. A run takes some time itself. -/
inductive WakeAction where
  | run (options : LifecycleOptions) (minted : Option TokenHash) (before during : Nat) (run : GatewayRun)
  | reconcile (payload : QueuedAgentLifecycleReconcile) (reachable : Bool) (minted : Option TokenHash)
      (before during : Nat) (run : GatewayRun)
  | heartbeat (byAgent : Bool) (before : Nat) (statusValue : Option String)
  | request (before : Nat)

namespace WakeRecord

def ofNew (agent : Agent) (gatewayId : Uuid) (clock : Time) : WakeRecord := { row := { agent with gatewayId }, clock }

def checkIn (s : WakeRecord) (row : AgentRow) (now : Time) : WakeRecord :=
  { s with row, clock := now, sent := 0, reconcilerSent := 0, checkedIn := true }

def wake (s : WakeRecord) (byReconciler wakes : Bool) : WakeRecord :=
  if wakes then
    { s with
      sent := s.sent + 1
      reconcilerSent := if byReconciler then s.reconcilerSent + 1 else s.reconcilerSent
      checkedIn := false }
  else s

def perform (s : WakeRecord) (byReconciler : Bool) (options : LifecycleOptions) (minted : Option TokenHash)
    (begun ended : Time) (run : GatewayRun) : WakeRecord :=
  { s.wake byReconciler (run.wakes options) with
    row := s.row.runLifecycle begun ended options minted run
    clock := ended }

def step (s : WakeRecord) : WakeAction → WakeRecord
  | .run options minted before during run =>
    s.perform false options minted (s.clock + before) (s.clock + before + during) run
  | .reconcile payload reachable minted before during run =>
    let now := s.clock + before
    match reconcileDecision s.row payload now with
    | .skip | .defer _ => { s with clock := now }
    | .giveUp => { s with row := s.row.giveUpWaking now, clock := now, wronged := s.wronged || s.checkedIn }
    | .repeatRun =>
      if reachable then s.perform true .ofReconcile minted now (now + during) run else { s with clock := now }
  | .heartbeat byAgent before statusValue =>
    let now := s.clock + before
    s.checkIn ((if byAgent then s.row.touchAgentPresence now else s.row).commitHeartbeat now statusValue) now
  | .request before =>
    let now := s.clock + before
    if s.row.seenRecently now then { s with clock := now } else s.checkIn (s.row.touchAgentPresence now) now

end WakeRecord

def wakeMachine : Machine WakeRecord WakeAction where
  commits s action := [s.step action]

variable {s : WakeRecord} {options : LifecycleOptions} {minted : Option TokenHash} {run : GatewayRun}
  {begun ended : Time} {byReconciler : Bool}

/-! ## The count -/

/-- A run that is to wake the agent does so exactly when it is committed. -/
def CountedRun (options : LifecycleOptions) (run : GatewayRun) : Prop :=
  options.wake = true → (run.wakes options = true ↔ run.commits = true)

/-- The action keeps the count right: a run that is to wake the agent sends its message if it is committed and only
then, and a request does not note the presence of an agent with wakes counted. -/
def CountsRight (s : WakeRecord) : WakeAction → Prop
  | .run options _ _ _ run => CountedRun options run
  | .reconcile payload reachable _ before _ run =>
    reconcileDecision s.row payload (s.clock + before) = .repeatRun → reachable = true → CountedRun .ofReconcile run
  | .heartbeat .. => True
  | .request before => s.row.seenRecently (s.clock + before) = true ∨ s.row.wakeAttempts = 0

/-- The row counts right, the reconciler stops in time, and gives up no agent that has checked in. -/
structure WakesCounted (s : WakeRecord) : Prop where
  counted : s.row.wakeAttempts = s.sent
  bounded : s.reconcilerSent ≤ maxWakeAttemptsWithoutCheckin
  fair : s.wronged = false

theorem wakes_of_not_wake (h : options.wake = false) (run : GatewayRun) : run.wakes options = false := by
  unfold GatewayRun.wakes
  rw [h, Bool.false_and]

/-- **A run keeps the count** exactly when its message and its commit go together. -/
theorem counted_perform_iff (h : s.row.wakeAttempts = s.sent) :
    (s.perform byReconciler options minted begun ended run).row.wakeAttempts =
        (s.perform byReconciler options minted begun ended run).sent ↔ CountedRun options run := by
  have hsent : (s.perform byReconciler options minted begun ended run).sent =
      if run.wakes options then s.sent + 1 else s.sent := by
    show (s.wake byReconciler (run.wakes options)).sent = _
    unfold WakeRecord.wake
    split <;> rfl
  have hrow : (s.perform byReconciler options minted begun ended run).row.wakeAttempts =
      if options.wake && run.commits then s.sent + 1 else s.sent := by
    show (s.row.runLifecycle begun ended options minted run).wakeAttempts = _
    cases hcommits : run.commits with
    | false => rw [AgentRow.runLifecycle_of_not_commits _ _ _ _ _ hcommits, Bool.and_false, h]; rfl
    | true => rw [(AgentRow.runLifecycle_columns _ _ _ _ _ hcommits).2.1, Bool.and_true, h]
  rw [hsent, hrow]
  unfold CountedRun
  cases hwake : options.wake with
  | false => simp [wakes_of_not_wake hwake]
  | true => cases run.wakes options <;> cases run.commits <;> simp

/-- **One action** keeps the count exactly when it counts right. -/
theorem counted_step_iff (h : s.row.wakeAttempts = s.sent) (action : WakeAction) :
    (s.step action).row.wakeAttempts = (s.step action).sent ↔ CountsRight s action := by
  cases action with
  | run options minted before during run => exact counted_perform_iff h
  | reconcile payload reachable minted before during run =>
    unfold WakeRecord.step CountsRight
    dsimp only
    split
    · rename_i hdecision
      exact iff_of_true h fun hrepeat => by rw [hdecision] at hrepeat; cases hrepeat
    · rename_i hdecision
      exact iff_of_true h fun hrepeat => by rw [hdecision] at hrepeat; cases hrepeat
    · rename_i hdecision
      exact iff_of_true h fun hrepeat => by rw [hdecision] at hrepeat; cases hrepeat
    · rename_i hdecision
      cases reachable with
      | false => exact iff_of_true h fun _ hfalse => absurd hfalse Bool.false_ne_true
      | true => exact (counted_perform_iff h).trans ⟨fun hrun _ _ => hrun, fun hrun => hrun hdecision rfl⟩
  | heartbeat byAgent before statusValue => exact iff_of_true rfl trivial
  | request before =>
    unfold WakeRecord.step CountsRight
    dsimp only
    split
    · rename_i hrecent
      exact iff_of_true h (.inl hrecent)
    · rename_i hrecent
      have hattempts : (s.row.touchAgentPresence (s.clock + before)).wakeAttempts = s.row.wakeAttempts := by
        unfold AgentRow.touchAgentPresence
        split <;> rfl
      show (s.row.touchAgentPresence (s.clock + before)).wakeAttempts = 0 ↔ _
      rw [hattempts, or_iff_right hrecent]

/-! ## The invariant -/

/-- What the record and the row have in common: the reconciler's wakes are among those that went
out, the last wake is not in the future, and a check-in since it is on record. -/
structure RecordFits (s : WakeRecord) : Prop where
  among : s.reconcilerSent ≤ s.sent
  past : ∀ woken, s.row.lastWakeSentAt = some woken → woken ≤ s.clock
  seen : s.checkedIn = true → s.row.hasCheckedInSinceWake = true

theorem hasCheckedInSinceWake_congr {agent agent' : AgentRow} (hseen : agent'.lastSeenAt = agent.lastSeenAt)
    (hwoken : agent'.lastWakeSentAt = agent.lastWakeSentAt) :
    agent'.hasCheckedInSinceWake = agent.hasCheckedInSinceWake := by
  unfold AgentRow.hasCheckedInSinceWake
  rw [hseen, hwoken]

theorem hasCheckedInSinceWake_of_le {agent : AgentRow} {now : Time} (hseen : agent.lastSeenAt = some now)
    (hwoken : ∀ woken, agent.lastWakeSentAt = some woken → woken ≤ now) : agent.hasCheckedInSinceWake = true := by
  unfold AgentRow.hasCheckedInSinceWake
  rw [hseen]
  cases h : agent.lastWakeSentAt with
  | none => rfl
  | some woken => exact decide_eq_true (hwoken woken h)

theorem RecordFits.later (h : RecordFits s) (before : Nat) : RecordFits { s with clock := s.clock + before } :=
  ⟨h.among, fun woken hwoken => (h.past woken hwoken).trans (Nat.le_add_right _ _), h.seen⟩

theorem RecordFits.checkIn (h : RecordFits s) {row : AgentRow} {now : Time} (hnow : s.clock ≤ now)
    (hseen : row.lastSeenAt = some now) (hwoken : row.lastWakeSentAt = s.row.lastWakeSentAt) :
    RecordFits (s.checkIn row now) := by
  have hpast : ∀ woken, row.lastWakeSentAt = some woken → woken ≤ now := by
    intro woken h'
    rw [hwoken] at h'
    exact (h.past woken h').trans hnow
  exact ⟨Nat.le_refl 0, hpast, fun _ => hasCheckedInSinceWake_of_le hseen hpast⟩

theorem RecordFits.perform (h : RecordFits s) (hbegun : s.clock ≤ begun) (hended : begun ≤ ended)
    (hcounted : CountedRun options run) : RecordFits (s.perform byReconciler options minted begun ended run) := by
  have hpast : ∀ woken, s.row.lastWakeSentAt = some woken → woken ≤ ended :=
    fun woken hwoken => (h.past woken hwoken).trans (hbegun.trans hended)
  cases hwakes : run.wakes options with
  | true =>
    have hwake : options.wake = true := by
      by_contra hnot
      rw [wakes_of_not_wake (Bool.eq_false_iff.mpr hnot)] at hwakes
      cases hwakes
    have hcommits : run.commits = true := (hcounted hwake).mp hwakes
    obtain ⟨-, -, hwoken, -⟩ := AgentRow.runLifecycle_columns s.row begun ended options minted hcommits
    rw [if_pos hwake] at hwoken
    unfold WakeRecord.perform WakeRecord.wake
    rw [hwakes, if_pos rfl]
    refine ⟨?_, ?_, fun hfalse => absurd hfalse Bool.false_ne_true⟩
    · show (if byReconciler then s.reconcilerSent + 1 else s.reconcilerSent) ≤ s.sent + 1
      have hamong := h.among
      split <;> omega
    · intro woken h'
      obtain rfl := Option.some.inj (hwoken.symm.trans h')
      exact hended
  | false =>
    unfold WakeRecord.perform WakeRecord.wake
    rw [hwakes, if_neg Bool.false_ne_true]
    cases hcommits : run.commits with
    | false =>
      have hrow := AgentRow.runLifecycle_of_not_commits s.row begun ended options minted hcommits
      refine ⟨h.among, ?_, ?_⟩
      · rw [hrow]
        exact hpast
      · rw [hrow]
        exact h.seen
    | true =>
      -- a run without a wake leaves the times alone
      have hwake : options.wake = false := by
        by_contra hnot
        have hsent := (hcounted (Bool.not_eq_false _ ▸ hnot)).mpr hcommits
        rw [hwakes] at hsent
        cases hsent
      obtain ⟨-, -, hwoken, hseen⟩ := AgentRow.runLifecycle_columns s.row begun ended options minted hcommits
      rw [hwake, if_neg Bool.false_ne_true] at hwoken
      refine ⟨h.among, ?_, ?_⟩
      · rw [hwoken]
        exact hpast
      · rw [hasCheckedInSinceWake_congr hseen hwoken]
        exact h.seen

/-! ## Every run of actions -/

theorem RecordFits.step (h : RecordFits s) {action : WakeAction} (hright : CountsRight s action) :
    RecordFits (s.step action) := by
  cases action with
  | run options minted before during run =>
    exact h.perform (Nat.le_add_right _ _) (Nat.le_add_right _ _) hright
  | reconcile payload reachable minted before during run =>
    unfold WakeRecord.step
    dsimp only
    split
    · exact h.later before
    · exact h.later before
    · exact ⟨h.among, (h.later before).past, h.seen⟩
    · rename_i hdecision
      split
      · rename_i hreachable
        exact h.perform (Nat.le_add_right _ _) (Nat.le_add_right _ _) (hright hdecision hreachable)
      · exact h.later before
  | heartbeat byAgent before statusValue =>
    refine h.checkIn (Nat.le_add_right _ _) rfl ?_
    cases byAgent with
    | false => rfl
    | true =>
      show (s.row.touchAgentPresence _).lastWakeSentAt = _
      unfold AgentRow.touchAgentPresence
      split <;> rfl
  | request before =>
    unfold WakeRecord.step
    dsimp only
    split
    · exact h.later before
    · rename_i hrecent
      refine h.checkIn (Nat.le_add_right _ _) ?_ ?_ <;>
        unfold AgentRow.touchAgentPresence <;> rw [if_neg hrecent]

/-- A wake of the reconciler is one of the first few since the last check-in. -/
theorem reconcilerSent_perform_le (hcounted : WakesCounted s) (hfits : RecordFits s)
    (hbelow : byReconciler = true → s.row.wakeAttempts < maxWakeAttemptsWithoutCheckin) :
    (s.perform byReconciler options minted begun ended run).reconcilerSent ≤ maxWakeAttemptsWithoutCheckin := by
  have hsame := hcounted.bounded
  show (s.wake byReconciler (run.wakes options)).reconcilerSent ≤ _
  unfold WakeRecord.wake
  split
  · show (if byReconciler then s.reconcilerSent + 1 else s.reconcilerSent) ≤ _
    split
    · rename_i hby
      have hattempts := hbelow hby
      have hamong := hfits.among
      rw [hcounted.counted] at hattempts
      omega
    · exact hsame
  · exact hsame

theorem wronged_perform : (s.perform byReconciler options minted begun ended run).wronged = s.wronged := by
  show (s.wake byReconciler (run.wakes options)).wronged = _
  unfold WakeRecord.wake
  split <;> rfl

/-- **One action** that counts right keeps the wakes counted. -/
theorem WakesCounted.step (hcounted : WakesCounted s) (hfits : RecordFits s) {action : WakeAction}
    (hright : CountsRight s action) : WakesCounted (s.step action) := by
  refine ⟨(counted_step_iff hcounted.counted action).mpr hright, ?_, ?_⟩
  · cases action with
    | run options minted before during run =>
      exact reconcilerSent_perform_le hcounted hfits fun hfalse => absurd hfalse Bool.false_ne_true
    | reconcile payload reachable minted before during run =>
      unfold WakeRecord.step
      dsimp only
      split
      · exact hcounted.bounded
      · exact hcounted.bounded
      · exact hcounted.bounded
      · rename_i hdecision
        split
        · exact reconcilerSent_perform_le hcounted hfits fun _ => wakeAttempts_of_repeatRun hdecision
        · exact hcounted.bounded
    | heartbeat byAgent before statusValue => exact Nat.zero_le _
    | request before =>
      unfold WakeRecord.step
      dsimp only
      split
      · exact hcounted.bounded
      · exact Nat.zero_le _
  · cases action with
    | run options minted before during run => exact wronged_perform.trans hcounted.fair
    | reconcile payload reachable minted before during run =>
      unfold WakeRecord.step
      dsimp only
      split
      · exact hcounted.fair
      · exact hcounted.fair
      · -- who has checked in is not given up
        rename_i hdecision
        obtain ⟨-, hseen, -⟩ := reconcileDecision_eq (by rw [hdecision]; exact ReconcileDecision.noConfusion)
        have hchecked : s.checkedIn = false := Bool.eq_false_iff.mpr fun hchecked => by
          rw [hfits.seen hchecked] at hseen
          cases hseen
        show (s.wronged || s.checkedIn) = false
        rw [hcounted.fair, hchecked]
        rfl
      · split
        · exact wronged_perform.trans hcounted.fair
        · exact hcounted.fair
    | heartbeat byAgent before statusValue => exact hcounted.fair
    | request before =>
      unfold WakeRecord.step
      dsimp only
      split
      · exact hcounted.fair
      · exact hcounted.fair

/-- **Wakes are counted** in every run of actions that count right, from the creation of the agent on. -/
theorem wakesCounted {agent : Agent} {gatewayId : Uuid} {clock : Time} {actions : List WakeAction}
    (h : wakeMachine.Along CountsRight (.ofNew agent gatewayId clock) actions) :
    ∀ t ∈ wakeMachine.committed (.ofNew agent gatewayId clock) actions, WakesCounted t := by
  have hstart : WakesCounted (.ofNew agent gatewayId clock) ∧ RecordFits (.ofNew agent gatewayId clock) := by
    refine ⟨⟨rfl, Nat.zero_le _, rfl⟩, Nat.le_refl 0, ?_, fun hfalse => absurd hfalse Bool.false_ne_true⟩
    intro woken hwoken
    cases hwoken
  intro t ht
  refine (Machine.committed_inv (fun s => WakesCounted s ∧ RecordFits s) ?_ hstart h t ht).1
  intro s action hs hright t ht
  obtain rfl := List.mem_singleton.mp ht
  exact ⟨hs.1.step hs.2 hright, hs.2.step hright⟩

namespace Sample

def worker : Agent := { id := 1, boardId := some 1 }

def wokenUp : GatewayRun := { sessionKey := some "agent:1", ending := .done }

def provisionedAndSeen : List WakeAction :=
  [.run (.ofUser "provision" "provisioned" false) none 0 1000000 wokenUp, .heartbeat true 1000000 none]

def provisionedAndBusy : List WakeAction :=
  [.run (.ofUser "provision" "provisioned" false) none 0 1000000 wokenUp, .request 1000000]

def reconcileOf (generation : Int) : QueuedAgentLifecycleReconcile :=
  { agentId := 1, gatewayId := 1, boardId := some 1, generation, checkinDeadlineAt := ⟨0, none⟩ }

def cutOffAndRepeated : List WakeAction :=
  .run (.ofUser "provision" "provisioned" false) none 0 1000000 wokenUp ::
    List.replicate 4 (.reconcile (reconcileOf 1) true none 60000000 60000000
      { sessionKey := some "agent:1", sent := true, ending := .cut })

end Sample

theorem wakesCounted_seen : (wakeMachine.committed (.ofNew Sample.worker 1 0) Sample.provisionedAndSeen).Forall
    WakesCounted := by
  refine List.forall_iff_forall_mem.mpr (wakesCounted ⟨?_, trivial, trivial⟩)
  exact fun _ => iff_of_true rfl rfl

/-- A request of the agent is a check-in that does not reset the count, and the reconciler repeats a wake that went
out before the run was cut off. -/
theorem not_wakesCounted :
    (¬ ∀ (agent : Agent) (gatewayId : Uuid) (clock : Time) (actions : List WakeAction),
        ∀ t ∈ wakeMachine.committed (.ofNew agent gatewayId clock) actions, t.row.wakeAttempts = t.sent) ∧
      ¬ ∀ (agent : Agent) (gatewayId : Uuid) (clock : Time) (actions : List WakeAction),
        ∀ t ∈ wakeMachine.committed (.ofNew agent gatewayId clock) actions,
          t.reconcilerSent ≤ maxWakeAttemptsWithoutCheckin := by
  constructor
  · intro h
    have hmiscounted : ∃ t ∈ wakeMachine.committed (.ofNew Sample.worker 1 0) Sample.provisionedAndBusy,
        ¬ t.row.wakeAttempts = t.sent := by decide
    obtain ⟨t, ht, hne⟩ := hmiscounted
    exact hne (h _ _ _ _ t ht)
  · intro h
    have hrepeated : ∃ t ∈ wakeMachine.committed (.ofNew Sample.worker 1 0) Sample.cutOffAndRepeated,
        ¬ t.reconcilerSent ≤ maxWakeAttemptsWithoutCheckin := by decide
    obtain ⟨t, ht, hne⟩ := hrepeated
    exact hne (h _ _ _ _ t ht)

end SiloForge
