import SiloForge.Openclaw.AgentState

/-!
# Lifecycle runs

A lifecycle run changes the row of an agent, calls the gateway, and changes the row again by what came of the calls:
it commits, or is rolled back. A wake that stays unanswered has the run repeated by a queued task, some times.

* `LifecycleOptions` : the arguments of a run, as its callers give them;
* `beginLifecycle`, `finishLifecycle` : what a run does to its copy of the row before and after the calls;
* `reconcileDecision` : what a queued task does about the row it reads.
-/

namespace SiloForge

structure LifecycleOptions where
  action : String
  forceBootstrap : Bool := false
  resetSession : Bool := false
  wake : Bool := true
  deliverWakeup : Bool := true
  wakeupVerb : Option String := none
  clearConfirmToken : Bool := false

namespace LifecycleOptions

def ofUser (action wakeupVerb : String) (forceBootstrap : Bool) : LifecycleOptions :=
  { action, forceBootstrap, resetSession := true, wakeupVerb := some wakeupVerb, clearConfirmToken := true }

def ofLead (action : String) : LifecycleOptions := { action }

def ofReconcile : LifecycleOptions :=
  { action := "update", resetSession := true, wakeupVerb := some "updated", clearConfirmToken := true }

end LifecycleOptions

/-! ## What comes of the gateway calls -/

/-- How the gateway calls of a run end: all succeed, one raises an exception the run catches, or the
run is cut off, by another exception or by the time limit of its worker. A gateway without a URL is
not called. -/
inductive GatewayEnding where
  | done
  | gatewayError (message : String)
  | raised (message : String)
  | cut
  | noUrl
  deriving DecidableEq

/-- What comes of the gateway calls of a run: the session key, where it came that far, and whether the wake message
went out though the run did not succeed. -/
structure GatewayRun where
  sessionKey : Option String := none
  sent : Bool := false
  ending : GatewayEnding

/-- The run wakes the agent: the message is the last of its calls. -/
def GatewayRun.wakes (run : GatewayRun) (options : LifecycleOptions) : Bool :=
  options.wake && (decide (run.ending = .done) || run.sent && decide (run.ending ≠ .noUrl))

def GatewayRun.commits (run : GatewayRun) : Bool := run.ending ≠ .cut

/-! ## The row around the calls -/

namespace AgentRow

def beginLifecycle (agent : AgentRow) (now : Time) (options : LifecycleOptions) (minted : Option TokenHash) : AgentRow :=
  let requested := agent.markProvisionRequested now options.action
    (some (if options.action = "update" then "updating" else "provisioning"))
  { requested with
    agentTokenHash := minted.or agent.agentTokenHash
    lifecycleGeneration := agent.lifecycleGeneration + 1
    lastProvisionError := none
    checkinDeadlineAt := if options.wake then some (now + checkinDeadlineAfterWake) else none
    wakeAttempts := if options.wake then agent.wakeAttempts + 1 else agent.wakeAttempts
    lastWakeSentAt := if options.wake then some now else agent.lastWakeSentAt }

def finishLifecycle (agent : AgentRow) (now : Time) (options : LifecycleOptions) (run : GatewayRun) : Option AgentRow :=
  let agent := { agent with openclawSessionId := run.sessionKey.or agent.openclawSessionId }
  match run.ending with
  | .done => some
    { agent.markProvisionComplete now "online" options.clearConfirmToken with
      lastProvisionError := none
      checkinDeadlineAt := if options.wake then some (now + checkinDeadlineAfterWake) else none }
  | .gatewayError message | .raised message => some { agent with lastProvisionError := some message, updatedAt := now }
  | .noUrl => some agent
  | .cut => none

def runLifecycle (agent : AgentRow) (begun ended : Time) (options : LifecycleOptions) (minted : Option TokenHash)
    (run : GatewayRun) : AgentRow :=
  ((agent.beginLifecycle begun options minted).finishLifecycle ended options run).getD agent

section Columns
variable (agent : AgentRow) (now : Time) (options : LifecycleOptions) (minted : Option TokenHash)

@[simp] theorem beginLifecycle_lifecycleGeneration :
    (agent.beginLifecycle now options minted).lifecycleGeneration = agent.lifecycleGeneration + 1 := rfl

@[simp] theorem beginLifecycle_lastWakeSentAt : (agent.beginLifecycle now options minted).lastWakeSentAt =
    if options.wake then some now else agent.lastWakeSentAt := rfl

@[simp] theorem beginLifecycle_lastSeenAt :
    (agent.beginLifecycle now options minted).lastSeenAt = agent.lastSeenAt := rfl

end Columns

theorem finishLifecycle_eq_some {agent finished : AgentRow} {now : Time} {options : LifecycleOptions}
    {run : GatewayRun} (h : agent.finishLifecycle now options run = some finished) :
    finished.lifecycleGeneration = agent.lifecycleGeneration ∧ finished.wakeAttempts = agent.wakeAttempts ∧
      finished.lastWakeSentAt = agent.lastWakeSentAt ∧ finished.lastSeenAt = agent.lastSeenAt ∧
      run.ending ≠ .cut := by
  unfold finishLifecycle at h
  dsimp only at h
  split at h <;> cases h <;> refine ⟨rfl, rfl, rfl, rfl, ?_⟩ <;> simp_all

theorem finishLifecycle_isSome (agent : AgentRow) (now : Time) (options : LifecycleOptions) (run : GatewayRun) :
    (agent.finishLifecycle now options run).isSome = run.commits := by
  unfold finishLifecycle GatewayRun.commits
  cases run.ending <;> rfl

section Whole
variable {run : GatewayRun} (agent : AgentRow) (begun ended : Time) (options : LifecycleOptions)
  (minted : Option TokenHash)

theorem finishLifecycle_of_commits (h : run.commits = true) :
    (agent.beginLifecycle begun options minted).finishLifecycle ended options run =
      some (agent.runLifecycle begun ended options minted run) := by
  have hsome := finishLifecycle_isSome (agent.beginLifecycle begun options minted) ended options run
  rw [h] at hsome
  obtain ⟨finished, hfinished⟩ := Option.isSome_iff_exists.mp hsome
  unfold runLifecycle
  rw [hfinished, Option.getD_some]

theorem runLifecycle_of_not_commits (h : run.commits = false) :
    agent.runLifecycle begun ended options minted run = agent := by
  have hnone := finishLifecycle_isSome (agent.beginLifecycle begun options minted) ended options run
  rw [h] at hnone
  unfold runLifecycle
  rw [Option.isNone_iff_eq_none.mp (Option.isSome_eq_false_iff.mp hnone), Option.getD_none]

theorem runLifecycle_columns (h : run.commits = true) :
    let row := agent.runLifecycle begun ended options minted run
    row.lifecycleGeneration = agent.lifecycleGeneration + 1 ∧
      row.wakeAttempts = (if options.wake then agent.wakeAttempts + 1 else agent.wakeAttempts) ∧
      row.lastWakeSentAt = (if options.wake then some begun else agent.lastWakeSentAt) ∧
      row.lastSeenAt = agent.lastSeenAt := by
  obtain ⟨hgeneration, hattempts, hwoken, hseen, -⟩ :=
    finishLifecycle_eq_some (finishLifecycle_of_commits agent begun ended options minted h)
  exact ⟨hgeneration, hattempts, hwoken, hseen⟩

theorem runLifecycle_hash :
    let row := agent.runLifecycle begun ended options minted run
    row.toAgent = agent.toAgent ∧
      row.agentTokenHash = if run.commits then minted.or agent.agentTokenHash else agent.agentTokenHash := by
  unfold runLifecycle finishLifecycle GatewayRun.commits
  cases run.ending <;> exact ⟨rfl, rfl⟩

end Whole

end AgentRow

/-! ## Reconciling -/

/-- What a queued task does about the agent it reads: nothing, wait on, give up, or repeat the run. -/
inductive ReconcileDecision where
  | skip
  | defer (delay : Int)
  | giveUp
  | repeatRun
  deriving DecidableEq

/-- The checks of `process_lifecycle_queue_task`, in their order. -/
def reconcileDecision (agent : AgentRow) (payload : QueuedAgentLifecycleReconcile) (now : Time) : ReconcileDecision :=
  let deadline : Int := (agent.checkinDeadlineAt.map Int.ofNat).getD payload.checkinDeadlineAt.micros
  if (agent.lifecycleGeneration : Int) ≠ payload.generation then .skip
  else if agent.hasCheckedInSinceWake then .skip
  else if agent.status = "deleting" then .skip
  else if (now : Int) < deadline then .defer (deadline - now)
  else if maxWakeAttemptsWithoutCheckin ≤ agent.wakeAttempts then .giveUp
  else .repeatRun

/-- The row once no more wakes are sent. -/
def AgentRow.giveUpWaking (agent : AgentRow) (now : Time) : AgentRow :=
  { agent with
    status := "offline"
    checkinDeadlineAt := none
    lastProvisionError := some "Agent did not check in after wake; max wake attempts reached"
    updatedAt := now }

variable {payload : QueuedAgentLifecycleReconcile}

theorem reconcileDecision_eq {agent : AgentRow} {now : Time} (h : reconcileDecision agent payload now ≠ .skip) :
    (agent.lifecycleGeneration : Int) = payload.generation ∧ agent.hasCheckedInSinceWake = false ∧
      agent.status ≠ "deleting" := by
  unfold reconcileDecision at h
  dsimp only at h
  split at h
  · exact absurd rfl h
  · rename_i hgeneration
    split at h
    · exact absurd rfl h
    · rename_i hseen
      split at h
      · exact absurd rfl h
      · rename_i hstatus
        exact ⟨not_not.mp hgeneration, Bool.eq_false_iff.mpr hseen, hstatus⟩

theorem wakeAttempts_of_repeatRun {agent : AgentRow} {now : Time}
    (h : reconcileDecision agent payload now = .repeatRun) : agent.wakeAttempts < maxWakeAttemptsWithoutCheckin := by
  unfold reconcileDecision at h
  dsimp only at h
  split_ifs at h with _ _ _ _ hattempts
  exact Nat.lt_of_not_le hattempts

end SiloForge
