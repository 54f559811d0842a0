import SiloForge.System.BlockedRest
import SiloForge.System.SignOff
import SiloForge.Tasks.Times

/-!
# The times of work

A task that is in progress says since when, and one that is sent back or to review remembers it. Each writer
of a status sees to it on its own, and some forget.

* `Timed` : the time of the start is set exactly on the tasks in progress;
* `patched_times` : the row of a PATCHed task in every state the PATCH commits;
* `mistimes` : the requests that forget;
* `TimingKept`, `timingKept` : the times are kept in every run without them.
-/

namespace SiloForge

open Lib

/-- The task has the time of a start exactly while it is in progress. -/
def Task.Timed (task : Task) : Prop := task.inProgressAt.isSome ↔ task.status = .inProgress

def Timed (db : Db) : Prop := ∀ taskId task, db.tasks.get? taskId = some task → task.Timed

/-- A task that was in progress and is sent back or to review remembers when it was started. -/
def Remembers (old new : Task) : Prop :=
  old.status = .inProgress → new.status = .inbox ∨ new.status = .review → new.previousInProgressAt = old.inProgressAt

/-! ## The row of a PATCH -/

variable {update : TaskUpdateInput} {taskId : Uuid} {actor : Actor} {request : Request} {new : Task}
  {ctx : ActorContext}

theorem get?_recordTaskUpdate_self {db stored : Db} {task' : Task} {agentId : Option Uuid}
    (hfound : db.tasks.get? update.task.id = some update.task) (hsame : SameTask update.task task')
    (hstored : stored.tasks = db.tasks.put task') (ht : WellFormed (recordTaskUpdate stored update task' agentId)) :
    (recordTaskUpdate stored update task' agentId).tasks.get? update.task.id = some task' := by
  have hput := get?_put_patched hfound hsame
  rw [← hstored, ← hsame.id] at hput
  have hself : ∀ d ∈ stored.dependencies, d.taskId ≠ d.dependsOnTaskId := ht.noSelf
  rw [← hsame.id]
  exact get?_reconcileTasks_self hself hput

theorem updateTask_times {texts : Texts} {db : Db} {now : Time} {boardId : Uuid} {payload : TaskUpdate}
    {commits : List Db} (h : updateTask texts db now boardId taskId actor payload = .ok commits) :
    ∃ ctx task task', requireUserOrAgent db actor = .ok ctx ∧ db.tasks.get? taskId = some task ∧
      PatchTimes db { task, boardId, now, updates := payload } ctx task' ∧
      ∀ t ∈ commits, WellFormed t → t.tasks.get? taskId = some task' := by
  simp only [updateTask, bind_eq_ok] at h
  obtain ⟨ctx, hctx, board, hread, task, hfound, h⟩ := h
  obtain ⟨hboard, rfl⟩ := getBoardForActor_eq_ok hread
  obtain ⟨htask, rfl, hon⟩ := getTaskOr404_eq_ok hfound
  have hfinal : ∀ {row : AdminUpdate} {agentId : Option Uuid}, SameTask task row.task →
      finalizeUpdatedTask texts db { task, boardId := board.id, now, updates := payload } row agentId = .ok commits →
      ∃ stored task', storeUpdatedTask texts db { task, boardId := board.id, now, updates := payload } row
          = .ok (stored, task') ∧ ∀ t ∈ commits, WellFormed t → t.tasks.get? task.id = some task' := by
    intro row agentId hrow hfinal
    obtain ⟨stored, task', hstore, pre, events, rfl, hpre⟩ := finalizeUpdatedTask_eq_ok hfinal
    obtain ⟨hfields, tags, values, rfl⟩ := storeUpdatedTask_eq_ok hstore
    have hsame := hrow.trans hfields.same
    refine ⟨_, task', hstore, fun t ht hwf => ?_⟩
    rcases List.mem_append.mp ht with ht | ht
    · obtain ⟨events', rfl⟩ := hpre t ht
      exact get?_put_patched htask hsame
    · obtain rfl := List.mem_singleton.mp ht
      exact get?_recordTaskUpdate_self htask hsame rfl hwf
  cases ctx with
  | user userId =>
    simp only [bind_eq_ok] at h
    obtain ⟨_, -, row, hrow, h⟩ := h
    obtain ⟨stored, task', hstore, hall⟩ := hfinal (applyAdminTaskRules_same hrow) h
    exact ⟨_, task, task', hctx, htask, user_patchTimes hrow hstore, hall⟩
  | agent agent =>
    dsimp only at h
    split at h
    · rename_i hlead
      simp only [bind_eq_ok, pure_eq_ok] at h
      obtain ⟨db', hdb', rfl⟩ := h
      simp only [applyLeadTaskUpdate, bind_eq_ok, pure_eq_ok] at hdb'
      obtain ⟨_, -, ⟨dependencies, effectiveDeps⟩, -, tagIds, -, _, -, assigned, -, task', hstatus, _, -,
        tagAssignments, -, customFieldValues, -, rfl⟩ := hdb'
      obtain ⟨hsame, -⟩ := leadApplyStatus_eq_ok hstatus
      refine ⟨_, task, _, hctx, htask, lead_patchTimes hlead hstatus, fun t ht hwf => ?_⟩
      obtain rfl := List.mem_singleton.mp ht
      exact get?_recordTaskUpdate_self htask ⟨hsame.id, hsame.boardId⟩ rfl hwf
    · simp only [bind_eq_ok] at h
      obtain ⟨row, hrow, h⟩ := h
      obtain ⟨stored, task', hstore, hall⟩ := hfinal (applyNonLeadAgentTaskRules_same hrow) h
      exact ⟨_, task, task', hctx, htask, agent_patchTimes hrow hstore, hall⟩

/-- **The row of a PATCHed task** in every state the PATCH commits. -/
theorem patched_times {env : Env} {db t : Db} {boardId : Uuid} {payload : TaskUpdate}
    (hop : request.op = .updateTask boardId taskId actor payload) (ht : t ∈ (machine env).commits db request)
    (hdb : WellFormed db) (hnew : t.tasks.get? taskId = some new) :
    ∃ ctx old, requireUserOrAgent db actor = .ok ctx ∧ db.tasks.get? taskId = some old ∧
      PatchTimes db { task := old, boardId, now := request.now, updates := payload } ctx new := by
  have hwf := (commit_of_mem ht).wellFormed hdb
  obtain ⟨now, op⟩ := request
  obtain rfl : op = .updateTask boardId taskId actor payload := hop
  obtain ⟨commits, hok, ht⟩ := Response.mem_ofExcept.mp ht
  obtain ⟨ctx, old, task', hctx, hfound, htimes, hall⟩ := updateTask_times hok
  obtain rfl := Option.some.inj ((hall t ht hwf).symm.trans hnew)
  exact ⟨ctx, old, hctx, hfound, htimes⟩

/-! ## The requests that forget -/

def Actor.leads (db : Db) : Actor → Bool
  | .user _ => false
  | .agent agentId => (db.agents.get? agentId).any (·.isBoardLead)

def keepsWorkWaiting (db : Db) (taskId : Uuid) : Bool :=
  db.dependencies.rows.any fun d =>
    d.dependsOnTaskId = taskId && (db.tasks.get? d.taskId).any (·.status = .inProgress)

/-- The PATCH starts work without its time, ends it and keeps the time, or sends it back and forgets the time. -/
def patchMistimes (db : Db) (update : TaskUpdateInput) (actor : Actor) : Bool :=
  match update.task.status with
  | .inbox => decide (update.updates.status = some .inProgress) && actor.leads db
  | .inProgress => decide (update.updates.status = some .done) || (actor.isUser && leavesBlocked db update)
  | .done => update.updates.status.any (· ≠ .done) && keepsWorkWaiting db update.task.id
  | .review => false

/-- The request forgets a time: a task created in progress, a PATCH that does, the deletion of an agent at work. -/
def mistimes (db : Db) (request : Request) : Bool :=
  match request.op with
  | .createTask _ _ _ payload | .createTaskAsLead _ _ _ payload => payload.status = .inProgress
  | .updateTask boardId taskId actor payload =>
    (db.tasks.get? taskId).any fun task =>
      patchMistimes db { task, boardId, now := request.now, updates := payload } actor
  | .deleteAgent agentId => db.tasks.rows.any fun t => t.assignedAgentId = some agentId && t.status = .inProgress
  | _ => false

theorem leads_of_isLead {db : Db} (h : requireUserOrAgent db actor = .ok ctx) (hlead : ctx.isLead = true) :
    actor.leads db = true := by
  obtain ⟨agentId, rfl, hagent⟩ := isLead_eq h hlead
  exact hagent

theorem status_of_creation? {db : Db} {boardId : Uuid} {payload : TaskCreate}
    (hop : request.op.creation? = some (boardId, taskId, payload)) (hquiet : mistimes db request = false) :
    payload.status ≠ .inProgress := by
  unfold mistimes at hquiet
  cases hrequest : request.op <;> rw [hrequest] at hop hquiet <;> cases hop <;> exact of_decide_eq_false hquiet

theorem updateTask_of_patched? {op : Operation} (h : op.patched? = some taskId) :
    ∃ boardId actor payload, op = .updateTask boardId taskId actor payload := by
  cases op <;> cases h
  exact ⟨_, _, _, rfl⟩

/-! ## One request -/

theorem Task.timed_of_none {task : Task} (hstatus : task.status ≠ .inProgress) (htime : task.inProgressAt = none) :
    task.Timed := by
  simp [Task.Timed, hstatus, htime]

theorem Task.timed_of_some {task : Task} {time : Time} (hstatus : task.status = .inProgress)
    (htime : task.inProgressAt = some time) : task.Timed := by
  simp [Task.Timed, hstatus, htime]

/-- **One PATCH** that does not forget keeps the times. -/
theorem PatchTimes.timed {db : Db} (h : PatchTimes db update ctx new) (hctx : requireUserOrAgent db actor = .ok ctx)
    (hquiet : patchMistimes db update actor = false) (hold : update.task.Timed) :
    new.Timed ∧ Remembers update.task new := by
  unfold patchMistimes at hquiet
  cases h with
  | kept requested status time =>
    refine ⟨by rwa [Task.Timed, status, time], fun hbefore hafter => ?_⟩
    rw [status, hbefore] at hafter
    rcases hafter with hafter | hafter <;> cases hafter
  | finished requested status time =>
    have hidle : update.task.status ≠ .inProgress := by
      intro hbefore
      simp [hbefore, requested] at hquiet
    refine ⟨Task.timed_of_none (by simp [status]) ?_, fun hbefore => absurd hbefore hidle⟩
    rw [time]
    simpa [Task.Timed, hidle] using hold
  | left requested status time previous commented unblocked unassigned =>
    refine ⟨Task.timed_of_none ?_ time, fun _ _ => previous⟩
    rcases status with hs | hs <;> simp [hs]
  | started requested status time =>
    refine ⟨Task.timed_of_some status time, fun _ hafter => ?_⟩
    simp [status] at hafter
  | blocked user blocked target status time =>
    refine ⟨Task.timed_of_none (by simp [status]) time, fun hbefore => ?_⟩
    have huser : actor.isUser = true := (isUser_of_requireUserOrAgent hctx).symm.trans user
    simp [hbefore, huser, blocked] at hquiet
  | assigned lead requested before status time =>
    simp [before, requested, leads_of_isLead hctx lead] at hquiet
  | returned lead before status time =>
    refine ⟨Task.timed_of_none (by simp [status]) time, fun hbefore => ?_⟩
    simp [before] at hbefore

theorem PatchTimes.reopens {db : Db} (h : PatchTimes db update ctx new) (hdone : update.task.status = .done)
    (hopen : new.status ≠ .done) :
    ∃ s, update.updates.status = some s ∧ s ≠ .done := by
  cases h with
  | kept requested status time => exact absurd (status.trans hdone) hopen
  | finished requested status time => exact absurd status hopen
  | left requested status time previous commented unblocked unassigned => exact ⟨new.status, requested, hopen⟩
  | started requested status time => exact ⟨_, requested, by simp⟩
  | blocked user blocked target status time => exact target hdone
  | assigned lead requested before status time => simp [hdone] at before
  | returned lead before status time => simp [hdone] at before

theorem keepsWorkWaiting_of_reopens {db t : Db} {dep dep' old : Task} {board : Board} (h : Commit db request t)
    (hdb : WellFormed db) (hreopens : Reopens db request t dep dep' board) (hfound : db.tasks.get? old.id = some old)
    (hwork : old.status = .inProgress) {d : TaskDependency} (hd : d ∈ t.dependencies) (hid : d.taskId = old.id)
    (hdep : d.dependsOnTaskId = dep.id) :
    keepsWorkWaiting db dep.id = true := by
  have hold : d ∈ db.dependencies := by
    rcases h.dependency_cases hd with hold | hwritten
    · exact hold
    · rw [Operation.written?_of_patched? hreopens.op] at hwritten
      exact absurd ((Option.some.inj hwritten).symm.trans hdep.symm) ((h.wellFormed hdb).noSelf d hd)
  refine List.any_eq_true.mpr ⟨d, hold, ?_⟩
  simp [hdep, hid, hfound, hwork]

/-- **One request** that does not forget keeps the times of every task. -/
theorem timed_of_commit {env : Env} {db t : Db} (hdb : WellFormed db) (htimed : Timed db)
    (hquiet : mistimes db request = false) (ht : t ∈ (machine env).commits db request)
    (hnew : t.tasks.get? new.id = some new) :
    new.Timed ∧ ∀ old, db.tasks.get? new.id = some old → Remembers old new := by
  have hcommit := commit_of_mem ht
  have hrow : ∀ {old : Task}, db.tasks.get? new.id = some old → (new.Timed ∧ Remembers old new) →
      new.Timed ∧ ∀ old, db.tasks.get? new.id = some old → Remembers old new := by
    rintro old hold ⟨htimed, hremembers⟩
    refine ⟨htimed, fun old' hold' => ?_⟩
    obtain rfl := Option.some.inj (hold.symm.trans hold')
    exact hremembers
  have hreset : ∀ {old : Task}, old.status ≠ .inProgress →
      (old.reset request.now).Timed ∧ Remembers old (old.reset request.now) :=
    fun hidle => ⟨Task.timed_of_none (by rintro ⟨⟩) rfl, fun hbefore => absurd hbefore hidle⟩
  cases hcommit.taskChange hdb hnew with
  | unchanged hfound hother =>
    refine hrow hfound ⟨htimed _ _ hfound, fun hbefore hafter => ?_⟩
    simp [hbefore] at hafter
  | created board payload deps hop hfresh rules hdeps =>
    refine ⟨Task.timed_of_none ?_ rules.notStarted, fun old hold => ?_⟩
    · rw [rules.status]
      exact status_of_creation? hop hquiet
    · rw [hfresh] at hold
      cases hold
  | patched actor payload ctx old board hop hactor hfound hon hboard rules =>
    have hid := rules.same.id
    obtain ⟨ctx', old', hctx, hold, htimes⟩ := patched_times hop ht hdb (hid ▸ hnew)
    obtain rfl := Option.some.inj (hfound.symm.trans hold)
    have hpatch : patchMistimes db { task := old, boardId := board.id, now := request.now, updates := payload } actor
        = false := by
      simpa [mistimes, hop, hfound] using hquiet
    exact hrow (hid ▸ hfound) (htimes.timed hctx hpatch (htimed _ _ hfound))
  | @cascaded old dep dep' board hfound hopen hreopens hdep =>
    refine hrow hfound (hreset fun hwork => ?_)
    obtain ⟨d, hd, hid, hdep⟩ := hdep
    have hwaiting := keepsWorkWaiting_of_reopens hcommit hdb hreopens hfound hwork hd hid hdep
    obtain ⟨boardId, actor, payload, hop⟩ := updateTask_of_patched? hreopens.op
    obtain ⟨ctx, dep'', hctx, hold, htimes⟩ := patched_times hop ht hdb hreopens.stored
    obtain rfl := Option.some.inj (hreopens.found.symm.trans hold)
    obtain ⟨s, hs, hne⟩ := htimes.reopens hreopens.before hreopens.after
    have hs : payload.status = some s := hs
    simp [mistimes, hop, hreopens.found, patchMistimes, hreopens.before, hs, hne, hwaiting] at hquiet
  | @stopped old agentId hop hfound hassigned hstatus =>
    have hwork : old ∈ db.tasks.rows := Table.mem_of_get? hfound
    simp only [mistimes, hop, List.any_eq_false] at hquiet
    exact absurd (hquiet old hwork) (by simp [hassigned, hstatus])
  | @unassigned old agentId hop hfound =>
    refine hrow hfound ⟨htimed _ old hfound, fun hbefore hafter => ?_⟩
    simp [Task.unassign, hbefore] at hafter
  | reported run status board old hreport hrun hmoved =>
    refine hrow ((callbackTask_same hmoved).id ▸ hreport.task_get?) ?_
    rcases callbackTask_eq_some hmoved with ⟨-, -, rfl⟩ | ⟨-, -, rfl⟩
    · refine ⟨?_, fun _ hafter => ?_⟩
      · simp [Task.Timed, startTask]
      · simp [startTask] at hafter
    · exact ⟨Task.timed_of_none (by rintro ⟨⟩) rfl, fun _ _ => rfl⟩
  | @escalated scope runId approvalId note board old hop hscope hconflicts hstatus =>
    obtain ⟨-, -, -, htask, hid, -⟩ := getBoardAndTask_eq_ok hscope
    have hfound : db.tasks.get? old.id = some old := hid ▸ htask
    refine hrow hfound ⟨Task.timed_of_none (by rintro ⟨⟩) ?_, fun hbefore _ => if_pos hbefore⟩
    by_cases hwork : old.status = .inProgress
    · exact if_pos hwork
    · have hidle : old.inProgressAt = none := by simpa [Task.Timed, hwork] using htimed _ _ hfound
      exact (if_neg hwork).trans hidle

/-! ## Runs of the system -/

/-- What the times are owed: they are set on the work in progress in every committed state, and every request
that sends work back or to review keeps the time it was started. -/
structure TimingKept (env : Env) (db : Db) (requests : List Request) : Prop where
  timed : ∀ t ∈ (machine env).committed db requests, Timed t
  remembers : (machine env).Along ((machine env).Each fun s _ t => ∀ taskId old new,
    s.tasks.get? taskId = some old → t.tasks.get? taskId = some new → Remembers old new) db requests

theorem timed_of_mem {env : Env} {db t : Db} (hdb : WellFormed db ∧ Timed db) (hquiet : mistimes db request = false)
    (ht : t ∈ (machine env).commits db request) : WellFormed t ∧ Timed t := by
  refine ⟨(commit_of_mem ht).wellFormed hdb.1, fun taskId new hnew => ?_⟩
  obtain rfl : new.id = taskId := Table.key_of_get? hnew
  exact (timed_of_commit hdb.1 hdb.2 hquiet ht hnew).1

/-- **The times are kept** in every run of the system without a request that forgets. -/
theorem timingKept {env : Env} {db : Db} {requests : List Request} (hdb : WellFormed db) (hstart : Timed db)
    (h : (machine env).Along (fun s request => mistimes s request = false) db requests) :
    TimingKept env db requests where
  timed := fun t ht => (Machine.committed_inv (fun s => WellFormed s ∧ Timed s)
    (fun _ _ hs hquiet _ ht => timed_of_mem hs hquiet ht) ⟨hdb, hstart⟩ h t ht).2
  remembers := by
    refine Machine.Along.of_inv (fun s => WellFormed s ∧ Timed s) ?_ ?_ ⟨hdb, hstart⟩ h
    · exact fun s request hs hquiet => (machine env).next_of_each hs fun t ht => timed_of_mem hs hquiet ht
    · intro s request hs hquiet t ht taskId old new hold hnew
      obtain rfl : new.id = taskId := Table.key_of_get? hnew
      exact (timed_of_commit hs.1 hs.2 hquiet ht hnew).2 old hold

namespace Sample

def workerStarts : Request := ⟨1, .updateTask 1 1 (.agent 2) { status := some .inProgress }⟩

def workerAsksReview : Request := ⟨2, .updateTask 1 1 (.agent 2) { status := some .review, comment := some "Done" }⟩

def leadStarts : Request := ⟨1, .updateTask 1 1 (.agent 1) { status := some .inProgress, assignedAgentId := some (some 2) }⟩

def waitingInInbox : Db := { db with tasks := ⟨[task], Table.nodup_one task⟩ }

theorem timed_waitingInInbox : Timed waitingInInbox := by
  intro taskId new hnew
  obtain rfl := List.mem_singleton.mp (Table.mem_of_get? hnew)
  exact Task.timed_of_none (by rintro ⟨⟩) rfl

end Sample

theorem timingKept_reviewed :
    TimingKept Sample.env Sample.waitingInInbox [Sample.workerStarts, Sample.workerAsksReview, Sample.leadFinishes] :=
  timingKept (wellFormed_of_empty rfl rfl) Sample.timed_waitingInInbox (by decide)

/-- A lead that assigns and starts a task leaves it without a time. -/
theorem not_timingKept :
    ¬ ∀ (env : Env) (db : Db) (requests : List Request), WellFormed db → Timed db → TimingKept env db requests := by
  intro h
  have hkept := h Sample.env Sample.waitingInInbox [Sample.leadStarts] (wellFormed_of_empty rfl rfl)
    Sample.timed_waitingInInbox
  have hstarted : ∃ t ∈ (machine Sample.env).committed Sample.waitingInInbox [Sample.leadStarts],
      (t.tasks.get? 1).map (fun new => (new.status, new.inProgressAt)) = some (.inProgress, none) := by decide
  obtain ⟨t, ht, hstarted⟩ := hstarted
  obtain ⟨new, hnew, hrow⟩ := Option.map_eq_some_iff.mp hstarted
  obtain ⟨hstatus, htime⟩ := Prod.mk.inj hrow
  have htimed := (hkept.timed t ht 1 new hnew).mpr hstatus
  simp [htime] at htimed

end SiloForge
