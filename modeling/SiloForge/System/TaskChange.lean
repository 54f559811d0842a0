import SiloForge.System.WellFormed

/-!
# How a task's row comes to be

`TaskChange db request t new` says why `new` is the row of a task in a state `t` that a request committed on
`db`: it was there, or one of the seven writes of the system put it there. The claims about statuses are case
analyses over it.

* `Commit.taskChange` : every row of a committed state has such a reason;
* `Commit.dependency_cases`, `Commit.undone_cases` : a new dependency of a task, and a task that is not done any
  more, come from a request that writes the task;
* `Commit.waits_cases` : a task comes to wait when it is written or a dependency of it is reopened.
-/

namespace SiloForge

open Lib

/-- The task a PATCH of a done task makes not done. -/
structure Reopens (db : Db) (request : Request) (t : Db) (dep dep' : Task) (board : Board) : Prop where
  op : request.op.patched? = some dep.id
  found : db.tasks.get? dep.id = some dep
  stored : t.tasks.get? dep.id = some dep'
  onBoard : dep.boardId = some board.id
  before : dep.status = .done
  after : dep'.status ≠ .done

/-- Why `new` is the row of its task in `t`. -/
inductive TaskChange (db : Db) (request : Request) (t : Db) : Task → Prop
  | unchanged {new : Task} (hfound : db.tasks.get? new.id = some new)
      (hother : request.op.written? ≠ some new.id) : TaskChange db request t new
  | created {new : Task} (board : Board) (payload : TaskCreate) (deps : List Uuid)
      (hop : request.op.creation? = some (board.id, new.id, payload))
      (hfresh : db.tasks.get? new.id = none) (rules : NewTaskRules db board new payload deps)
      (hdeps : ∀ d ∈ t.dependencies, d.taskId = new.id → d ∈ db.dependencies ∨ d.dependsOnTaskId ∈ deps) :
      TaskChange db request t new
  | patched {new : Task} (actor : Actor) (payload : TaskUpdate) (ctx : ActorContext) (old : Task) (board : Board)
      (hop : request.op = .updateTask board.id old.id actor payload)
      (hactor : requireUserOrAgent db actor = .ok ctx)
      (hfound : db.tasks.get? old.id = some old) (hon : old.boardId = some board.id)
      (hboard : db.boards.get? board.id = some board)
      (rules : PatchRules db { task := old, boardId := board.id, now := request.now, updates := payload } ctx
        t.dependencies new) : TaskChange db request t new
  | cascaded {old : Task} (dep dep' : Task) (board : Board)
      (hfound : db.tasks.get? old.id = some old) (hopen : old.status ≠ .done)
      (hreopens : Reopens db request t dep dep' board)
      (hdep : ∃ d ∈ t.dependencies, d.taskId = old.id ∧ d.dependsOnTaskId = dep.id) :
      TaskChange db request t (old.reset request.now)
  | stopped {old : Task} (agentId : Uuid) (hop : request.op = .deleteAgent agentId)
      (hfound : db.tasks.get? old.id = some old) (hassigned : old.assignedAgentId = some agentId)
      (hstatus : old.status = .inProgress) : TaskChange db request t (old.reset request.now)
  | unassigned {old : Task} (agentId : Uuid) (hop : request.op = .deleteAgent agentId)
      (hfound : db.tasks.get? old.id = some old) :
      TaskChange db request t (old.unassign request.now)
  | reported {new : Task} (run : TaskExecutionRun) (status : ExecutionRunStatus) (board : Board) (old : Task)
      (hreport : ReportsTo db request.op run (some status) board old)
      (hrun : db.runs.get? run.id = some run)
      (hmoved : callbackTask db request.now board old status = some new) : TaskChange db request t new
  | escalated (scope : RunScope) (runId approvalId : Uuid) (note : Option String) (board : Board) {old : Task}
      (hop : request.op = .escalateRun scope runId approvalId note)
      (hscope : getBoardAndTask db scope.userId scope.organizationId scope.boardId scope.taskId = .ok (board, old))
      (hconflicts : pendingApprovalConflicts db board.id [old.id] none = [])
      (hstatus : old.status = .inbox ∨ old.status = .inProgress) :
      TaskChange db request t (escalatedTask old request.now (boardLead db board.id))

/-! ## Rows after a write -/

variable {tasks : Table Task} {new : Task} {x : Uuid} {db t : Db} {request : Request} {update : TaskUpdateInput}
  {dependencies : Table TaskDependency} {deps : List Uuid} {search : CycleSearch}

theorem get?_put_other {task' : Task} (hx : x ≠ task'.id) (h : (tasks.put task').get? x = some new) :
    tasks.get? x = some new := by
  rwa [Table.get?_put_ne hx] at h

theorem get?_put_cases {old task' : Task} (hfound : tasks.get? old.id = some old) (hid : task'.id = old.id)
    (h : (tasks.put task').get? x = some new) :
    x = old.id ∧ new = task' ∨ x ≠ old.id ∧ tasks.get? x = some new := by
  by_cases hx : x = old.id
  · subst hx
    rw [Table.get?_put, if_pos (show old.id = key task' from hid.symm), hfound, Option.map_some] at h
    exact .inl ⟨rfl, (Option.some.inj h).symm⟩
  · exact .inr ⟨hx, get?_put_other (fun he => hx (he.trans hid)) h⟩

theorem released_cases {now : Time} {agentId : Uuid} (h : (releaseAgentTasks tasks now agentId).get? x = some new) :
    ∃ old, tasks.get? x = some old ∧
      (new = old ∨ old.assignedAgentId = some agentId ∧ old.status = .inProgress ∧ new = old.reset now ∨
        new = old.unassign now) := by
  rw [get?_releaseAgentTasks, Option.map_eq_some_iff] at h
  obtain ⟨old, hold, rfl⟩ := h
  refine ⟨old, hold, ?_⟩
  unfold Task.released
  split
  · rename_i hown
    split
    · rename_i hstarted
      exact .inr (.inl ⟨hown, hstarted, rfl⟩)
    · exact .inr (.inr rfl)
  · exact .inl rfl

theorem get?_reconcileTasks {now : Time} {boardId : Uuid} {dep : Task} {previousStatus : TaskStatus}
    (h : (reconcileTasks db now boardId dep previousStatus).get? x = some new) :
    ∃ old, db.tasks.get? x = some old ∧
      (new = old ∧ (previousStatus = .done → dep.status ≠ .done → old.boardId = some boardId →
          x ∈ dependentTaskIds db boardId dep.id → old.status = .done ∨ AtRest old) ∨
        new = old.reset now ∧ previousStatus = .done ∧ dep.status ≠ .done ∧ old.status ≠ .done ∧
          x ∈ dependentTaskIds db boardId dep.id) := by
  unfold reconcileTasks at h
  split at h
  · rename_i hreopened
    rw [Table.get?_updateWhere, Option.map_eq_some_iff] at h
    obtain ⟨old, hold, rfl⟩ := h
    simp only [decide_eq_true_eq]
    have hid : old.id = x := Table.key_of_get? hold
    refine ⟨old, hold, ?_⟩
    split
    · rename_i hreset
      exact .inr ⟨rfl, hreopened.1, hreopened.2, hreset.2.2.1, hid ▸ hreset.2.1⟩
    · rename_i hkeep
      refine .inl ⟨rfl, fun _ _ hboard hmem => ?_⟩
      by_cases hdone : old.status = .done
      · exact .inl hdone
      · have hrest : shouldReset old ≠ true := fun hs => hkeep ⟨hboard, hid ▸ hmem, hdone, hs⟩
        exact .inr (by simpa [shouldReset, AtRest, and_assoc] using hrest)
  · rename_i hsame
    refine ⟨new, h, .inl ⟨rfl, fun hprev hdep => absurd ⟨hprev, hdep⟩ hsame⟩⟩

theorem mem_dependentTaskIds {boardId depId : Uuid} : x ∈ dependentTaskIds db boardId depId ↔
      ∃ d ∈ db.dependencies, d.boardId = boardId ∧ d.dependsOnTaskId = depId ∧ d.taskId = x := by
  simp [dependentTaskIds, Table.mem_def, and_assoc]

theorem get?_reconcileTasks_self (hself : ∀ d ∈ db.dependencies, d.taskId ≠ d.dependsOnTaskId) {now : Time}
    {boardId : Uuid} {task : Task} {previousStatus : TaskStatus} (hfound : db.tasks.get? task.id = some task) :
    (reconcileTasks db now boardId task previousStatus).get? task.id = some task := by
  unfold reconcileTasks
  split
  · rw [Table.get?_updateWhere, hfound, Option.map_some, if_neg]
    simp only [decide_eq_true_eq]
    rintro ⟨-, hmem, -⟩
    obtain ⟨d, hd, -, hdep, hid⟩ := mem_dependentTaskIds.mp hmem
    exact hself d hd (hid.trans hdep.symm)
  · exact hfound

/-- After the cascade of a PATCH a row is there already, is the patched one, or is of a task the cascade takes back. -/
theorem taskChange_reconciled {actor : Actor} {payload : TaskUpdate} {ctx : ActorContext} {task task' : Task} {board : Board}
    {values : Table TaskCustomFieldValue} {tags : Table TagAssignment}
    {events : List ActivityEvent} (hop : request.op = .updateTask board.id task.id actor payload)
    (hactor : requireUserOrAgent db actor = .ok ctx) (htask : db.tasks.get? task.id = some task)
    (hon : task.boardId = some board.id) (hboard : db.boards.get? board.id = some board)
    (rules : PatchRules db { task, boardId := board.id, now := request.now, updates := payload } ctx dependencies task')
    (hself : ∀ d ∈ dependencies, d.taskId ≠ d.dependsOnTaskId)
    (hnew : (reconcileTasks (storedState db task' dependencies tags values) request.now board.id task'
      task.status).get? new.id = some new) :
    TaskChange db request { storedState db task' dependencies tags values with
      tasks := reconcileTasks (storedState db task' dependencies tags values) request.now board.id task' task.status
      events } new := by
  obtain ⟨old, hold, hcases⟩ := get?_reconcileTasks hnew
  have hpatched : request.op.patched? = some task.id := by rw [hop]; rfl
  rcases get?_put_cases htask rules.same.id hold with ⟨hid, rfl⟩ | ⟨hne, hold'⟩
  · rcases hcases with ⟨rfl, -⟩ | ⟨-, -, -, -, hmem⟩
    · exact .patched actor payload ctx task board hop hactor htask hon hboard rules
    · obtain ⟨d, hd, -, hdep, htaskId⟩ := mem_dependentTaskIds.mp hmem
      exact absurd (htaskId.trans (hid.trans (rules.same.id.symm.trans hdep.symm))) (hself d hd)
  · rcases hcases with ⟨rfl, -⟩ | ⟨rfl, hdone, hundone, hopen, hmem⟩
    · refine .unchanged hold' ?_
      rw [Operation.written?_of_patched? hpatched]
      exact fun he => hne (Option.some.inj he).symm
    · obtain ⟨d, hd, -, hdep, htaskId⟩ := mem_dependentTaskIds.mp hmem
      have hstored := get?_put_patched htask rules.same
      rw [← rules.same.id] at hstored
      have hreconciled : (reconcileTasks (storedState db task' dependencies tags values) request.now board.id task'
          task.status).get? task'.id = some task' := by
        apply get?_reconcileTasks_self
        · exact hself
        · exact hstored
      rw [rules.same.id] at hreconciled
      exact .cascaded task task' board hold' hopen ⟨hpatched, htask, hreconciled, hon, hdone, hundone⟩
        ⟨d, hd, htaskId, hdep.trans rules.same.id⟩

/-- **Every row of a committed state has a reason.** -/
theorem Commit.taskChange (h : Commit db request t) (hdb : WellFormed db) (hnew : t.tasks.get? x = some new) :
    TaskChange db request t new := by
  have ht := h.wellFormed hdb
  obtain rfl : new.id = x := Table.key_of_get? hnew
  cases h with
  | created board task payload deps tasks dependencies values tags events hop rules htasks hdeps =>
    have hget := Table.get?_insert? htasks new.id
    rw [show tasks.get? new.id = some new from hnew] at hget
    split at hget
    · obtain rfl := Option.some.inj hget
      refine .created board payload deps hop (Table.insert?_eq_some htasks).2 rules ?_
      intro d hd hid
      rcases (Table.mem_insertAll? hdeps d).mp hd with hold | hrow
      · exact .inl hold
      · exact .inr (mem_dependencyRows.mp hrow).2.2
    · rename_i hne
      refine .unchanged hget.symm ?_
      rw [Operation.written?_of_creation? hop]
      exact fun he => hne (Option.some.inj he).symm
  | patched actor payload ctx task task' board dependencies values tags events hop hactor htask hon hboard rules =>
    rcases get?_put_cases htask rules.same.id hnew with ⟨hid, rfl⟩ | ⟨hne, hold⟩
    · exact .patched actor payload ctx task board hop hactor htask hon hboard rules
    · refine .unchanged hold ?_
      rw [hop]
      exact fun he => hne (Option.some.inj he).symm
  | reconciled actor payload ctx task task' board dependencies values tags events hop hactor htask hon hboard
      rules =>
    exact taskChange_reconciled hop hactor htask hon hboard rules ht.noSelf hnew
  | deleted boardId taskId actor values tags events hop hruns =>
    rw [Table.get?_deleteWhere] at hnew
    obtain ⟨hold, -⟩ := Option.filter_eq_some_iff.mp hnew
    exact .unchanged hold (by rw [hop]; exact fun h => by cases h)
  | released agentId events hop =>
    obtain ⟨old, hold, hcases⟩ := released_cases hnew
    rcases hcases with rfl | ⟨hassigned, hstatus, rfl⟩ | rfl
    · exact .unchanged hold (by rw [hop]; exact fun h => by cases h)
    · exact .stopped agentId hop hold hassigned hstatus
    · exact .unassigned agentId hop hold
  | logged events hother => exact .unchanged hnew (by simp [hother])
  | approvalCreated boardId approvalId actor payload approval taskIds approvals links hop =>
    exact .unchanged hnew (by rw [hop]; exact fun h => by cases h)
  | approvalResolved boardId approvalId userId status approval target hop =>
    exact .unchanged hnew (by rw [hop]; exact fun h => by cases h)
  | runCreated board task run runs events hboard htask hfound hon hstatus hruns hother =>
    exact .unchanged hnew (by simp [hother])
  | runReported board task run payload tasks events hreport hrun htasks =>
    rcases htasks with ⟨-, rfl⟩ | ⟨moved, hmoved, rfl⟩
    · exact .unchanged hnew (by simp [hreport.written?])
    · obtain ⟨status, hstatus, hmoved⟩ := Option.bind_eq_some_iff.mp hmoved
      rcases get?_put_cases hreport.task_get? (callbackTask_same hmoved).id hnew with ⟨-, rfl⟩ | ⟨-, hold⟩
      · exact .reported run status board task (hstatus ▸ hreport) hrun hmoved
      · exact .unchanged hold (by simp [hreport.written?])
  | runCancelled run note events hrun hactive hother => exact .unchanged hnew (by simp [hother])
  | runEscalated scope runId note board task approval approvals links tasks events hop hscope hconflicts hpending
      hinsert hlinks htasks =>
    obtain ⟨-, -, -, htask, hid, -⟩ := getBoardAndTask_eq_ok hscope
    have hother : request.op.written? = none := by rw [hop]; rfl
    rcases htasks with rfl | ⟨hstatus, rfl⟩
    · exact .unchanged hnew (by simp [hother])
    · have hfound : db.tasks.get? task.id = some task := by rwa [hid]
      have hid' : (escalatedTask task request.now (boardLead db board.id)).id = task.id := rfl
      rcases get?_put_cases hfound hid' hnew with ⟨-, rfl⟩ | ⟨-, hold⟩
      · exact .escalated scope runId approval.id note board hop hscope hconflicts hstatus
      · exact .unchanged hold (by simp [hother])
  | runDispatched run texts task acceptance events hrun hdispatchable hother =>
    exact .unchanged hnew (by simp [hother])

/-! ## Tasks that wait -/

theorem Commit.dependency_cases (h : Commit db request t) {d : TaskDependency} (hd : d ∈ t.dependencies) :
    d ∈ db.dependencies ∨ request.op.written? = some d.taskId := by
  have hpatch : ∀ {update : TaskUpdateInput} {ctx : ActorContext} {dependencies : Table TaskDependency}
      {task' : Task}, PatchRules db update ctx dependencies task' → d ∈ dependencies →
      d ∈ db.dependencies ∨ d.taskId = update.task.id := by
    intro update ctx dependencies task' rules hd
    obtain ⟨_, deps, heff, -, -⟩ := rules.effective
    rcases effectiveDependencies_eq_ok heff with ⟨-, rfl, -⟩ | ⟨dependsOn, -, -, -, hwrite⟩
    · exact .inl hd
    · rcases (mem_writeTaskDependencies hwrite d).mp hd with ⟨hold, -⟩ | ⟨-, hid, -⟩
      · exact .inl hold
      · exact .inr hid
  cases h with
  | created board task payload deps tasks dependencies values tags events hop rules htasks hdeps =>
    rcases (Table.mem_insertAll? hdeps d).mp hd with hold | hnew
    · exact .inl hold
    · obtain ⟨-, hid, -⟩ := mem_dependencyRows.mp hnew
      exact .inr (hid ▸ Operation.written?_of_creation? hop)
  | patched actor payload ctx task task' board dependencies values tags events hop hactor htask hon hboard rules =>
    exact (hpatch rules hd).imp_right fun hid => by rw [hop, hid]; rfl
  | reconciled actor payload ctx task task' board dependencies values tags events hop hactor htask hon hboard
      rules =>
    exact (hpatch rules hd).imp_right fun hid => by rw [hop, hid]; rfl
  | deleted => exact .inl (Table.mem_deleteWhere.mp hd).1
  | released | logged | approvalCreated | approvalResolved | runCreated | runReported | runCancelled
  | runEscalated | runDispatched => exact .inl hd

theorem Commit.undone_cases (h : Commit db request t) (hdb : WellFormed db) (hnew : t.tasks.get? x = some new)
    (hopen : new.status ≠ .done) :
    (∃ old, db.tasks.get? x = some old ∧ old.status ≠ .done) ∨
      (∃ boardId payload, request.op.creation? = some (boardId, x, payload) ∧ db.tasks.get? x = none) ∨
      ∃ old board, Reopens db request t old new board ∧ old.id = x := by
  obtain rfl : new.id = x := Table.key_of_get? hnew
  cases h.taskChange hdb hnew with
  | unchanged hfound hother => exact .inl ⟨new, hfound, hopen⟩
  | created board payload deps hop hfresh rules hdeps => exact .inr (.inl ⟨_, _, hop, hfresh⟩)
  | patched actor payload ctx old board hop hactor hfound hon hboard rules =>
    by_cases hdone : old.status = .done
    · exact .inr (.inr ⟨old, board, ⟨by rw [hop]; rfl, hfound, rules.same.id ▸ hnew, hon, hdone, hopen⟩,
        rules.same.id.symm⟩)
    · exact .inl ⟨old, rules.same.id ▸ hfound, hdone⟩
  | @cascaded old dep dep' board hfound hold hreopens hdep => exact .inl ⟨old, hfound, hold⟩
  | @stopped old agentId hop hfound hassigned hstatus => exact .inl ⟨old, hfound, by simp [hstatus]⟩
  | @unassigned old agentId hop hfound => exact .inl ⟨old, hfound, hopen⟩
  | reported run status board old hreport hrun hmoved =>
    refine .inl ⟨old, (callbackTask_same hmoved).id ▸ hreport.task_get?, ?_⟩
    rcases callbackTask_eq_some hmoved with ⟨-, hauto, -⟩ | ⟨-, hauto, -⟩ <;>
    · intro hdone
      simp [canAutoTransitionTask, hdone] at hauto
  | @escalated scope runId approvalId note board old hop hscope hconflicts hstatus =>
    obtain ⟨-, -, -, htask, hid, -⟩ := getBoardAndTask_eq_ok hscope
    refine .inl ⟨old, ?_, ?_⟩
    · rw [← hid] at htask
      exact htask
    · rcases hstatus with hs | hs <;> simp [hs]

def ReopensDependency (db : Db) (request : Request) (t : Db) (taskId : Uuid) : Prop :=
  ∃ dep dep' board, Reopens db request t dep dep' board ∧
    ∃ d ∈ t.dependencies, d.taskId = taskId ∧ d.dependsOnTaskId = dep.id

theorem Commit.waits_cases (h : Commit db request t) (hdb : WellFormed db) (hwaits : Waits t x) :
    Waits db x ∨ request.op.written? = some x ∨ ReopensDependency db request t x := by
  obtain ⟨d, hd, rfl, dep, hdep, hopen⟩ := hwaits
  rcases h.dependency_cases hd with hold | hwrites
  · rcases h.undone_cases hdb hdep hopen with hundone | ⟨_, _, -, hfresh⟩ | ⟨old, board, hreopens, hid⟩
    · exact .inl ⟨d, hold, rfl, hundone⟩
    · obtain ⟨-, dep', hdep', -⟩ := hdb.dependencies d hold
      rw [hfresh] at hdep'
      cases hdep'
    · exact .inr (.inr ⟨old, dep, board, hreopens, d, hd, rfl, hid.symm⟩)
  · exact .inr (.inl hwrites)

theorem effective_of_mem (hdb : WellFormed db) (heff : effectiveDependencies search db update = .ok (dependencies, deps))
    (hfound : db.tasks.get? update.task.id = some update.task) (hon : update.task.boardId = some update.boardId)
    {d : TaskDependency} (hd : d ∈ dependencies) (hid : d.taskId = update.task.id) :
    d.dependsOnTaskId ∈ deps := by
  have hboard : d ∈ db.dependencies → d.boardId = update.boardId := by
    intro hold
    obtain ⟨⟨task, htask, honTask⟩, -⟩ := hdb.dependencies d hold
    rw [hid, hfound] at htask
    obtain rfl := Option.some.inj htask
    exact Option.some.inj (honTask.symm.trans hon)
  rcases effectiveDependencies_eq_ok heff with ⟨-, rfl, rfl⟩ | ⟨dependsOn, -, -, -, hwrite⟩
  · exact mem_taskDepIds.mpr ⟨d, hd, hboard hd, hid, rfl⟩
  · rcases (mem_writeTaskDependencies hwrite d).mp hd with ⟨hold, hother⟩ | ⟨-, -, hmem⟩
    · exact absurd ⟨hboard hold, hid⟩ hother
    · exact hmem

theorem mem_of_effective (heff : effectiveDependencies search db update = .ok (dependencies, deps)) {depId : Uuid}
    (hdep : depId ∈ deps) :
    ∃ d ∈ dependencies, d.taskId = update.task.id ∧ d.dependsOnTaskId = depId := by
  rcases effectiveDependencies_eq_ok heff with ⟨-, rfl, rfl⟩ | ⟨dependsOn, -, -, -, hwrite⟩
  · obtain ⟨d, hd, -, hid, hdepId⟩ := mem_taskDepIds.mp hdep
    exact ⟨d, hd, hid, hdepId⟩
  · exact ⟨{ boardId := update.boardId, taskId := update.task.id, dependsOnTaskId := depId },
      (mem_writeTaskDependencies hwrite _).mpr (.inr ⟨rfl, rfl, hdep⟩), rfl, rfl⟩

theorem effective_onBoard (hdb : WellFormed db) (heff : effectiveDependencies search db update = .ok (dependencies, deps)) :
    ∀ id ∈ deps, ∃ t, db.tasks.get? id = some t ∧ t.boardId = some update.boardId := by
  intro id hid
  rcases effectiveDependencies_eq_ok heff with ⟨-, rfl, rfl⟩ | ⟨dependsOn, -, -, hvalid, -⟩
  · obtain ⟨d, hd, hboard, -, rfl⟩ := mem_taskDepIds.mp hid
    exact hboard ▸ (hdb.dependencies d hd).2
  · exact (validateDependencyUpdate_eq_ok hvalid).2.2.1 id hid

theorem Commit.patch_blocked (h : Commit db request t) (hdb : WellFormed db) {ctx : ActorContext}
    (hop : request.op.patched? = some update.task.id) (rules : PatchRules db update ctx t.dependencies new)
    (hfound : db.tasks.get? update.task.id = some update.task) (hon : update.task.boardId = some update.boardId)
    (hwaits : Waits t update.task.id) : BlockedOutcome update ctx new := by
  obtain ⟨_, deps, heff, -, hblocked⟩ := rules.effective
  refine hblocked.resolve_left ?_
  obtain ⟨d, hd, hid, dep, hdep, hopen⟩ := hwaits
  rw [← Ne, taskBlockedIds_ne_nil_of_tasks (effective_onBoard hdb heff)]
  refine ⟨d.dependsOnTaskId, effective_of_mem hdb heff hfound hon hd hid, ?_⟩
  rcases h.undone_cases hdb hdep hopen with hundone | ⟨_, _, hcreated, -⟩ | ⟨old, board, hreopens, hdid⟩
  · exact hundone
  · rw [Operation.patched?_of_creation? hcreated] at hop
    cases hop
  · -- The PATCHed task does not depend on itself.
    have hsame := Option.some.inj (hop.symm.trans hreopens.op)
    exact absurd (hid.trans (hsame.trans hdid)) ((h.wellFormed hdb).noSelf d hd)

theorem Commit.created_blocked (h : Commit db request t) (hdb : WellFormed db) {board : Board} {payload : TaskCreate}
    (hop : request.op.creation? = some (board.id, new.id, payload)) (hfresh : db.tasks.get? new.id = none)
    (rules : NewTaskRules db board new payload deps)
    (hdeps : ∀ d ∈ t.dependencies, d.taskId = new.id → d ∈ db.dependencies ∨ d.dependsOnTaskId ∈ deps)
    (hwaits : Waits t new.id) : AtRest new := by
  refine (fun hrest => ⟨hrest.2, hrest.1, rules.notStarted⟩) (rules.blocked.resolve_left ?_)
  obtain ⟨d, hd, hid, dep, hdep, hopen⟩ := hwaits
  obtain ⟨_, hvalid⟩ := rules.valid
  obtain ⟨-, -, htasks, -⟩ := validateDependencyUpdate_eq_ok hvalid
  rw [← Ne, taskBlockedIds_ne_nil_of_tasks htasks]
  rcases hdeps d hd hid with hold | hmem
  · obtain ⟨⟨task, htask, -⟩, -⟩ := hdb.dependencies d hold
    rw [hid, hfresh] at htask
    cases htask
  · refine ⟨d.dependsOnTaskId, hmem, ?_⟩
    rcases h.undone_cases hdb hdep hopen with hundone | ⟨_, _, hcreated, -⟩ | ⟨old, board', hreopens, -⟩
    · exact hundone
    · rw [hop] at hcreated
      have hsame := congrArg (fun c => c.2.1) (Option.some.inj hcreated)
      exact absurd (hid.trans hsame) ((h.wellFormed hdb).noSelf d hd)
    · have hpatched := hreopens.op
      rw [Operation.patched?_of_creation? hop] at hpatched
      cases hpatched

end SiloForge
