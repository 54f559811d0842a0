import SiloForge.System.Commit

/-!
# Rows that fit together

A dependency row joins two different tasks of its board, and a run belongs to a task of its board. The
endpoints rely on it when they look dependencies and approvals up by board.

* `WellFormed` : the invariant; `Commit.wellFormed` : every request keeps it;
* `KeepsTasks` : tasks that are not deleted stay on their board.
-/

namespace SiloForge

open Lib

/-- Rows refer to tasks of their own board, and no task depends on itself. -/
structure WellFormed (db : Db) : Prop where
  dependencies : DependenciesOnBoard db
  noSelf : ∀ d ∈ db.dependencies, d.taskId ≠ d.dependsOnTaskId
  runs : ∀ run ∈ db.runs, ∃ t, db.tasks.get? run.taskId = some t ∧ t.boardId = some run.boardId

/-! ## Tasks that stay -/

def KeepsTasks (tasks tasks' : Table Task) : Prop :=
  ∀ id t, tasks.get? id = some t → ∃ t', tasks'.get? id = some t' ∧ t'.boardId = t.boardId

namespace KeepsTasks

theorem refl (tasks : Table Task) : KeepsTasks tasks tasks := fun _ t h => ⟨t, h, rfl⟩

theorem trans {a b c : Table Task} (h₁ : KeepsTasks a b) (h₂ : KeepsTasks b c) : KeepsTasks a c := by
  intro id t ht
  obtain ⟨t₁, ht₁, hb₁⟩ := h₁ id t ht
  obtain ⟨t₂, ht₂, hb₂⟩ := h₂ id t₁ ht₁
  exact ⟨t₂, ht₂, hb₂.trans hb₁⟩

variable {tasks : Table Task}

theorem put {task task' : Task} (hfound : tasks.get? task.id = some task) (hsame : SameTask task task') :
    KeepsTasks tasks (tasks.put task') := by
  intro id t ht
  rw [Table.get?_put]
  split
  · rename_i hid
    rw [show id = task.id from hid.trans hsame.id, hfound] at ht
    obtain rfl := Option.some.inj ht
    refine ⟨task', ?_, hsame.boardId⟩
    rw [show id = task.id from hid.trans hsame.id, hfound, Option.map_some]
  · exact ⟨t, ht, rfl⟩

theorem updateWhere {p : Task → Bool} {f : Task → Task} {hf} (hboard : ∀ t, (f t).boardId = t.boardId) :
    KeepsTasks tasks (tasks.updateWhere p f hf) := by
  intro id t ht
  refine ⟨if p t then f t else t, ?_, ?_⟩
  · rw [Table.get?_updateWhere, ht, Option.map_some]
  · split
    · exact hboard t
    · rfl

theorem insert {tasks' : Table Task} {task : Task} (h : tasks.insert? task = some tasks') :
    KeepsTasks tasks tasks' := by
  intro id t ht
  rw [Table.get?_insert? h]
  split
  · rename_i hid
    rw [hid, (Table.insert?_eq_some h).2] at ht
    cases ht
  · exact ⟨t, ht, rfl⟩

theorem reconcile (db : Db) (now : Time) (boardId : Uuid) (task : Task) (previousStatus : TaskStatus) :
    KeepsTasks db.tasks (reconcileTasks db now boardId task previousStatus) := by
  unfold reconcileTasks
  split
  · exact updateWhere fun _ => rfl
  · exact refl _

theorem release (tasks : Table Task) (now : Time) (agentId : Uuid) :
    KeepsTasks tasks (releaseAgentTasks tasks now agentId) := by
  unfold releaseAgentTasks
  refine trans (updateWhere ?_) (updateWhere ?_) <;> exact fun _ => rfl

end KeepsTasks

/-! ## Keeping the invariant -/

def FitsTasks (tasks : Table Task) (d : TaskDependency) : Prop :=
  (∃ t, tasks.get? d.taskId = some t ∧ t.boardId = some d.boardId) ∧
    (∃ t, tasks.get? d.dependsOnTaskId = some t ∧ t.boardId = some d.boardId) ∧ d.taskId ≠ d.dependsOnTaskId

variable {tasks tasks' : Table Task} {d : TaskDependency} {db : Db} {task : Task} {run : TaskExecutionRun}
  {board : Board} {status : Option ExecutionRunStatus}

theorem FitsTasks.keeps (hkeep : KeepsTasks tasks tasks') (h : FitsTasks tasks d) : FitsTasks tasks' d := by
  obtain ⟨⟨t, ht, hb⟩, ⟨u, hu, hc⟩, hne⟩ := h
  obtain ⟨t', ht', hb'⟩ := hkeep _ _ ht
  obtain ⟨u', hu', hc'⟩ := hkeep _ _ hu
  exact ⟨⟨t', ht', hb'.trans hb⟩, ⟨u', hu', hc'.trans hc⟩, hne⟩

theorem WellFormed.fits (hdb : WellFormed db) (hd : d ∈ db.dependencies) : FitsTasks db.tasks d :=
  ⟨(hdb.dependencies d hd).1, (hdb.dependencies d hd).2, hdb.noSelf d hd⟩

/-- Where the tasks stay, new dependency rows fit and runs keep their task, the invariant stays. -/
theorem WellFormed.of_keeps {t : Db} (hdb : WellFormed db) (hkeep : KeepsTasks db.tasks t.tasks)
    (hdeps : ∀ d ∈ t.dependencies, d ∈ db.dependencies ∨ FitsTasks t.tasks d)
    (hruns : ∀ run ∈ t.runs, (∃ run' ∈ db.runs, run.taskId = run'.taskId ∧ run.boardId = run'.boardId) ∨
      ∃ task, t.tasks.get? run.taskId = some task ∧ task.boardId = some run.boardId) : WellFormed t := by
  have hfits : ∀ d ∈ t.dependencies, FitsTasks t.tasks d := by
    intro d hd
    rcases hdeps d hd with hold | hnew
    · exact (hdb.fits hold).keeps hkeep
    · exact hnew
  refine ⟨fun d hd => ⟨(hfits d hd).1, (hfits d hd).2.1⟩, fun d hd => (hfits d hd).2.2, ?_⟩
  intro run hrun
  rcases hruns run hrun with ⟨run', hrun', htask, hboard⟩ | hnew
  · obtain ⟨task, hget, hon⟩ := hdb.runs run' hrun'
    obtain ⟨task', hget', hon'⟩ := hkeep _ _ hget
    exact ⟨task', htask ▸ hget', (hon'.trans hon).trans (congrArg some hboard.symm)⟩
  · exact hnew

theorem fitsTasks_of_valid {search : CycleSearch} {boardId taskId : Uuid} {dependsOn deps : List Uuid}
    (hvalid : validateDependencyUpdate search db boardId taskId dependsOn = .ok deps)
    (htask : tasks'.get? taskId = some task) (hon : task.boardId = some boardId)
    (hkeep : KeepsTasks db.tasks tasks') (hboard : d.boardId = boardId)
    (hid : d.taskId = taskId) (hdep : d.dependsOnTaskId ∈ deps) : FitsTasks tasks' d := by
  obtain ⟨-, hself, htasks, -⟩ := validateDependencyUpdate_eq_ok hvalid
  obtain ⟨dep, hget, honDep⟩ := htasks _ hdep
  obtain ⟨dep', hget', honDep'⟩ := hkeep _ _ hget
  subst hboard hid
  refine ⟨⟨task, htask, hon⟩, ⟨dep', hget', honDep'.trans honDep⟩, fun h => hself ?_⟩
  rw [h]
  exact hdep

theorem patch_dependencies {update : TaskUpdateInput} {actor : ActorContext} {dependencies : Table TaskDependency}
    {task' : Task} (hrules : PatchRules db update actor dependencies task')
    (hon : update.task.boardId = some update.boardId) (hfound : tasks'.get? update.task.id = some task')
    (hkeep : KeepsTasks db.tasks tasks') :
    ∀ d ∈ dependencies, d ∈ db.dependencies ∨ FitsTasks tasks' d := by
  obtain ⟨_, effectiveDeps, heff, -, -⟩ := hrules.effective
  intro d hd
  rcases effectiveDependencies_eq_ok heff with ⟨-, rfl, -⟩ | ⟨dependsOn, -, -, hvalid, hwrite⟩
  · exact .inl hd
  · rcases (mem_writeTaskDependencies hwrite d).mp hd with ⟨hold, -⟩ | ⟨hboard, hid, hdep⟩
    · exact .inl hold
    · exact .inr (fitsTasks_of_valid hvalid hfound (hrules.same.boardId.trans hon) hkeep hboard hid hdep)

theorem get?_put_patched {task' : Task} (hfound : tasks.get? task.id = some task) (hsame : SameTask task task') :
    (tasks.put task').get? task.id = some task' := by
  rw [Table.get?_put, if_pos (show task.id = key task' from hsame.id.symm), hfound, Option.map_some]

theorem runs_put {runs : Table TaskExecutionRun} (run' : TaskExecutionRun) (hrun : runs.get? run.id = some run)
    (htask : run'.taskId = run.taskId) (hboard : run'.boardId = run.boardId) :
    ∀ r ∈ runs.put run', ∃ r' ∈ runs, r.taskId = r'.taskId ∧ r.boardId = r'.boardId := by
  intro r hr
  obtain ⟨r', hr', rfl⟩ := Table.mem_updateWhere.mp hr
  split
  · exact ⟨run, Table.mem_of_get? hrun, htask, hboard⟩
  · exact ⟨r', hr', rfl, rfl⟩

theorem callbackTask_same {now : Time} {moved : Task} {status : ExecutionRunStatus}
    (h : callbackTask db now board task status = some moved) :
    SameTask task moved := by
  rcases callbackTask_eq_some h with ⟨-, -, rfl⟩ | ⟨-, -, rfl⟩ <;> exact ⟨rfl, rfl⟩

theorem ReportsTo.task_get? {op : Operation} (h : ReportsTo db op run status board task) :
    db.tasks.get? task.id = some task := by
  cases h with
  | callback hrun htask hboard =>
    rw [show task.id = run.taskId from Table.key_of_get? htask]
    exact htask
  | patch hscope hrun =>
    obtain ⟨-, -, -, htask, hid, -⟩ := getBoardAndTask_eq_ok hscope
    rw [hid]
    exact htask

theorem ReportsTo.onBoard {op : Operation} (h : ReportsTo db op run status board task) (hdb : WellFormed db) :
    db.boards.get? board.id = some board ∧ task.boardId = some board.id := by
  cases h with
  | callback hrun htask hboard =>
    have hid : board.id = run.boardId := Table.key_of_get? hboard
    obtain ⟨task', htask', hon⟩ := hdb.runs run (Table.mem_of_get? hrun)
    rw [htask] at htask'
    obtain rfl := Option.some.inj htask'
    exact ⟨hid ▸ hboard, hid ▸ hon⟩
  | patch hscope hrun =>
    obtain ⟨hboard, hid, -, -, -, hon⟩ := getBoardAndTask_eq_ok hscope
    exact ⟨hid ▸ hboard, hon⟩

theorem TasksAfterReport.keeps {now : Time} (hfound : db.tasks.get? task.id = some task)
    (h : TasksAfterReport db now board task status tasks) : KeepsTasks db.tasks tasks := by
  rcases h with ⟨-, rfl⟩ | ⟨moved, hmoved, rfl⟩
  · exact .refl _
  · obtain ⟨s, -, hs⟩ := Option.bind_eq_some_iff.mp hmoved
    exact .put hfound (callbackTask_same hs)

/-- **Requests keep the rows fitting together.** -/
theorem Commit.wellFormed {t : Db} {request : Request} (h : Commit db request t) (hdb : WellFormed db) :
    WellFormed t := by
  have hsameRuns : ∀ run ∈ db.runs,
      ∃ run' ∈ db.runs, run.taskId = run'.taskId ∧ run.boardId = run'.boardId :=
    fun run hrun => ⟨run, hrun, rfl, rfl⟩
  cases h with
  | created board task payload deps tasks dependencies values tags events hop rules htasks hdeps =>
    have hkeep := KeepsTasks.insert htasks
    refine hdb.of_keeps hkeep ?_ fun run hrun => .inl (hsameRuns run hrun)
    intro d hd
    rcases (Table.mem_insertAll? hdeps d).mp hd with hold | hnew
    · exact .inl hold
    · obtain ⟨hboard, hid, hdep⟩ := mem_dependencyRows.mp hnew
      obtain ⟨_, hvalid⟩ := rules.valid
      refine .inr (fitsTasks_of_valid hvalid ?_ rules.onBoard hkeep hboard hid hdep)
      exact (Table.get?_insert? htasks task.id).trans (if_pos rfl)
  | patched actor payload ctx task task' board dependencies values tags events hop hactor htask hon hboard rules =>
    have hkeep := KeepsTasks.put htask rules.same
    exact hdb.of_keeps hkeep (patch_dependencies rules hon (get?_put_patched htask rules.same) hkeep)
      fun run hrun => .inl (hsameRuns run hrun)
  | reconciled actor payload ctx task task' board dependencies values tags events hop hactor htask hon hboard
      rules =>
    have hkeep := KeepsTasks.put htask rules.same
    have hkeep' := KeepsTasks.reconcile (storedState db task' dependencies tags values) request.now board.id task'
      task.status
    refine hdb.of_keeps (hkeep.trans hkeep') ?_ fun run hrun => .inl (hsameRuns run hrun)
    intro d hd
    exact (patch_dependencies rules hon (get?_put_patched htask rules.same) hkeep d hd).imp_right
      fun hfits => hfits.keeps hkeep'
  | deleted boardId taskId actor values tags events hop hruns =>
    have hget : ∀ id, id ≠ taskId → ∀ t, db.tasks.get? id = some t →
        (db.tasks.deleteWhere fun t => t.id = taskId).get? id = some t := by
      intro id hne t ht
      rw [Table.get?_deleteWhere, ht]
      have hid : t.id ≠ taskId := fun h => hne ((Table.key_of_get? ht).symm.trans h)
      simp [hid]
    refine ⟨?_, ?_, ?_⟩
    · intro d hd
      obtain ⟨hd, hout⟩ := Table.mem_deleteWhere.mp hd
      simp only [decide_eq_false_iff_not, not_or] at hout
      obtain ⟨⟨t, ht, hb⟩, u, hu, hc⟩ := hdb.dependencies d hd
      exact ⟨⟨t, hget _ hout.1 t ht, hb⟩, u, hget _ hout.2 u hu, hc⟩
    · intro d hd
      exact hdb.noSelf d (Table.mem_deleteWhere.mp hd).1
    · intro run hrun
      obtain ⟨t, ht, hb⟩ := hdb.runs run hrun
      exact ⟨t, hget _ (hruns run hrun) t ht, hb⟩
  | released agentId events hop =>
    exact hdb.of_keeps (KeepsTasks.release _ _ _) (fun d hd => .inl hd) fun run hrun => .inl (hsameRuns run hrun)
  | logged events hother => exact ⟨hdb.dependencies, hdb.noSelf, hdb.runs⟩
  | approvalCreated => exact ⟨hdb.dependencies, hdb.noSelf, hdb.runs⟩
  | approvalResolved => exact ⟨hdb.dependencies, hdb.noSelf, hdb.runs⟩
  | runCreated board task run runs events hboard htask hfound hon hstatus hruns hother =>
    refine hdb.of_keeps (.refl _) (fun d hd => .inl hd) ?_
    intro r hr
    rcases (Table.mem_insert? hruns).mp hr with hold | rfl
    · exact .inl (hsameRuns r hold)
    · exact .inr ⟨task, htask ▸ hfound, hboard ▸ hon⟩
  | runReported board task run payload tasks events hreport hrun htasks =>
    exact hdb.of_keeps (htasks.keeps hreport.task_get?) (fun d hd => .inl hd)
      fun r hr => .inl (runs_put (run.reported request.now payload) hrun rfl rfl r hr)
  | runCancelled run note events hrun hactive hother =>
    exact hdb.of_keeps (.refl _) (fun d hd => .inl hd)
      fun r hr => .inl (runs_put (run.reported request.now (cancelReport note)) hrun rfl rfl r hr)
  | runEscalated scope runId note board task approval approvals links tasks events hop hscope hconflicts hpending
      hinsert hlinks htasks =>
    obtain ⟨-, -, -, htask, hid, -⟩ := getBoardAndTask_eq_ok hscope
    have hkeep : KeepsTasks db.tasks tasks := by
      rcases htasks with rfl | ⟨-, rfl⟩
      · exact .refl _
      · have hfound : db.tasks.get? task.id = some task := hid ▸ htask
        exact .put hfound ⟨rfl, rfl⟩
    exact hdb.of_keeps hkeep (fun d hd => .inl hd) fun run hrun => .inl (hsameRuns run hrun)
  | runDispatched run texts task acceptance events hrun hdispatchable hother =>
    exact hdb.of_keeps (.refl _) (fun d hd => .inl hd)
      fun r hr => .inl (runs_put (run.dispatched texts task request.now acceptance) hrun rfl rfl r hr)

theorem wellFormed_of_empty (hdeps : db.dependencies = ∅) (hruns : db.runs = ∅) : WellFormed db where
  dependencies d hd := by simp [hdeps] at hd
  noSelf d hd := by simp [hdeps] at hd
  runs run hrun := by simp [hruns] at hrun

theorem wellFormed_next (env : Env) (hdb : WellFormed db) (request : Request) :
    WellFormed ((machine env).next db request) :=
  (machine env).next_of_each hdb fun _ ht => (commit_of_mem ht).wellFormed hdb

/-- **The run rule**: what every request that satisfies `P` commits in a well-formed state, requests that
satisfy it commit along a run. -/
theorem along_each {env : Env} {P : Db → Request → Prop} {Q : Db → Request → Db → Prop}
    (step : ∀ s request t, WellFormed s → P s request → Commit s request t → Q s request t) {requests : List Request}
    (hdb : WellFormed db) (h : (machine env).Along P db requests) :
    (machine env).Along ((machine env).Each Q) db requests :=
  Machine.Along.of_inv WellFormed (fun _ request hs _ => wellFormed_next env hs request)
    (fun s request hs hP t ht => step s request t hs hP (commit_of_mem ht)) hdb h

end SiloForge
