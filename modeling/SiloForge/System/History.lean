import SiloForge.System.RunTimes
import SiloForge.System.WellFormed

/-!
# What requests leave alone

No request deletes a run or changes what it is about, and while a task has a run it is neither deleted nor moved to another
board. What is requested of one board leaves the tasks of the others and their dependencies as they were.

* `recordsStay` : they stay, with their tasks, whatever is requested;
* `Request.concerns`, `SameBoard` : the requests that may change a board's tasks, and a board that is the same;
* `boardStays` : without such requests it stays the same.
-/

namespace SiloForge

open Lib

variable {db t : Db} {request : Request} {boardId : Uuid}

/-! ## Runs -/

/-- What a run is about, and who asked for it when. -/
def TaskExecutionRun.identity (run : TaskExecutionRun) :=
  (run.organizationId, run.boardId, run.taskId, run.siloId, run.roleSlug, run.requestedByUserId,
    run.requestedByAgentId, run.createdAt)

def RunsStay (s t : Db) : Prop :=
  ∀ id run, s.runs.get? id = some run → ∃ run', t.runs.get? id = some run' ∧ run'.identity = run.identity

theorem RunsStay.trans {r s t : Db} (h : RunsStay r s) (h' : RunsStay s t) : RunsStay r t := by
  intro id run hrun
  obtain ⟨run', hrun', hsame⟩ := h id run hrun
  obtain ⟨run'', hrun'', hsame'⟩ := h' id run' hrun'
  exact ⟨run'', hrun'', hsame'.trans hsame⟩

theorem RunsStay.put {run run' : TaskExecutionRun} (hruns : t.runs = db.runs.put run')
    (hget : db.runs.get? run.id = some run) (hid : run'.id = run.id) (hsame : run'.identity = run.identity) :
    RunsStay db t := by
  intro id old hold
  rw [hruns, Table.get?_put, hold]
  split
  · rename_i hkey
    obtain rfl : old = run := Option.some.inj (hold.symm.trans ((hkey.trans hid) ▸ hget))
    exact ⟨run', rfl, hsame⟩
  · exact ⟨old, rfl, rfl⟩

theorem RunChange.runsStay (h : RunChange db request t) : RunsStay db t := by
  cases h with
  | kept hruns => exact fun id run hrun => ⟨run, hruns ▸ hrun, rfl⟩
  | created run hstatus hstarted hcompleted hinsert =>
    intro id old hold
    have hmem := (Table.mem_insert? hinsert).mpr (.inl (Table.mem_of_get? hold))
    exact ⟨old, Table.get?_eq_some.mpr ⟨hmem, Table.key_of_get? hold⟩, rfl⟩
  | reported run payload hop hget hruns => exact .put hruns hget rfl rfl
  | dispatched run texts task acceptance hop hget hdispatchable hruns => exact .put hruns hget rfl rfl

/-- **Records stay**: in every state that requests lead to, rows belong to tasks of their board, each run is there and about
the same, and so is its task, on the same board. -/
theorem recordsStay {env : Env} {requests : List Request} (hdb : WellFormed db) :
    ∀ t ∈ (machine env).committed db requests, WellFormed t ∧ ∀ run ∈ db.runs, ∃ run' ∈ t.runs, ∃ task ∈ t.tasks,
      run'.id = run.id ∧ run'.identity = run.identity ∧ task.id = run.taskId ∧ task.boardId = some run.boardId := by
  have hstays : ∀ t ∈ (machine env).committed db requests, WellFormed t ∧ RunsStay db t :=
    Machine.committed_inv (P := fun _ _ => True) (fun t => WellFormed t ∧ RunsStay db t)
      (fun s request hs _ t ht => ⟨(commit_of_mem ht).wellFormed hs.1, hs.2.trans (runChange_of_mem ht).runsStay⟩)
      ⟨hdb, fun id run hrun => ⟨run, hrun, rfl⟩⟩ (Machine.along_of_forall (fun _ _ => trivial) db requests)
  intro t ht
  obtain ⟨hfit, hruns⟩ := hstays t ht
  refine ⟨hfit, fun run hrun => ?_⟩
  obtain ⟨run', hrun', hsame⟩ := hruns run.id run (Table.get?_key hrun)
  obtain ⟨hmem, hid⟩ := Table.get?_eq_some.mp hrun'
  obtain ⟨task, htask, hon⟩ := hfit.runs run' hmem
  have habout : run'.taskId = run.taskId ∧ run'.boardId = run.boardId := by
    simp only [TaskExecutionRun.identity, Prod.mk.injEq] at hsame
    exact ⟨hsame.2.2.1, hsame.2.1⟩
  obtain ⟨htask', hkey⟩ := Table.get?_eq_some.mp htask
  exact ⟨run', hmem, task, htask', hid, hsame, hkey.trans habout.1, hon.trans (congrArg some habout.2)⟩

/-! ## Boards -/

def Operation.boardId? : Operation → Option Uuid
  | .createTask boardId .. | .createTaskAsLead boardId .. | .updateTask boardId .. | .deleteTask boardId ..
  | .createTaskComment boardId .. | .createApproval boardId .. | .updateApproval boardId ..
  | .dispatchRun _ boardId .. => some boardId
  | .createRun scope .. | .retryRun scope .. | .updateRun scope .. | .cancelRun scope .. | .acknowledgeRun scope ..
  | .escalateRun scope .. => some scope.boardId
  | .callback .. | .deleteAgent .. => none

/-- The request is addressed to the board, reports on one of its runs, or deletes an agent that one of its tasks is
assigned to. -/
def Request.concerns (request : Request) (db : Db) (boardId : Uuid) : Bool :=
  match request.op with
  | .callback runId _ => (db.runs.get? runId).any (·.boardId = boardId)
  | .deleteAgent agentId =>
    db.tasks.rows.any fun task => task.boardId = some boardId ∧ task.assignedAgentId = some agentId
  | op => op.boardId? = some boardId

structure SameBoard (boardId : Uuid) (s t : Db) : Prop where
  tasks : Table.AgreeOn (fun task : Task => task.boardId = some boardId) s.tasks t.tasks
  dependencies : Table.AgreeOn (fun d : TaskDependency => d.boardId = boardId) s.dependencies t.dependencies

theorem concerns_of_creation? {taskId : Uuid} {payload : TaskCreate}
    (h : request.op.creation? = some (boardId, taskId, payload)) (db : Db) : request.concerns db boardId = true := by
  obtain ⟨now, op⟩ := request
  cases op <;> cases h <;> exact decide_eq_true rfl

theorem ReportsTo.concerns {run : TaskExecutionRun} {status : Option ExecutionRunStatus} {board : Board} {task : Task}
    (h : ReportsTo db request.op run status board task) : request.concerns db board.id = true := by
  obtain ⟨now, op⟩ := request
  cases h with
  | callback hrun htask hboard =>
    show (db.runs.get? _).any _ = true
    rw [hrun, Option.any_some, show board.id = run.boardId from Table.key_of_get? hboard]
    exact decide_eq_true rfl
  | patch hscope hrun => exact decide_eq_true (congrArg some (getBoardAndTask_eq_ok hscope).2.1.symm)

theorem agreeOn_put {board : Board} {task task' : Task} (hne : board.id ≠ boardId)
    (hfound : db.tasks.get? task.id = some task) (hon : task.boardId = some board.id) (hsame : SameTask task task') :
    Table.AgreeOn (fun task : Task => task.boardId = some boardId) db.tasks (db.tasks.put task') := by
  have hnot : task.boardId ≠ some boardId := fun h => hne (Option.some.inj (hon.symm.trans h))
  exact .put (show db.tasks.get? task'.id = _ from hsame.id ▸ hfound) hnot (hsame.boardId ▸ hnot)

theorem PatchRules.dependencies_agreeOn {update : TaskUpdateInput} {ctx : ActorContext}
    {dependencies : Table TaskDependency} {task' : Task} (rules : PatchRules db update ctx dependencies task')
    (hne : update.boardId ≠ boardId) :
    Table.AgreeOn (fun d : TaskDependency => d.boardId = boardId) db.dependencies dependencies := by
  obtain ⟨_, deps, heff, -, -⟩ := rules.effective
  rcases effectiveDependencies_eq_ok heff with ⟨-, rfl, -⟩ | ⟨dependsOn, -, -, -, hwrite⟩
  · exact .refl _
  · intro d hd
    have hother : d.boardId ≠ update.boardId := fun h => hne (h.symm.trans hd)
    rw [mem_writeTaskDependencies hwrite]
    simp [hother]

theorem deleteTask_onBoard {taskId : Uuid} {actor : Actor} (h : deleteTask db boardId taskId actor = .ok t) :
    ∃ task, db.tasks.get? taskId = some task ∧ task.boardId = some boardId := by
  simp only [deleteTask, bind_eq_ok] at h
  obtain ⟨ctx, -, board, hboard, task, htask, -⟩ := h
  obtain ⟨hget, -, hon⟩ := getTaskOr404_eq_ok htask
  exact ⟨task, hget, (getBoardForActor_eq_ok hboard).2 ▸ hon⟩

/-- **One request** that does not concern a board leaves it as it was. -/
theorem sameBoard_of_mem {env : Env} (hdb : WellFormed db) (ht : t ∈ (machine env).commits db request)
    (hother : request.concerns db boardId = false) : SameBoard boardId db t := by
  have hne : ∀ {id : Uuid}, request.concerns db id = true → id ≠ boardId := by
    rintro id hconcerns rfl
    rw [hother] at hconcerns
    cases hconcerns
  cases commit_of_mem ht with
  | created board task payload deps tasks dependencies values tags events hop rules htasks hdeps =>
    have hne := hne (concerns_of_creation? hop db)
    refine ⟨.insert htasks fun h => hne (Option.some.inj (rules.onBoard.symm.trans h)), .insertAll hdeps fun d hd h => ?_⟩
    exact hne ((mem_dependencyRows.mp hd).1.symm.trans h)
  | patched actor payload ctx task task' board dependencies values tags events hop hactor htask hon hboard rules =>
    have hne : board.id ≠ boardId := hne (by rw [Request.concerns, hop]; exact decide_eq_true rfl)
    exact ⟨agreeOn_put hne htask hon rules.same, rules.dependencies_agreeOn hne⟩
  | reconciled actor payload ctx task task' board dependencies values tags events hop hactor htask hon hboard rules =>
    have hne : board.id ≠ boardId := hne (by rw [Request.concerns, hop]; exact decide_eq_true rfl)
    refine ⟨(agreeOn_put hne htask hon rules.same).trans ?_, rules.dependencies_agreeOn hne⟩
    dsimp only [reconcileTasks]
    split
    · refine .updateWhere fun r _ hr => ?_
      have hon : r.boardId = some board.id := (of_decide_eq_true hr).1
      have hnot : r.boardId ≠ some boardId := fun h => hne (Option.some.inj (hon.symm.trans h))
      exact ⟨hnot, hnot⟩
    · exact .refl _
  | deleted onBoard taskId actor values tags events hop hruns =>
    obtain ⟨now, op⟩ := request
    cases hop
    obtain ⟨task, hget, hon⟩ := deleteTask_onBoard (Response.mem_single.mp ht)
    have hne : onBoard ≠ boardId := hne (decide_eq_true rfl)
    have hnot : task.boardId ≠ some boardId := fun h => hne (Option.some.inj (hon.symm.trans h))
    refine ⟨.deleteWhere fun r hr hid h => ?_, .deleteWhere fun d hd hnames h => ?_⟩
    · obtain rfl := Table.eq_of_key_eq hr (Table.mem_of_get? hget)
        ((of_decide_eq_true hid).trans (Table.key_of_get? hget).symm)
      exact hnot h
    · -- the tasks of a dependency are on its board
      obtain ⟨⟨x, hx, hxon⟩, y, hy, hyon⟩ := hdb.dependencies d hd
      rcases of_decide_eq_true hnames with hid | hid
      · rw [hid, hget] at hx
        obtain rfl := Option.some.inj hx
        exact hnot (h ▸ hxon)
      · rw [hid, hget] at hy
        obtain rfl := Option.some.inj hy
        exact hnot (h ▸ hyon)
  | released agentId events hop =>
    have hfree : ∀ r ∈ db.tasks, r.assignedAgentId = some agentId → r.boardId ≠ some boardId := by
      intro r hr hassigned hon
      rw [Request.concerns, hop] at hother
      exact List.any_eq_false.mp hother r hr (decide_eq_true ⟨hon, hassigned⟩)
    refine ⟨?_, .refl _⟩
    dsimp only [releaseAgentTasks]
    refine .trans (.updateWhere fun r hr hq => ?_) (.updateWhere fun r hr hq => ?_)
    · exact ⟨hfree r hr (of_decide_eq_true hq).1, hfree r hr (of_decide_eq_true hq).1⟩
    · obtain ⟨r', hr', rfl⟩ := Table.mem_updateWhere.mp hr
      split at hq
      · cases (of_decide_eq_true hq).1
      · rename_i hsame
        rw [if_neg hsame]
        exact ⟨hfree r' hr' (of_decide_eq_true hq).1, hfree r' hr' (of_decide_eq_true hq).1⟩
  | runReported board task run payload tasks events hreport hrun htasks =>
    refine ⟨?_, .refl _⟩
    rcases htasks with ⟨-, rfl⟩ | ⟨moved, hmoved, rfl⟩
    · exact .refl _
    · obtain ⟨status, -, hmoved⟩ := Option.bind_eq_some_iff.mp hmoved
      exact agreeOn_put (hne hreport.concerns) hreport.task_get? (hreport.onBoard hdb).2 (callbackTask_same hmoved)
  | runEscalated scope runId note board task approval approvals links tasks events hop hscope hconflicts hpending hinsert
      hlinks htasks =>
    refine ⟨?_, .refl _⟩
    rcases htasks with rfl | ⟨-, rfl⟩
    · exact .refl _
    · obtain ⟨-, hid, -, htask, htaskId, hon⟩ := getBoardAndTask_eq_ok hscope
      have hne : board.id ≠ boardId := hne (by rw [Request.concerns, hop, hid]; exact decide_eq_true rfl)
      exact agreeOn_put hne (htaskId ▸ htask) hon ⟨rfl, rfl⟩
  | _ => exact ⟨.refl _, .refl _⟩

/-- **Boards apart**: a run of requests none of which concerns a board leaves its tasks and dependencies as they were. -/
theorem boardStays {env : Env} {requests : List Request} (hdb : WellFormed db)
    (h : (machine env).Along (fun s request => request.concerns s boardId = false) db requests) :
    ∀ t ∈ (machine env).committed db requests, SameBoard boardId db t := fun t ht =>
  (Machine.committed_inv (fun t => WellFormed t ∧ SameBoard boardId db t)
    (fun _ _ hs hother _ ht =>
      have hstep := sameBoard_of_mem hs.1 ht hother
      ⟨(commit_of_mem ht).wellFormed hs.1, hs.2.tasks.trans hstep.tasks, hs.2.dependencies.trans hstep.dependencies⟩)
    ⟨hdb, .refl _, .refl _⟩ h t ht).2

namespace Sample

theorem wellFormed_createdRun : WellFormed createdRun where
  dependencies d hd := absurd hd List.not_mem_nil
  noSelf d hd := absurd hd List.not_mem_nil
  runs r hr := by
    obtain rfl := List.mem_singleton.mp hr
    exact ⟨task, rfl, rfl⟩

end Sample

theorem recordsStay_cancelled :
    ((machine Sample.env).committed Sample.createdRun [⟨1, .cancelRun Sample.scope 1 none⟩]).Forall fun t =>
      WellFormed t ∧ ∀ run ∈ Sample.createdRun.runs, ∃ run' ∈ t.runs, ∃ task ∈ t.tasks, run'.id = run.id ∧
        run'.identity = run.identity ∧ task.id = run.taskId ∧ task.boardId = some run.boardId :=
  List.forall_iff_forall_mem.mpr (recordsStay Sample.wellFormed_createdRun)

namespace Sample

def twoBoards : Db :=
  { Sample.db with
    boards := ⟨[{ board with requireApprovalForDone := false }, { id := 2, organizationId := 1 }], by decide⟩
    tasks := ⟨[task, { task with id := 2, title := "Design" }, { id := 3, boardId := some 2, title := "Ship" },
      { id := 4, boardId := some 2, title := "Sign" }], by decide⟩
    dependencies := ⟨[{ boardId := 1, taskId := 1, dependsOnTaskId := 2 },
      { boardId := 2, taskId := 3, dependsOnTaskId := 4 }], by decide⟩
    runs := ⟨[run .running], nodup_run .running⟩ }

theorem wellFormed_twoBoards : WellFormed twoBoards where
  dependencies d hd := by
    rcases List.mem_cons.mp hd with rfl | hd
    · exact ⟨⟨_, rfl, rfl⟩, _, rfl, rfl⟩
    · obtain rfl := List.mem_singleton.mp hd
      exact ⟨⟨_, rfl, rfl⟩, _, rfl, rfl⟩
  noSelf d hd := by
    rcases List.mem_cons.mp hd with rfl | hd
    · decide
    · obtain rfl := List.mem_singleton.mp hd
      decide
  runs r hr := by
    obtain rfl := List.mem_singleton.mp hr
    exact ⟨_, rfl, rfl⟩

def changeFirst : List Request :=
  [⟨1, .updateTask 1 2 (.user 1) { status := some .done }⟩, ⟨2, .callback 1 { status := .succeeded }⟩,
    ⟨3, .deleteTask 1 2 (.user 1)⟩]

end Sample

/-- What is requested of the first board leaves the second one alone. -/
theorem boardStays_twoBoards :
    ((machine Sample.env).committed Sample.twoBoards Sample.changeFirst).Forall (SameBoard 2 Sample.twoBoards) ∧
      ((machine Sample.env).run Sample.twoBoards Sample.changeFirst).dependencies.rows =
        [{ boardId := 2, taskId := 3, dependsOnTaskId := 4 }] ∧
      ((machine Sample.env).run Sample.twoBoards Sample.changeFirst).tasks.rows.map (fun t => (t.id, t.status)) =
        [(1, .review), (3, .inbox), (4, .inbox)] :=
  ⟨List.forall_iff_forall_mem.mpr (boardStays Sample.wellFormed_twoBoards (by decide)), by decide, by decide⟩

end SiloForge
