import SiloForge.System.BlockedRest
import SiloForge.System.DependencySessions

/-!
# Work can go on

Requests that come one after another leave every board's dependencies acyclic, so waiting never goes round in a
circle.

* `Commit.acyclic` : no request closes a cycle;
* `ReadyBehind` : behind every open task of a board there is an open one that nothing blocks;
* `readyBehind` : so it is in every state that requests lead to.
-/

namespace SiloForge

open Lib Relation

variable {search : CycleSearch} {db t : Db} {request : Request} {boardId : Uuid}

/-! ## Acyclic boards -/

theorem dependenciesFit_alone (hdb : DependenciesOnBoard db) (h : AcyclicBoards db) : DependenciesFit { db } :=
  ⟨hdb, h, fun p hp => absurd hp (Table.not_mem_empty p)⟩

theorem AcyclicBoards.written (h : AcyclicBoards db) (hdb : DependenciesOnBoard db) {task : Task}
    (htask : db.tasks.get? task.id = some task) (hon : task.boardId = some boardId) {dependsOn deps : List Uuid}
    (hvalid : validateDependencyUpdate search db boardId task.id dependsOn = .ok deps)
    (hwrite : writeTaskDependencies db.dependencies boardId task.id deps = .ok t.dependencies) : AcyclicBoards t := by
  obtain ⟨-, -, htasks, -⟩ := validateDependencyUpdate_eq_ok hvalid
  have hlist : ListFits db (.replace boardId task.id deps) :=
    ⟨⟨task, htask, hon⟩, htasks, validateDependencyUpdate_acyclic hdb (h boardId) hvalid⟩
  have hkept : DependenciesFit { DependencySessions.close { db } 0 with
      db := { db with dependencies := t.dependencies } } :=
    (dependenciesFit_alone hdb h).replaced hlist hwrite rfl fun p hp => absurd hp (Table.not_mem_empty p)
  exact hkept.acyclic

theorem PatchRules.acyclic {update : TaskUpdateInput} {actor : ActorContext} {task' : Task}
    (h : PatchRules db update actor t.dependencies task') (hdb : DependenciesOnBoard db)
    (hacyclic : AcyclicBoards db) (htask : db.tasks.get? update.task.id = some update.task)
    (hon : update.task.boardId = some update.boardId) : AcyclicBoards t := by
  obtain ⟨_, deps, heff, -, -⟩ := h.effective
  rcases effectiveDependencies_eq_ok heff with ⟨-, hsame, -⟩ | ⟨dependsOn, -, -, hvalid, hwrite⟩
  · intro b
    rw [hsame]
    exact hacyclic b
  · exact hacyclic.written hdb htask hon hvalid hwrite

/-- **No request closes a cycle.** -/
theorem Commit.acyclic (h : Commit db request t) (hdb : WellFormed db) (hacyclic : AcyclicBoards db) :
    AcyclicBoards t := by
  cases h with
  | created board task payload deps tasks dependencies values tags events hop rules htasks hdeps =>
    obtain ⟨_, hvalid⟩ := rules.valid
    obtain ⟨-, hself, hlist, -⟩ := validateDependencyUpdate_eq_ok hvalid
    have hkept : DependenciesFit { DependencySessions.close { db } 0 with
        db := { db with tasks, dependencies } } :=
      (dependenciesFit_alone hdb.dependencies hacyclic).created rules.onBoard hself hlist htasks hdeps
    exact hkept.acyclic
  | patched actor payload ctx task task' board dependencies values tags events hop hactor htask hon hboard rules =>
    exact rules.acyclic (t := { db with dependencies }) hdb.dependencies hacyclic htask hon
  | reconciled actor payload ctx task task' board dependencies values tags events hop hactor htask hon hboard rules =>
    exact rules.acyclic (t := { db with dependencies }) hdb.dependencies hacyclic htask hon
  | deleted =>
    intro b
    apply (hacyclic b).mono
    intro x y hxy
    obtain ⟨d, hd, hedge⟩ := mem_boardEdges.mp hxy
    exact mem_boardEdges.mpr ⟨d, (Table.mem_deleteWhere.mp hd).1, hedge⟩
  | _ => exact hacyclic

/-! ## What is ready -/

/-- Every open task of the board leads through its dependencies to an open one that the endpoints find unblocked. -/
def ReadyBehind (db : Db) (boardId : Uuid) : Prop :=
  ∀ task ∈ db.tasks, task.boardId = some boardId → task.status ≠ .done →
    ∃ ready ∈ db.tasks, ready.boardId = some boardId ∧ ready.status ≠ .done ∧
      ReflTransGen (Cycle.Edge (boardEdges db.dependencies boardId)) task.id ready.id ∧
      taskBlockedIds db boardId (taskDepIds db boardId ready.id) = []

def openTaskIds (db : Db) (boardId : Uuid) : Set Uuid :=
  { id | ∃ task ∈ db.tasks, task.id = id ∧ task.boardId = some boardId ∧ task.status ≠ .done }

theorem openTaskIds_finite (db : Db) (boardId : Uuid) : (openTaskIds db boardId).Finite := by
  apply (db.tasks.rows.map Task.id).finite_toSet.subset
  rintro id ⟨task, hmem, rfl, -⟩
  exact List.mem_map_of_mem hmem

/-- Where no cycle is stored, the path of dependencies ends at a ready task. -/
theorem AcyclicBoard.exists_ready (h : AcyclicBoard db.dependencies boardId) (hdb : DependenciesOnBoard db) :
    ReadyBehind db boardId := by
  intro task hmem hon hopen
  obtain ⟨_, ⟨ready, hready, rfl, honReady, hopenReady⟩, hpath, hlast⟩ :=
    h.exists_last (openTaskIds_finite db boardId) ⟨task, hmem, rfl, hon, hopen⟩
  refine ⟨ready, hready, honReady, hopenReady, hpath, ?_⟩
  by_contra hblocked
  obtain ⟨d, hd, hid, dep, hdep, hundone⟩ :=
    (taskBlockedIds_ne_nil_iff hdb (Table.get?_key hready) honReady).mp hblocked
  -- Its dependency is open and on the board, so the path goes on.
  obtain ⟨⟨u, hu, hub⟩, v, hv, hvb⟩ := hdb d hd
  have hboard : d.boardId = boardId := by
    rw [hid, Table.get?_key hready] at hu
    obtain rfl := Option.some.inj hu
    exact Option.some.inj (hub.symm.trans honReady)
  obtain rfl := Option.some.inj (hv.symm.trans hdep)
  have hkey : v.id = d.dependsOnTaskId := Table.key_of_get? hv
  exact hlast v.id ⟨v, Table.mem_of_get? hv, rfl, hboard ▸ hvb, hundone⟩
    (mem_boardEdges.mpr ⟨d, hd, hboard, hid, hkey.symm⟩)

/-- **Work can go on** in every state that requests lead to. -/
theorem readyBehind {env : Env} {requests : List Request} (hdb : WellFormed db) (hacyclic : AcyclicBoards db) :
    ∀ t ∈ (machine env).committed db requests, ∀ boardId, ReadyBehind t boardId := by
  intro t ht boardId
  have hfit := Machine.committed_inv (fun s => WellFormed s ∧ AcyclicBoards s)
    (fun _ _ hs _ _ hmem => ⟨(commit_of_mem hmem).wellFormed hs.1, (commit_of_mem hmem).acyclic hs.1 hs.2⟩)
    ⟨hdb, hacyclic⟩ (Machine.along_of_forall (fun _ _ => trivial) db requests) t ht
  exact (hfit.2 boardId).exists_ready hfit.1.dependencies

theorem readyBehind_working :
    ((machine Sample.env).committed Sample.working [Sample.leadAddsDependency, Sample.finishesDependency]).Forall
      fun t => ∀ boardId, ReadyBehind t boardId :=
  List.forall_iff_forall_mem.mpr (readyBehind (wellFormed_of_empty rfl rfl) (acyclicBoards_of_empty rfl))

end SiloForge
