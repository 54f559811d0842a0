import SiloForge.System.WellFormed

/-!
# Dependency lists written side by side

A request that gives a task dependencies checks the list against the edges of the board, and later writes and
commits it. Nothing keeps another request from writing the same board in between.

* `validateRequest`, `writeDependencies` : the two steps of a request;
* `dependencyMachine` : requests that validate, write or give up in any order;
* `ListFits` : what a validated list may rely on until it is written;
* `acyclicBoards` : every board stays acyclic while no PATCH writes a board that another one has validated a list
  for.
-/

namespace SiloForge

open Lib

/-! ## Requests in two steps -/

inductive DependencyRequest where
  | create (now : Time) (boardId taskId : Uuid) (payload : TaskCreate)
  | replace (boardId taskId : Uuid) (dependsOnTaskIds : List Uuid)

inductive DependencyWrite where
  | create (now : Time) (board : Board) (task : Task) (payload : TaskCreate) (normalized tagIds : List Uuid)
  | replace (boardId taskId : Uuid) (normalized : List Uuid)

def validateRequest (search : CycleSearch) (db : Db) : DependencyRequest → Except Failure DependencyWrite
  | .create now boardId taskId payload => do
    let board ← getBoardOr404 db boardId
    let task := newTask payload now board.id taskId
    let (normalized, tagIds) ← newTaskDependencies search db board task payload blockedTaskError
    return .create now board task payload normalized tagIds
  | .replace boardId taskId dependsOnTaskIds => do
    let board ← getBoardOr404 db boardId
    let task ← getTaskOr404 db board taskId
    require (task.status ≠ .done) dependenciesOfDoneError
    let normalized ← validateDependencyUpdate search db board.id task.id dependsOnTaskIds
    return .replace board.id task.id normalized

def writeDependencies (texts : Texts) (db : Db) : DependencyWrite → Except Failure Db
  | .create now board task payload normalized tagIds =>
    storeNewTask texts db now board task payload normalized tagIds
  | .replace boardId taskId normalized => do
    let dependencies ← writeTaskDependencies db.dependencies boardId taskId normalized
    return { db with dependencies }

structure PendingWrite where
  id : Nat
  write : DependencyWrite

instance : Keyed PendingWrite Nat := ⟨PendingWrite.id⟩

structure DependencySessions where
  db : Db
  validated : Table PendingWrite := ∅

inductive DependencyAction where
  | validate (id : Nat) (request : DependencyRequest)
  | write (id : Nat)
  | giveUp (id : Nat)

namespace DependencySessions

def close (s : DependencySessions) (id : Nat) : DependencySessions :=
  { s with validated := s.validated.deleteWhere fun p => p.id = id }

def step (texts : Texts) (s : DependencySessions) : DependencyAction → Option DependencySessions
  | .validate id request =>
    match validateRequest texts.search s.db request with
    | .error _ => none
    | .ok write => (s.validated.insert? { id, write }).map fun validated => { s with validated }
  | .write id =>
    (s.validated.get? id).map fun p =>
      match writeDependencies texts s.db p.write with
      | .error _ => s.close id
      | .ok db => { s.close id with db }
  | .giveUp id => some (s.close id)

end DependencySessions

def dependencyMachine (texts : Texts) : Machine DependencySessions DependencyAction where
  commits s action := (s.step texts action).toList

variable {boardId taskId : Uuid} {s : DependencySessions} {write : DependencyWrite}
  {dependencies dependencies' : Table TaskDependency} {normalized : List Uuid}

/-! ## The invariant -/

def AcyclicBoards (db : Db) : Prop := ∀ boardId, AcyclicBoard db.dependencies boardId

/-- What a validated list relies on: its tasks are on the board, and the board's edges with it are acyclic. -/
def ListFits (db : Db) : DependencyWrite → Prop
  | .create _ board task _ normalized _ =>
    task.boardId = some board.id ∧ task.id ∉ normalized ∧
      ∀ x ∈ normalized, ∃ t, db.tasks.get? x = some t ∧ t.boardId = some board.id
  | .replace boardId taskId normalized =>
    (∃ t, db.tasks.get? taskId = some t ∧ t.boardId = some boardId) ∧
      (∀ x ∈ normalized, ∃ t, db.tasks.get? x = some t ∧ t.boardId = some boardId) ∧
      Acyclic (Cycle.Edge (overlayEdges db.dependencies boardId taskId normalized))

/-- The invariant: rows join tasks of their board, boards are acyclic, validated lists may be written. -/
structure DependenciesFit (s : DependencySessions) : Prop where
  onBoard : DependenciesOnBoard s.db
  acyclic : AcyclicBoards s.db
  lists : ∀ p ∈ s.validated, ListFits s.db p.write

def DependencyWrite.replaces? : DependencyWrite → Option Uuid
  | .create .. => none
  | .replace boardId _ _ => some boardId

theorem DependenciesFit.close (h : DependenciesFit s) (id : Nat) : DependenciesFit (s.close id) where
  onBoard := h.onBoard
  acyclic := h.acyclic
  lists p hp := h.lists p (Table.mem_deleteWhere.mp hp).1

/-- **A validated list fits** when it is validated. -/
theorem validate_fits {search : CycleSearch} {db : Db} (hdb : DependenciesOnBoard db) (hacyclic : AcyclicBoards db)
    {request : DependencyRequest} (h : validateRequest search db request = .ok write) : ListFits db write := by
  cases request with
  | create now boardId taskId payload =>
    simp only [validateRequest, bind_eq_ok, pure_eq_ok] at h
    obtain ⟨board, -, ⟨normalized, tagIds⟩, hdeps, rfl⟩ := h
    obtain ⟨hvalid, -⟩ := newTaskDependencies_eq_ok hdeps
    obtain ⟨-, hself, htasks, -⟩ := validateDependencyUpdate_eq_ok hvalid
    exact ⟨rfl, hself, htasks⟩
  | replace boardId taskId dependsOn =>
    simp only [validateRequest, bind_eq_ok, require_eq_ok, pure_eq_ok] at h
    obtain ⟨board, -, task, htask, _, -, normalized, hvalid, rfl⟩ := h
    obtain ⟨hget, hid, hon⟩ := getTaskOr404_eq_ok htask
    obtain ⟨-, -, htasks, -⟩ := validateDependencyUpdate_eq_ok hvalid
    exact ⟨⟨task, hid ▸ hget, hon⟩, htasks, validateDependencyUpdate_acyclic hdb (hacyclic board.id) hvalid⟩

/-! ## A creation -/

theorem mem_created (h : dependencies.insertAll? (dependencyRows boardId taskId normalized) = some dependencies')
    (d : TaskDependency) :
    d ∈ dependencies' ↔ d ∈ dependencies ∨ d.boardId = boardId ∧ d.taskId = taskId ∧ d.dependsOnTaskId ∈ normalized := by
  rw [Table.mem_insertAll? h, mem_dependencyRows]

theorem not_mem_boardEdges_fresh {db : Db} (hdb : DependenciesOnBoard db) (hfresh : db.tasks.get? taskId = none)
    (b x : Uuid) : taskId ∉ boardEdges db.dependencies b x := by
  intro hmem
  obtain ⟨d, hd, -, -, rfl⟩ := mem_boardEdges.mp hmem
  obtain ⟨-, t, ht, -⟩ := hdb d hd
  rw [hfresh] at ht
  cases ht

theorem boardEdges_created (h : dependencies.insertAll? (dependencyRows boardId taskId normalized) = some dependencies')
    {b x y : Uuid} (hy : y ∈ boardEdges dependencies' b x) :
    y ∈ boardEdges dependencies b x ∨ x = taskId ∧ y ∈ normalized := by
  obtain ⟨d, hd, hb, hx, hdep⟩ := mem_boardEdges.mp hy
  rcases (mem_created h d).mp hd with hold | ⟨-, hid, hmem⟩
  · exact .inl (mem_boardEdges.mpr ⟨d, hold, hb, hx, hdep⟩)
  · exact .inr ⟨hx.symm.trans hid, hdep ▸ hmem⟩

theorem edge_overlay_of_boardEdges {dependencies dependencies' : Table TaskDependency} {dependsOn : List Uuid} {x y : Uuid}
    (h : y ∈ boardEdges dependencies' boardId x → y ∈ boardEdges dependencies boardId x)
    (hxy : Cycle.Edge (overlayEdges dependencies' boardId taskId dependsOn) x y) :
    Cycle.Edge (overlayEdges dependencies boardId taskId dependsOn) x y := by
  unfold Cycle.Edge overlayEdges at hxy ⊢
  split at hxy
  · rename_i hx
    rw [if_pos hx]
    exact hxy
  · rename_i hx
    rw [if_neg hx]
    exact h hxy

theorem ListFits.created {db t : Db} {board : Board} {task : Task} (hdb : DependenciesOnBoard db)
    (hself : task.id ∉ normalized) (htasks : db.tasks.insert? task = some t.tasks)
    (hdeps : db.dependencies.insertAll? (dependencyRows board.id task.id normalized) = some t.dependencies)
    (h : ListFits db write) : ListFits t write := by
  have hfresh : db.tasks.get? task.id = none := (Table.insert?_eq_some htasks).2
  have hkeep : ∀ x b, (∃ u, db.tasks.get? x = some u ∧ u.boardId = some b) →
      ∃ u, t.tasks.get? x = some u ∧ u.boardId = some b := by
    rintro x b ⟨u, hu, hb⟩
    obtain ⟨u', hu', hb'⟩ := KeepsTasks.insert htasks x u hu
    exact ⟨u', hu', hb'.trans hb⟩
  cases write with
  | create now board' task' payload normalized' tagIds =>
    obtain ⟨hon, hself, hlist⟩ := h
    exact ⟨hon, hself, fun x hx => hkeep x _ (hlist x hx)⟩
  | replace boardId taskId normalized' =>
    obtain ⟨htask, hlist, hacyclic⟩ := h
    refine ⟨hkeep taskId _ htask, fun x hx => hkeep x _ (hlist x hx), ?_⟩
    have hnew : task.id ∉ normalized' := by
      intro hmem
      obtain ⟨u, hu, -⟩ := hlist _ hmem
      rw [hfresh] at hu
      cases hu
    apply hacyclic.add_source (n := task.id)
    · intro x hx
      unfold Cycle.Edge overlayEdges at hx
      split at hx
      · exact hnew hx
      · rcases boardEdges_created hdeps hx with hold | ⟨-, hmem⟩
        · exact not_mem_boardEdges_fresh hdb hfresh _ _ hold
        · exact hself hmem
    · intro x y hne
      exact edge_overlay_of_boardEdges fun h => (boardEdges_created hdeps h).resolve_right fun hn => hne hn.1

/-- **A creation keeps the invariant**, whatever was written since its list was validated. -/
theorem DependenciesFit.created (h : DependenciesFit s) {id : Nat} {t : Db} {board : Board} {task : Task}
    (hon : task.boardId = some board.id) (hself : task.id ∉ normalized)
    (hlist : ∀ x ∈ normalized, ∃ u, s.db.tasks.get? x = some u ∧ u.boardId = some board.id)
    (htasks : s.db.tasks.insert? task = some t.tasks)
    (hdeps : s.db.dependencies.insertAll? (dependencyRows board.id task.id normalized) = some t.dependencies) :
    DependenciesFit { s.close id with db := t } := by
  have hfresh : s.db.tasks.get? task.id = none := (Table.insert?_eq_some htasks).2
  have hkeep := KeepsTasks.insert htasks
  refine ⟨?_, ?_, ?_⟩
  · intro d hd
    rcases (mem_created hdeps d).mp hd with hold | ⟨hb, hid, hmem⟩
    · obtain ⟨⟨u, hu, hub⟩, v, hv, hvb⟩ := h.onBoard d hold
      obtain ⟨u', hu', hub'⟩ := hkeep _ u hu
      obtain ⟨v', hv', hvb'⟩ := hkeep _ v hv
      exact ⟨⟨u', hu', hub'.trans hub⟩, v', hv', hvb'.trans hvb⟩
    · obtain ⟨v, hv, hvb⟩ := hlist _ hmem
      obtain ⟨v', hv', hvb'⟩ := hkeep _ v hv
      rw [hb, hid]
      exact ⟨⟨task, (Table.get?_insert? htasks task.id).trans (if_pos rfl), hon⟩, v', hv', hvb'.trans hvb⟩
  · intro b
    apply (h.acyclic b).add_source (n := task.id)
    · intro x hx
      rcases boardEdges_created hdeps hx with hold | ⟨-, hmem⟩
      · exact not_mem_boardEdges_fresh h.onBoard hfresh _ _ hold
      · exact hself hmem
    · intro x y hne hxy
      exact (boardEdges_created hdeps hxy).resolve_right fun hn => hne hn.1
  · intro p hp
    exact (h.lists p (Table.mem_deleteWhere.mp hp).1).created h.onBoard hself htasks hdeps

theorem ListFits.replaced {db t : Db}
    (hwrite : writeTaskDependencies db.dependencies boardId taskId normalized = .ok t.dependencies)
    (htasks : t.tasks = db.tasks) (hother : write.replaces? ≠ some boardId) (h : ListFits db write) :
    ListFits t write := by
  cases write with
  | create =>
    obtain ⟨hon, hself, hlist⟩ := h
    exact ⟨hon, hself, htasks ▸ hlist⟩
  | replace boardId' taskId' normalized' =>
    obtain ⟨htask, hlist, hacyclic⟩ := h
    have hne : boardId' ≠ boardId := fun he => hother (congrArg some he)
    refine ⟨htasks ▸ htask, htasks ▸ hlist, hacyclic.mono fun x y => ?_⟩
    exact edge_overlay_of_boardEdges (boardEdges_writeTaskDependencies_ne hwrite hne x y).mp

/-- **A PATCH keeps the invariant** when no other one has validated a list for its board. -/
theorem DependenciesFit.replaced (h : DependenciesFit s) {id : Nat} {t : Db}
    (hfits : ListFits s.db (.replace boardId taskId normalized))
    (hwrite : writeTaskDependencies s.db.dependencies boardId taskId normalized = .ok t.dependencies)
    (htasks : t.tasks = s.db.tasks) (halone : ∀ p ∈ s.validated, p.id ≠ id → p.write.replaces? ≠ some boardId) :
    DependenciesFit { s.close id with db := t } := by
  obtain ⟨htask, hlist, hacyclic⟩ := hfits
  refine ⟨?_, ?_, ?_⟩
  · intro d hd
    have hmem := (mem_writeTaskDependencies hwrite d).mp hd
    show (∃ u, t.tasks.get? d.taskId = some u ∧ _) ∧ ∃ u, t.tasks.get? d.dependsOnTaskId = some u ∧ _
    rw [htasks]
    rcases hmem with ⟨hold, -⟩ | ⟨hb, hid, hmem⟩
    · exact h.onBoard d hold
    · rw [hb, hid]
      exact ⟨htask, hlist _ hmem⟩
  · intro b
    by_cases hb : b = boardId
    · subst hb
      apply hacyclic.mono
      intro x y hxy
      exact (mem_boardEdges_writeTaskDependencies hwrite x y).mp hxy
    · apply (h.acyclic b).mono
      intro x y hxy
      exact (boardEdges_writeTaskDependencies_ne hwrite hb x y).mp hxy
  · intro p hp
    obtain ⟨hp, hne⟩ := Table.mem_deleteWhere.mp hp
    exact (h.lists p hp).replaced hwrite htasks (halone p hp (by simpa using hne))

/-! ## Runs of the sessions -/

def writesBeside (s : DependencySessions) : DependencyAction → Bool
  | .write id => (s.validated.get? id).any fun p => p.write.replaces?.any fun boardId =>
      s.validated.rows.any fun other => other.id ≠ id && other.write.replaces? = some boardId
  | _ => false

theorem DependenciesFit.step {t : DependencySessions} (h : DependenciesFit s) {action : DependencyAction}
    (halone : writesBeside s action = false) {texts : Texts} (hstep : s.step texts action = some t) :
    DependenciesFit t := by
  cases action with
  | validate id request =>
    simp only [DependencySessions.step] at hstep
    split at hstep
    · cases hstep
    · rename_i write hvalidate
      obtain ⟨validated, hinsert, rfl⟩ := Option.map_eq_some_iff.mp hstep
      refine ⟨h.onBoard, h.acyclic, fun p hp => ?_⟩
      rcases (Table.mem_insert? hinsert).mp hp with hold | rfl
      · exact h.lists p hold
      · exact validate_fits h.onBoard h.acyclic hvalidate
  | giveUp id =>
    obtain rfl := Option.some.inj hstep
    exact h.close id
  | write id =>
    obtain ⟨p, hget, hwrite⟩ := Option.map_eq_some_iff.mp hstep
    have hfits := h.lists p (Table.mem_of_get? hget)
    split at hwrite
    · exact hwrite ▸ h.close id
    · rename_i db hok
      subst hwrite
      obtain ⟨pid, write⟩ := p
      cases write with
      | create now board task payload normalized tagIds =>
        obtain ⟨tasks, dependencies, values, tags, htasks, hdeps, rfl⟩ := storeNewTask_eq_ok hok
        obtain ⟨hon, hself, hlist⟩ := hfits
        exact h.created hon hself hlist htasks hdeps
      | replace boardId taskId normalized =>
        obtain ⟨dependencies, hdeps, ht⟩ := bind_eq_ok.mp hok
        obtain rfl := pure_eq_ok.mp ht
        refine h.replaced hfits hdeps rfl fun other ho hne hsame => ?_
        have hbeside : writesBeside s (.write id) = true := by
          simp only [writesBeside, hget, Option.any_some, DependencyWrite.replaces?]
          refine List.any_eq_true.mpr ⟨other, ho, ?_⟩
          exact Bool.and_eq_true_iff.mpr ⟨decide_eq_true hne, decide_eq_true hsame⟩
        rw [halone] at hbeside
        cases hbeside

/-- **Boards stay acyclic** in every state any interleaving commits, while no PATCH writes a board another one has
validated a list for. -/
theorem acyclicBoards {texts : Texts} {db : Db} {actions : List DependencyAction} (hdb : DependenciesOnBoard db)
    (hacyclic : AcyclicBoards db)
    (h : (dependencyMachine texts).Along (fun s action => writesBeside s action = false) { db } actions) :
    ∀ t ∈ (dependencyMachine texts).committed { db } actions, AcyclicBoards t.db := by
  have hstart : DependenciesFit { db } := ⟨hdb, hacyclic, fun p hp => absurd hp (Table.not_mem_empty p)⟩
  have hrun := Machine.committed_inv DependenciesFit
    (fun s action hs halone t ht => hs.step halone (Option.mem_toList.mp ht)) hstart h
  exact fun t ht => (hrun t ht).acyclic

namespace Sample

def twoTasks : Db := { db with tasks := ⟨[task, { task with id := 2, title := "Design" }], nodup_design⟩ }

def waitsFor (taskId dependsOn : Uuid) : DependencyRequest := .replace 1 taskId [dependsOn]

end Sample

theorem acyclicBoards_of_empty {db : Db} (h : db.dependencies = ∅) : AcyclicBoards db := by
  intro b x hx
  have hnone : ∀ y, ¬ Cycle.Edge (boardEdges db.dependencies b) y x := by
    intro y hy
    obtain ⟨d, hd, -⟩ := mem_boardEdges.mp hy
    rw [h] at hd
    exact Table.not_mem_empty d hd
  cases hx with
  | single hlast => exact hnone _ hlast
  | tail _ hlast => exact hnone _ hlast

theorem acyclicBoards_twoTasks :
    ((dependencyMachine Sample.env.texts).committed { db := Sample.twoTasks }
      [.validate 1 (Sample.waitsFor 1 2), .write 1, .validate 2 (Sample.waitsFor 2 1), .giveUp 2]).Forall
        (fun t => AcyclicBoards t.db) :=
  List.forall_iff_forall_mem.mpr
    (acyclicBoards (fun d hd => absurd hd (Table.not_mem_empty d)) (acyclicBoards_of_empty rfl) (by decide))

/-- Two PATCHes that are each valid alone close a cycle. -/
theorem not_acyclicBoards :
    ¬ ∀ (texts : Texts) (db : Db) (actions : List DependencyAction), DependenciesOnBoard db → AcyclicBoards db →
      ∀ t ∈ (dependencyMachine texts).committed { db } actions, AcyclicBoards t.db := by
  intro h
  have hall := h Sample.env.texts Sample.twoTasks
    [.validate 1 (Sample.waitsFor 1 2), .validate 2 (Sample.waitsFor 2 1), .write 1, .write 2]
    (fun d hd => absurd hd (Table.not_mem_empty d)) (acyclicBoards_of_empty rfl)
  have hcycle : ∃ t ∈ (dependencyMachine Sample.env.texts).committed { db := Sample.twoTasks }
      [.validate 1 (Sample.waitsFor 1 2), .validate 2 (Sample.waitsFor 2 1), .write 1, .write 2],
      2 ∈ boardEdges t.db.dependencies 1 1 ∧ 1 ∈ boardEdges t.db.dependencies 1 2 := by decide
  obtain ⟨t, ht, hout, hback⟩ := hcycle
  exact hall t ht 1 1 (.tail (.single hout) hback)

end SiloForge
