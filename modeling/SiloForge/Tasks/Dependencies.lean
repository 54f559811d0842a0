import SiloForge.Lib.Cycle
import SiloForge.Organizations.Access

/-!
# Task dependencies

A task of a board waits for other tasks of it. `validateDependencyUpdate` checks a new dependency list
against the graph of the whole board, `replaceTaskDependencies` stores it.

* `Waits` : some dependency of a task is not done; `DependenciesOnBoard` : dependency rows join two tasks
  of their board;
* `taskBlockedIds_ne_nil_iff` : where rows stay on their board, the blocked check of the endpoints is `Waits`;
* `validateDependencyUpdate_acyclic` : an accepted list leaves the board's graph acyclic;
* `validateDependencyUpdate_exact` : over an acyclic board exactly the lists of other tasks of the board that
  close no cycle are accepted, where the search is not cut off.
-/

namespace SiloForge

open Lib Relation

/-- Preserve order; remove duplicates. -/
def dedupeUuidList (values : List Uuid) : List Uuid := values.eraseDups

@[simp] theorem mem_dedupeUuidList {values : List Uuid} {v : Uuid} : v ∈ dedupeUuidList values ↔ v ∈ values :=
  List.mem_eraseDups

theorem nodup_dedupeUuidList (values : List Uuid) : (dedupeUuidList values).Nodup := by
  unfold dedupeUuidList
  induction hn : values.length using Nat.strong_induction_on generalizing values with
  | _ n ih =>
    cases values with
    | nil => exact List.nodup_nil
    | cons v values =>
      rw [List.eraseDups_cons]
      refine List.nodup_cons.mpr ⟨fun hmem => ?_, ih _ ?_ _ rfl⟩
      · have hfiltered := (List.mem_filter.mp (List.mem_eraseDups.mp hmem)).2
        simp at hfiltered
      · have hlength := List.length_filter_le (fun b => !b == v) values
        rw [← hn, List.length_cons]
        omega

/-! ## Reading -/

def taskDepIds (db : Db) (boardId taskId : Uuid) : List Uuid :=
  (db.dependencies.rows.filter fun d => d.boardId = boardId ∧ d.taskId = taskId).map (·.dependsOnTaskId)

def dependencyStatusById (db : Db) (boardId dependencyId : Uuid) : Option TaskStatus :=
  ((db.tasks.get? dependencyId).filter fun t => t.boardId = some boardId).map (·.status)

def blockedByDependencyIds (dependencyIds : List Uuid) (statusById : Uuid → Option TaskStatus) : List Uuid :=
  dependencyIds.filter fun id => statusById id ≠ some .done

def taskBlockedIds (db : Db) (boardId : Uuid) (depIds : List Uuid) : List Uuid :=
  blockedByDependencyIds depIds (dependencyStatusById db boardId)

def dependentTaskIds (db : Db) (boardId dependencyTaskId : Uuid) : List Uuid :=
  (db.dependencies.rows.filter fun d => d.boardId = boardId ∧ d.dependsOnTaskId = dependencyTaskId).map
    (·.taskId)

def blockedTaskError (blockedByTaskIds : List Uuid) : Failure :=
  .http 409
    { message := "Task is blocked by incomplete dependencies."
      code := some "task_blocked_cannot_transition"
      ids := [("blocked_by_task_ids", blockedByTaskIds)] }

/-! ## Validation and replacement -/

/-- How the search for a cycle runs: how many of its calls the recursion limit leaves room for, and the order rows and
sets are gone through in. -/
structure CycleSearch where
  frames : Nat
  order : List Uuid → List Uuid := id
  perm : ∀ ids, (order ids).Perm ids := by exact List.Perm.refl

/-- Whether a board's dependency graph has a cycle; none stands for a `RecursionError`. -/
def hasCycle (search : CycleSearch) (nodes : List Uuid) (edges : Uuid → List Uuid) : Option Bool :=
  Cycle.hasCycle search.frames (fun src => search.order (edges src)) (search.order nodes)

def boardEdges (dependencies : Table TaskDependency) (boardId src : Uuid) : List Uuid :=
  (dependencies.rows.filter fun d => d.boardId = boardId ∧ d.taskId = src).map (·.dependsOnTaskId)

def overlayEdges (dependencies : Table TaskDependency) (boardId taskId : Uuid) (dependsOn : List Uuid)
    (src : Uuid) : List Uuid :=
  if src = taskId then dependsOn else boardEdges dependencies boardId src

def boardTaskIds (tasks : Table Task) (boardId : Uuid) : List Uuid :=
  (tasks.rows.filter fun t => t.boardId = some boardId).map (·.id)

def validateDependencyUpdate (search : CycleSearch) (db : Db) (boardId taskId : Uuid) (dependsOnTaskIds : List Uuid) :
    Except Failure (List Uuid) := do
  let normalized := dedupeUuidList dependsOnTaskIds
  require (taskId ∉ normalized) (.text 422 "Task cannot depend on itself.")
  if normalized = [] then
    return []
  else
    let taskIds := boardTaskIds db.tasks boardId
    let missing := normalized.filter (· ∉ taskIds)
    require (missing = []) (.http 404
      { message := "One or more dependency tasks were not found on this board."
        ids := [("missing_task_ids", missing)] })
    let found ← orFail (hasCycle search taskIds (overlayEdges db.dependencies boardId taskId normalized)) (.status 500)
    require (found = false) (.text 409 "Dependency cycle detected. Remove the cycle before saving.")
    return normalized

def dependencyRows (boardId taskId : Uuid) (depIds : List Uuid) : List TaskDependency :=
  depIds.map fun depId => { boardId, taskId, dependsOnTaskId := depId }

def writeTaskDependencies (dependencies : Table TaskDependency) (boardId taskId : Uuid) (normalized : List Uuid) :
    Except Failure (Table TaskDependency) :=
  orFail ((dependencies.deleteWhere fun d => d.boardId = boardId ∧ d.taskId = taskId).insertAll?
    (dependencyRows boardId taskId normalized)) .integrityError

def replaceTaskDependencies (search : CycleSearch) (db : Db) (boardId taskId : Uuid) (dependsOnTaskIds : List Uuid) :
    Except Failure (Table TaskDependency × List Uuid) := do
  let normalized ← validateDependencyUpdate search db boardId taskId dependsOnTaskIds
  let dependencies ← writeTaskDependencies db.dependencies boardId taskId normalized
  return (dependencies, normalized)

/-! ## What the rows mean -/

/-- Some dependency of the task is not done. -/
def Waits (db : Db) (taskId : Uuid) : Prop :=
  ∃ d ∈ db.dependencies, d.taskId = taskId ∧
    ∃ dep, db.tasks.get? d.dependsOnTaskId = some dep ∧ dep.status ≠ .done

theorem any_iff_waits (db : Db) (taskId : Uuid) :
    (db.dependencies.rows.any fun d => d.taskId = taskId &&
      (db.tasks.get? d.dependsOnTaskId).any (·.status ≠ .done)) = true ↔ Waits db taskId := by
  simp [Waits, Table.mem_def, Option.any_eq_true]

instance (db : Db) (taskId : Uuid) : Decidable (Waits db taskId) := decidable_of_iff _ (any_iff_waits db taskId)

/-- A dependency row joins two tasks of its board. -/
def DependenciesOnBoard (db : Db) : Prop :=
  ∀ d ∈ db.dependencies,
    (∃ t, db.tasks.get? d.taskId = some t ∧ t.boardId = some d.boardId) ∧
    ∃ t, db.tasks.get? d.dependsOnTaskId = some t ∧ t.boardId = some d.boardId

variable {search : CycleSearch} {db : Db} {boardId taskId : Uuid} {dependencies dependencies' : Table TaskDependency}
  {normalized dependsOn : List Uuid}

theorem mem_taskDepIds {depId : Uuid} : depId ∈ taskDepIds db boardId taskId ↔
      ∃ d ∈ db.dependencies, d.boardId = boardId ∧ d.taskId = taskId ∧ d.dependsOnTaskId = depId := by
  simp [taskDepIds, Table.mem_def, and_assoc]

theorem dependencyStatusById_of_mem {depId : Uuid} {t : Task} (ht : db.tasks.get? depId = some t)
    (hboard : t.boardId = some boardId) :
    dependencyStatusById db boardId depId = some t.status := by
  simp [dependencyStatusById, ht, hboard]

/-- Dependency ids that are tasks of the board are blocking exactly when their tasks are not done. -/
theorem taskBlockedIds_ne_nil_of_tasks {depIds : List Uuid}
    (hids : ∀ id ∈ depIds, ∃ t, db.tasks.get? id = some t ∧ t.boardId = some boardId) :
    taskBlockedIds db boardId depIds ≠ [] ↔
      ∃ id ∈ depIds, ∃ t, db.tasks.get? id = some t ∧ t.status ≠ .done := by
  rw [taskBlockedIds, blockedByDependencyIds, Ne, List.filter_eq_nil_iff]
  simp only [decide_eq_true_eq, not_forall, not_not]
  constructor
  · rintro ⟨id, hid, hne⟩
    obtain ⟨t, ht, hboard⟩ := hids id hid
    rw [dependencyStatusById_of_mem ht hboard] at hne
    exact ⟨id, hid, t, ht, fun h => hne (congrArg some h)⟩
  · rintro ⟨id, hid, t, ht, hne⟩
    obtain ⟨t', ht', hboard⟩ := hids id hid
    obtain rfl : t = t' := Option.some.inj (ht.symm.trans ht')
    refine ⟨id, hid, ?_⟩
    rw [dependencyStatusById_of_mem ht hboard]
    exact fun h => hne (Option.some.inj h)

/-- **The blocked check**: for a task of a board whose rows stay on their board, the list of blocking
dependencies is nonempty exactly when the task waits. -/
theorem taskBlockedIds_ne_nil_iff (hdb : DependenciesOnBoard db) {t : Task} (ht : db.tasks.get? taskId = some t)
    (hboard : t.boardId = some boardId) :
    taskBlockedIds db boardId (taskDepIds db boardId taskId) ≠ [] ↔ Waits db taskId := by
  have hrow : ∀ d ∈ db.dependencies, d.taskId = taskId → d.boardId = boardId := by
    intro d hd hid
    obtain ⟨⟨t', ht', hb⟩, -⟩ := hdb d hd
    rw [hid, ht] at ht'
    obtain rfl := Option.some.inj ht'
    exact Option.some.inj (hb.symm.trans hboard)
  rw [taskBlockedIds_ne_nil_of_tasks]
  · constructor
    · rintro ⟨id, hid, dep, hdep, hne⟩
      obtain ⟨d, hd, -, htask, rfl⟩ := mem_taskDepIds.mp hid
      exact ⟨d, hd, htask, dep, hdep, hne⟩
    · rintro ⟨d, hd, htask, dep, hdep, hne⟩
      exact ⟨d.dependsOnTaskId, mem_taskDepIds.mpr ⟨d, hd, hrow d hd htask, htask, rfl⟩, dep, hdep, hne⟩
  · intro id hid
    obtain ⟨d, hd, rfl, -, rfl⟩ := mem_taskDepIds.mp hid
    exact (hdb d hd).2

/-! ## What a replaced list stores -/

theorem mem_dependencyRows {depIds : List Uuid} {d : TaskDependency} : d ∈ dependencyRows boardId taskId depIds ↔
      d.boardId = boardId ∧ d.taskId = taskId ∧ d.dependsOnTaskId ∈ depIds := by
  simp only [dependencyRows, List.mem_map]
  constructor
  · rintro ⟨depId, hdep, rfl⟩
    exact ⟨rfl, rfl, hdep⟩
  · rintro ⟨rfl, rfl, hdep⟩
    exact ⟨_, hdep, rfl⟩

theorem mem_writeTaskDependencies
    (h : writeTaskDependencies dependencies boardId taskId normalized = .ok dependencies') (d : TaskDependency) :
    d ∈ dependencies' ↔ (d ∈ dependencies ∧ ¬ (d.boardId = boardId ∧ d.taskId = taskId)) ∨
      (d.boardId = boardId ∧ d.taskId = taskId ∧ d.dependsOnTaskId ∈ normalized) := by
  rw [Table.mem_insertAll? (orFail_eq_ok.mp h), Table.mem_deleteWhere, mem_dependencyRows, decide_eq_false_iff_not]

theorem mem_boardEdges {src dst : Uuid} : dst ∈ boardEdges dependencies boardId src ↔
      ∃ d ∈ dependencies, d.boardId = boardId ∧ d.taskId = src ∧ d.dependsOnTaskId = dst := by
  simp [boardEdges, Table.mem_def, and_assoc]

theorem mem_boardEdges_writeTaskDependencies
    (h : writeTaskDependencies dependencies boardId taskId normalized = .ok dependencies') (src dst : Uuid) :
    dst ∈ boardEdges dependencies' boardId src ↔ dst ∈ overlayEdges dependencies boardId taskId normalized src := by
  simp only [mem_boardEdges, mem_writeTaskDependencies h, overlayEdges]
  split
  · rename_i hsrc
    subst hsrc
    constructor
    · rintro ⟨d, ⟨-, hne⟩ | ⟨-, -, hmem⟩, hb, hs, rfl⟩
      · exact absurd ⟨hb, hs⟩ hne
      · exact hmem
    · intro hmem
      exact ⟨{ boardId, taskId := src, dependsOnTaskId := dst }, .inr ⟨rfl, rfl, hmem⟩, rfl, rfl, rfl⟩
  · rename_i hsrc
    rw [mem_boardEdges]
    constructor
    · rintro ⟨d, ⟨hd, -⟩ | ⟨-, hs', -⟩, hb, hs, rfl⟩
      · exact ⟨d, hd, hb, hs, rfl⟩
      · exact absurd (hs.symm.trans hs') hsrc
    · rintro ⟨d, hd, hb, hs, rfl⟩
      exact ⟨d, .inl ⟨hd, fun hn => hsrc (hs.symm.trans hn.2)⟩, hb, hs, rfl⟩

theorem boardEdges_writeTaskDependencies_ne {boardId' : Uuid}
    (h : writeTaskDependencies dependencies boardId taskId normalized = .ok dependencies') (hne : boardId' ≠ boardId)
    (src dst : Uuid) :
    dst ∈ boardEdges dependencies' boardId' src ↔ dst ∈ boardEdges dependencies boardId' src := by
  simp only [mem_boardEdges, mem_writeTaskDependencies h]
  constructor
  · rintro ⟨d, ⟨hd, -⟩ | ⟨hb', -⟩, hb, hs, rfl⟩
    · exact ⟨d, hd, hb, hs, rfl⟩
    · exact absurd (hb.symm.trans hb') hne
  · rintro ⟨d, hd, hb, hs, rfl⟩
    exact ⟨d, .inl ⟨hd, fun hn => hne (hb.symm.trans hn.1)⟩, hb, hs, rfl⟩

theorem mem_boardTaskIds {tasks : Table Task} {id : Uuid} :
    id ∈ boardTaskIds tasks boardId ↔ ∃ t, tasks.get? id = some t ∧ t.boardId = some boardId := by
  simp only [boardTaskIds, List.mem_map, List.mem_filter, decide_eq_true_eq]
  constructor
  · rintro ⟨t, ⟨ht, hb⟩, rfl⟩
    exact ⟨t, Table.get?_key ht, hb⟩
  · rintro ⟨t, ht, hb⟩
    exact ⟨t, ⟨Table.mem_of_get? ht, hb⟩, Table.key_of_get? ht⟩

theorem validateDependencyUpdate_eq_ok (h : validateDependencyUpdate search db boardId taskId dependsOn = .ok normalized) :
    normalized = dedupeUuidList dependsOn ∧ taskId ∉ normalized ∧
      (∀ id ∈ normalized, ∃ t, db.tasks.get? id = some t ∧ t.boardId = some boardId) ∧
      (normalized ≠ [] →
        hasCycle search (boardTaskIds db.tasks boardId) (overlayEdges db.dependencies boardId taskId normalized)
          = some false) := by
  simp only [validateDependencyUpdate, bind_eq_ok, require_eq_ok] at h
  obtain ⟨_, hself, h⟩ := h
  split at h
  · rename_i hnil
    obtain rfl := pure_eq_ok.mp h
    exact ⟨hnil.symm, by simp, by simp, fun hne => absurd rfl hne⟩
  · simp only [bind_eq_ok, require_eq_ok, orFail_eq_ok, pure_eq_ok] at h
    obtain ⟨_, hmissing, _, hcycle, _, rfl, rfl⟩ := h
    refine ⟨rfl, hself, ?_, fun _ => hcycle⟩
    intro id hid
    have hmem := List.filter_eq_nil_iff.mp hmissing id hid
    exact mem_boardTaskIds.mp (by simpa using hmem)

theorem replaceTaskDependencies_eq_ok
    (h : replaceTaskDependencies search db boardId taskId dependsOn = .ok (dependencies, normalized)) :
    validateDependencyUpdate search db boardId taskId dependsOn = .ok normalized ∧
      writeTaskDependencies db.dependencies boardId taskId normalized = .ok dependencies := by
  simp only [replaceTaskDependencies, bind_eq_ok, pure_eq_ok] at h
  obtain ⟨_, hvalid, _, hwrite, heq⟩ := h
  obtain ⟨rfl, rfl⟩ := Prod.mk.inj heq
  exact ⟨hvalid, hwrite⟩

/-! ## Acyclicity -/

def AcyclicBoard (dependencies : Table TaskDependency) (boardId : Uuid) : Prop :=
  Acyclic (Cycle.Edge (boardEdges dependencies boardId))

variable {edges : Uuid → List Uuid}

theorem edge_order : Cycle.Edge (fun src => search.order (edges src)) = Cycle.Edge edges := by
  funext x y
  exact propext (search.perm (edges x)).mem_iff

/-- **An accepted list closes no cycle**: the overlay of an acyclic board with it is acyclic. -/
theorem validateDependencyUpdate_acyclic (hdb : DependenciesOnBoard db)
    (hacyclic : AcyclicBoard db.dependencies boardId)
    (h : validateDependencyUpdate search db boardId taskId dependsOn = .ok normalized) :
    Acyclic (Cycle.Edge (overlayEdges db.dependencies boardId taskId normalized)) := by
  obtain ⟨-, -, htasks, hcycle⟩ := validateDependencyUpdate_eq_ok h
  by_cases hnil : normalized = []
  · subst hnil
    apply hacyclic.mono
    intro x y hxy
    unfold Cycle.Edge overlayEdges at hxy
    split at hxy
    · cases hxy
    · exact hxy
  · rw [← @edge_order search]
    apply Cycle.acyclic_of_closed _ (hcycle hnil)
    intro x y hy
    have hy := (search.perm _).mem_iff.mp hy
    rw [(search.perm _).mem_iff, mem_boardTaskIds]
    unfold overlayEdges at hy
    split at hy
    · exact htasks y hy
    · obtain ⟨d, hd, rfl, -, rfl⟩ := mem_boardEdges.mp hy
      exact (hdb d hd).2

/-! ## Exactness -/

/-- `output` holds the values of a list once each, in the order they first occur in. -/
structure KeepsFirst (values output : List Uuid) : Prop where
  nodup : output.Nodup
  mem : ∀ v, v ∈ output ↔ v ∈ values
  order : output.Pairwise fun a b => values.idxOf a < values.idxOf b

theorem pairwise_dedupeUuidList (values : List Uuid) :
    (dedupeUuidList values).Pairwise fun a b => values.idxOf a < values.idxOf b := by
  induction values using List.reverseRecOn with
  | nil => exact List.Pairwise.nil
  | append_singleton values v ih =>
    have hfirst : ∀ {a}, a ∈ dedupeUuidList values → (values ++ [v]).idxOf a = values.idxOf a := fun ha =>
      List.idxOf_append_of_mem (mem_dedupeUuidList.mp ha)
    have hbefore : (dedupeUuidList values).Pairwise fun a b =>
        (values ++ [v]).idxOf a < (values ++ [v]).idxOf b := by
      refine ih.imp_of_mem fun ha hb hab => ?_
      rw [hfirst ha, hfirst hb]
      exact hab
    rw [dedupeUuidList, List.eraseDups_append]
    by_cases hv : v ∈ values
    · have hnone : [v].removeAll values = [] := by simp [List.removeAll, hv]
      rw [hnone, List.eraseDups_nil, List.append_nil]
      exact hbefore
    · have hone : ([v].removeAll values).eraseDups = [v] := by simp [List.removeAll, hv, List.eraseDups_cons]
      rw [hone]
      refine List.pairwise_append.mpr ⟨hbefore, List.pairwise_singleton .., ?_⟩
      rintro a ha b hb
      obtain rfl := List.mem_singleton.mp hb
      have hlast : (values ++ [b]).idxOf b = values.length := by
        rw [List.idxOf_append_of_notMem hv]
        simp
      rw [hfirst ha, hlast]
      exact List.idxOf_lt_length_of_mem (mem_dedupeUuidList.mp ha)

theorem keepsFirst_iff {values output : List Uuid} : KeepsFirst values output ↔ output = dedupeUuidList values := by
  constructor
  · intro h
    have hperm : output.Perm (dedupeUuidList values) :=
      (List.perm_ext_iff_of_nodup h.nodup (nodup_dedupeUuidList values)).mpr fun v => by
        rw [h.mem v, mem_dedupeUuidList]
    refine hperm.eq_of_pairwise ?_ h.order (pairwise_dedupeUuidList values)
    intro a b _ _ hab hba
    exact absurd (hab.trans hba) (lt_irrefl _)
  · rintro rfl
    exact ⟨nodup_dedupeUuidList values, fun v => mem_dedupeUuidList, pairwise_dedupeUuidList values⟩

theorem exists_requested_of_cycle (hacyclic : AcyclicBoard dependencies boardId) {x : Uuid}
    (hx : TransGen (Cycle.Edge (overlayEdges dependencies boardId taskId dependsOn)) x x) :
    ∃ id ∈ dependsOn, TransGen (Cycle.Edge (overlayEdges dependencies boardId taskId dependsOn)) id id := by
  -- a path that never leaves the task is a path of the stored graph
  have hsplit : ∀ y, TransGen (Cycle.Edge (overlayEdges dependencies boardId taskId dependsOn)) x y →
      TransGen (Cycle.Edge (boardEdges dependencies boardId)) x y ∨
        ∃ id ∈ dependsOn, ReflTransGen (Cycle.Edge (overlayEdges dependencies boardId taskId dependsOn)) x taskId ∧
          ReflTransGen (Cycle.Edge (overlayEdges dependencies boardId taskId dependsOn)) id y := by
    intro y hxy
    have hedge : ∀ {a b}, Cycle.Edge (overlayEdges dependencies boardId taskId dependsOn) a b →
        (a = taskId ∧ b ∈ dependsOn) ∨ Cycle.Edge (boardEdges dependencies boardId) a b := by
      intro a b hab
      unfold Cycle.Edge overlayEdges at hab
      split at hab
      · rename_i ha
        exact .inl ⟨ha, hab⟩
      · exact .inr hab
    induction hxy with
    | single hab =>
      rcases hedge hab with ⟨rfl, hb⟩ | hstored
      · exact .inr ⟨_, hb, .refl, .refl⟩
      · exact .inl (.single hstored)
    | tail hpath hab ih =>
      rcases ih with ih | ⟨id, hid, hto, hfrom⟩
      · rcases hedge hab with ⟨rfl, hb⟩ | hstored
        · exact .inr ⟨_, hb, hpath.to_reflTransGen, .refl⟩
        · exact .inl (ih.tail hstored)
      · exact .inr ⟨id, hid, hto, hfrom.tail hab⟩
  rcases hsplit x hx with hstored | ⟨id, hid, hto, hfrom⟩
  · exact absurd hstored (hacyclic x)
  · have hout : Cycle.Edge (overlayEdges dependencies boardId taskId dependsOn) taskId id := by
      unfold Cycle.Edge overlayEdges
      rwa [if_pos rfl]
    exact ⟨id, hid, TransGen.trans_right hfrom (TransGen.tail' hto hout)⟩

theorem acyclic_overlay_of_hasCycle (hacyclic : AcyclicBoard db.dependencies boardId)
    (htasks : ∀ id ∈ dependsOn, id ∈ boardTaskIds db.tasks boardId)
    (h : hasCycle search (boardTaskIds db.tasks boardId) (overlayEdges db.dependencies boardId taskId dependsOn) =
      some false) : Acyclic (Cycle.Edge (overlayEdges db.dependencies boardId taskId dependsOn)) := by
  intro x hx
  obtain ⟨id, hid, hloop⟩ := exists_requested_of_cycle hacyclic hx
  rw [← @edge_order search] at hloop
  exact Cycle.acyclic_of_hasCycle_eq_false _ h id ((search.perm _).mem_iff.mpr (htasks id hid)) id .refl hloop

/-- Where no cycle is reached it finds none, if it is not cut off. -/
theorem hasCycle_eq_false {nodes : List Uuid}
    (hacyclic : ∀ id ∈ nodes, ∀ x, ReflTransGen (Cycle.Edge edges) id x → ¬ TransGen (Cycle.Edge edges) x x)
    (h : hasCycle search nodes edges ≠ none) : hasCycle search nodes edges = some false := by
  obtain ⟨found, hfound⟩ := Option.ne_none_iff_exists'.mp h
  cases found with
  | false => exact hfound
  | true =>
    obtain ⟨id, hid, x, hreach, hx⟩ := Cycle.exists_cycle_of_hasCycle _ hfound
    rw [edge_order] at hreach hx
    exact absurd hx (hacyclic id ((search.perm nodes).mem_iff.mp hid) x hreach)

/-- A search deep enough for the tasks of a board and the ends of its rows. -/
def deepSearch (db : Db) (boardId : Uuid) : CycleSearch where
  frames := (boardTaskIds db.tasks boardId).length + db.dependencies.rows.length + 1

theorem hasCycle_deepSearch (htasks : ∀ id ∈ dependsOn, id ∈ boardTaskIds db.tasks boardId) :
    hasCycle (deepSearch db boardId) (boardTaskIds db.tasks boardId)
      (overlayEdges db.dependencies boardId taskId dependsOn) ≠ none := by
  set verts := boardTaskIds db.tasks boardId ++ db.dependencies.rows.map (·.dependsOnTaskId) with hverts
  have hclosed : ∀ x ∈ verts, ∀ y ∈ overlayEdges db.dependencies boardId taskId dependsOn x, y ∈ verts := by
    intro x _ y hy
    unfold overlayEdges at hy
    rw [hverts, List.mem_append]
    split at hy
    · exact .inl (htasks y hy)
    · obtain ⟨d, hd, -, -, rfl⟩ := mem_boardEdges.mp hy
      exact .inr (List.mem_map_of_mem hd)
  obtain ⟨found, hfound⟩ := Cycle.hasCycle_ends verts (List.subset_append_left ..) hclosed
  have hdeep := hfound (deepSearch db boardId).frames (by simp [hverts, deepSearch])
  exact fun hnone => Option.some_ne_none found (hdeep.symm.trans hnone)

theorem validateDependencyUpdate_deep (h : validateDependencyUpdate search db boardId taskId dependsOn = .ok normalized) :
    validateDependencyUpdate (deepSearch db boardId) db boardId taskId dependsOn = .ok normalized := by
  obtain ⟨hnormalized, hself, htasks, hcycle⟩ := validateDependencyUpdate_eq_ok h
  unfold validateDependencyUpdate
  simp only [← hnormalized, bind_eq_ok, require_eq_ok]
  refine ⟨(), hself, ?_⟩
  split
  · rename_i hnil
    exact pure_eq_ok.mpr hnil.symm
  · rename_i hsome
    have hlisted : ∀ id ∈ normalized, id ∈ boardTaskIds db.tasks boardId := fun id hid => mem_boardTaskIds.mpr (htasks id hid)
    have hmissing : normalized.filter (· ∉ boardTaskIds db.tasks boardId) = [] := by
      simpa [List.filter_eq_nil_iff] using hlisted
    have hfound : hasCycle (deepSearch db boardId) (boardTaskIds db.tasks boardId)
        (overlayEdges db.dependencies boardId taskId normalized) = some false := by
      refine hasCycle_eq_false (fun id hid x hx => ?_) (hasCycle_deepSearch hlisted)
      rw [← @edge_order search] at hx ⊢
      exact Cycle.acyclic_of_hasCycle_eq_false _ (hcycle hsome) id ((search.perm _).mem_iff.mpr hid) x hx
    simp only [bind_eq_ok, require_eq_ok, orFail_eq_ok, pure_eq_ok]
    exact ⟨(), hmissing, false, hfound, (), rfl, trivial⟩

theorem edge_overlay_dedupe : Cycle.Edge (overlayEdges dependencies boardId taskId (dedupeUuidList dependsOn)) =
    Cycle.Edge (overlayEdges dependencies boardId taskId dependsOn) := by
  funext x y
  refine propext ?_
  unfold Cycle.Edge overlayEdges
  split
  · exact mem_dedupeUuidList
  · rfl

/-- **A list is valid**: it names tasks of the board, not the task itself, and closes no cycle. -/
structure ValidDependencies (db : Db) (boardId taskId : Uuid) (dependsOn : List Uuid) : Prop where
  tasks : ∀ id ∈ dependsOn, ∃ t, db.tasks.get? id = some t ∧ t.boardId = some boardId
  others : taskId ∉ dependsOn
  acyclic : Acyclic (Cycle.Edge (overlayEdges db.dependencies boardId taskId dependsOn))

/-- **The accepted lists** are the valid ones over which the search is not cut off. -/
theorem validateDependencyUpdate_eq_ok_iff (hacyclic : AcyclicBoard db.dependencies boardId) (search : CycleSearch)
    (taskId : Uuid) (dependsOn normalized : List Uuid) :
    validateDependencyUpdate search db boardId taskId dependsOn = .ok normalized ↔
      ValidDependencies db boardId taskId dependsOn ∧
        (dependsOn = [] ∨ hasCycle search (boardTaskIds db.tasks boardId)
          (overlayEdges db.dependencies boardId taskId (dedupeUuidList dependsOn)) ≠ none) ∧
        normalized = dedupeUuidList dependsOn := by
  have hnil_iff : dedupeUuidList dependsOn = [] ↔ dependsOn = [] := by
    simp only [List.eq_nil_iff_forall_not_mem, mem_dedupeUuidList]
  have hmissing : (dedupeUuidList dependsOn).filter (fun id => id ∉ boardTaskIds db.tasks boardId) = [] ↔
      ∀ id ∈ dependsOn, ∃ t, db.tasks.get? id = some t ∧ t.boardId = some boardId := by
    simp [List.filter_eq_nil_iff, mem_boardTaskIds]
  simp only [validateDependencyUpdate, bind_eq_ok, require_eq_ok, mem_dedupeUuidList, hnil_iff]
  split
  · rename_i hnil
    subst hnil
    have hoverlay : Acyclic (Cycle.Edge (overlayEdges db.dependencies boardId taskId [])) := by
      refine hacyclic.mono fun x y hxy => ?_
      unfold Cycle.Edge overlayEdges at hxy
      split at hxy
      · cases hxy
      · exact hxy
    constructor
    · rintro ⟨_, hself, h⟩
      exact ⟨⟨fun id hid => absurd hid List.not_mem_nil, hself, hoverlay⟩, .inl rfl, (pure_eq_ok.mp h).symm⟩
    · rintro ⟨hvalid, -, rfl⟩
      exact ⟨(), hvalid.others, rfl⟩
  · rename_i hnil
    simp only [bind_eq_ok, require_eq_ok, orFail_eq_ok, pure_eq_ok, hmissing]
    constructor
    · rintro ⟨_, hself, _, htasks, found, hfound, _, rfl, rfl⟩
      refine ⟨⟨htasks, hself, ?_⟩, .inr (by rw [hfound]; exact Option.some_ne_none _), rfl⟩
      rw [← edge_overlay_dedupe]
      exact acyclic_overlay_of_hasCycle hacyclic
        (fun id hid => mem_boardTaskIds.mpr (htasks id (mem_dedupeUuidList.mp hid))) hfound
    · rintro ⟨hvalid, hends, rfl⟩
      have hoverlay := hvalid.acyclic
      rw [← edge_overlay_dedupe] at hoverlay
      exact ⟨(), hvalid.others, (), hvalid.tasks, false,
        hasCycle_eq_false (fun _ _ x _ => hoverlay x) (hends.resolve_left hnil), (), rfl, rfl⟩

/-! ## How deep the search goes -/

/-- No path of dependencies from a task of the board has more tasks than the search nests calls. -/
def PathsFit (frames : Nat) (db : Db) (boardId taskId : Uuid) (dependsOn : List Uuid) : Prop :=
  ∀ id ∈ boardTaskIds db.tasks boardId, Cycle.Shallow (overlayEdges db.dependencies boardId taskId dependsOn) frames id

theorem shallow_congr {edges' : Uuid → List Uuid} (h : Cycle.Edge edges = Cycle.Edge edges') {frames : Nat}
    {id : Uuid} : Cycle.Shallow edges frames id ↔ Cycle.Shallow edges' frames id := by
  unfold Cycle.Shallow
  rw [h]

theorem pathsFit_dedupe {frames : Nat} :
    PathsFit frames db boardId taskId (dedupeUuidList dependsOn) ↔ PathsFit frames db boardId taskId dependsOn :=
  forall₂_congr fun _ _ => shallow_congr edge_overlay_dedupe

/-- The search is cut off in no order exactly where the paths fit. -/
theorem pathsFit_iff {frames : Nat}
    (hacyclic : Acyclic (Cycle.Edge (overlayEdges db.dependencies boardId taskId dependsOn))) :
    (∀ search : CycleSearch, search.frames = frames → hasCycle search (boardTaskIds db.tasks boardId)
      (overlayEdges db.dependencies boardId taskId dependsOn) ≠ none) ↔ PathsFit frames db boardId taskId dependsOn := by
  constructor
  · intro h id hid path hpath
    by_contra hlong
    -- gone through along the path, the board is searched too deep
    obtain ⟨hchain, hnodup⟩ := Cycle.isChain_along hacyclic hpath
    have hfirst : (Cycle.along (id :: path) (boardTaskIds db.tasks boardId)).head? = some id :=
      Cycle.head?_along List.mem_cons_self hid fun _ _ => by simp
    obtain ⟨rest, hnodes⟩ := List.head?_eq_some_iff.mp hfirst
    refine h ⟨frames, Cycle.along (id :: path), Cycle.along_perm _⟩ rfl ?_
    unfold hasCycle
    simp only [hnodes]
    exact Cycle.hasCycle_eq_none (Nat.le_of_lt_succ (not_le.mp hlong)) hchain hnodup
  · rintro h search rfl
    exact Cycle.hasCycle_ne_none fun id hid =>
      (shallow_congr edge_order).mpr (h id ((search.perm _).mem_iff.mp hid))

def edgesGet (edges : List (Uuid × List Uuid)) (src : Uuid) : List Uuid := (edges.lookup src).getD []

/-- The recursive search ends on every graph, with the same answer from some depth on. -/
theorem hasCycle_ends (search : CycleSearch) (nodes : List Uuid) (edges : List (Uuid × List Uuid)) :
    ∃ depth answer, ∀ n ≥ depth, hasCycle { search with frames := n } nodes (edgesGet edges) = some answer := by
  have hnodes : search.order nodes ⊆ nodes ++ edges.flatMap (·.2) := fun id hid =>
    List.mem_append_left _ ((search.perm nodes).mem_iff.mp hid)
  have hclosed : ∀ x ∈ nodes ++ edges.flatMap (·.2), ∀ y ∈ search.order (edgesGet edges x),
      y ∈ nodes ++ edges.flatMap (·.2) := by
    intro x _ y hy
    have hy := (search.perm _).mem_iff.mp hy
    unfold edgesGet at hy
    cases hx : edges.lookup x with
    | none =>
      rw [hx] at hy
      cases hy
    | some targets =>
      rw [hx] at hy
      obtain ⟨before, after, hedges, -⟩ := List.lookup_eq_some_iff.mp hx
      refine List.mem_append_right _ (List.mem_flatMap.mpr ⟨(x, targets), ?_, hy⟩)
      rw [hedges]
      exact List.mem_append_right _ List.mem_cons_self
  obtain ⟨answer, hanswer⟩ := Cycle.hasCycle_ends _ hnodes hclosed
  exact ⟨_, answer, fun n hn => hanswer n hn⟩

/-- **Dependency validation is exact**: with a stack for so many calls, and whatever the order rows and sets are gone
through in, exactly the valid lists are accepted, and their first occurrences returned. -/
def ValidatesExactly (frames : Nat) (db : Db) (boardId taskId : Uuid) (dependsOn : List Uuid) : Prop :=
  ∀ search : CycleSearch, search.frames = frames →
    ((∃ normalized, validateDependencyUpdate search db boardId taskId dependsOn = .ok normalized) ↔
      ValidDependencies db boardId taskId dependsOn) ∧
    ∀ normalized, validateDependencyUpdate search db boardId taskId dependsOn = .ok normalized →
      KeepsFirst dependsOn normalized

theorem validatesExactly_of_acyclic (hacyclic : AcyclicBoard db.dependencies boardId) (frames : Nat) (taskId : Uuid)
    (dependsOn : List Uuid) : ValidatesExactly frames db boardId taskId dependsOn ↔
      (ValidDependencies db boardId taskId dependsOn → dependsOn = [] ∨ PathsFit frames db boardId taskId dependsOn) := by
  unfold ValidatesExactly
  simp only [validateDependencyUpdate_eq_ok_iff hacyclic]
  constructor
  · intro h hvalid
    rw [or_iff_not_imp_left, ← pathsFit_dedupe]
    intro hsome
    refine (pathsFit_iff (by rw [edge_overlay_dedupe]; exact hvalid.acyclic)).mp fun search hframes => ?_
    obtain ⟨_, -, hends, -⟩ := (h search hframes).1.mpr hvalid
    exact hends.resolve_left hsome
  · intro h search hframes
    refine ⟨⟨?_, fun hvalid => ⟨_, hvalid, ?_, rfl⟩⟩, ?_⟩
    · rintro ⟨_, hvalid, -⟩
      exact hvalid
    · refine (h hvalid).imp_right fun hfit => ?_
      exact (pathsFit_iff (by rw [edge_overlay_dedupe]; exact hvalid.acyclic)).mpr (pathsFit_dedupe.mpr hfit)
        search hframes
    · rintro normalized ⟨-, -, rfl⟩
      exact keepsFirst_iff.mpr rfl

/-- **Where dependency validation is exact**: over an acyclic board, exactly where a valid list is empty or its paths fit;
and the search itself ends on every graph, if it may go deep enough. -/
theorem validateDependencyUpdate_exact {db : Db} {boardId : Uuid} (hacyclic : AcyclicBoard db.dependencies boardId)
    (frames : Nat) (taskId : Uuid) (dependsOn : List Uuid) :
    (ValidatesExactly frames db boardId taskId dependsOn ↔
      (ValidDependencies db boardId taskId dependsOn → dependsOn = [] ∨ PathsFit frames db boardId taskId dependsOn)) ∧
    ∀ (search : CycleSearch) (nodes : List Uuid) (edges : List (Uuid × List Uuid)), ∃ depth answer, ∀ n ≥ depth,
      hasCycle { search with frames := n } nodes (edgesGet edges) = some answer :=
  ⟨validatesExactly_of_acyclic hacyclic frames taskId dependsOn, hasCycle_ends⟩

namespace Sample

/-- A board with three tasks, the first of which waits for the second. -/
def threeTasks : Db where
  tasks := ⟨[{ id := 1, boardId := some 1, title := "Ship" }, { id := 2, boardId := some 1, title := "Build" },
    { id := 3, boardId := some 1, title := "Plan" }], by decide⟩
  dependencies := ⟨[{ boardId := 1, taskId := 1, dependsOnTaskId := 2 }], by decide⟩

/-- A board with tasks `0` to `m + 1`, each of the first `m` of which waits for the next one. -/
def chain (m : Nat) : Db where
  tasks := {
    rows := (List.range (m + 2)).map fun i => { id := i, boardId := some 1, title := "Step" }
    nodup := by
      rw [List.map_map]
      exact List.nodup_range.map fun i j h => h }
  dependencies := {
    rows := (List.range m).map fun i => { boardId := 1, taskId := i, dependsOnTaskId := i + 1 }
    nodup := by
      rw [List.map_map]
      exact List.nodup_range.map fun i j h => (Prod.mk.inj h).1 }

end Sample

theorem edge_threeTasks {x y : Uuid} (h : Cycle.Edge (overlayEdges Sample.threeTasks.dependencies 1 2 [3, 3]) x y) :
    (x = 1 ∧ y = 2) ∨ x = 2 ∧ y = 3 := by
  unfold Cycle.Edge overlayEdges at h
  split at h
  · rename_i hx
    exact .inr ⟨hx, by simpa using h⟩
  · obtain ⟨d, hd, -, rfl, rfl⟩ := mem_boardEdges.mp h
    obtain rfl := List.mem_singleton.mp hd
    exact .inl ⟨rfl, rfl⟩

theorem acyclicBoard_threeTasks : AcyclicBoard Sample.threeTasks.dependencies 1 := by
  refine acyclic_of_rank (fun x => 3 - x) fun x y hxy => ?_
  obtain ⟨d, hd, -, rfl, rfl⟩ := mem_boardEdges.mp hxy
  obtain rfl := List.mem_singleton.mp hd
  decide

theorem valid_threeTasks : ValidDependencies Sample.threeTasks 1 2 [3, 3] where
  tasks id hid := by
    obtain rfl : id = 3 := by simpa using hid
    exact ⟨{ id := 3, boardId := some 1, title := "Plan" }, by decide, rfl⟩
  others := by decide
  acyclic := acyclic_of_rank (fun x => 3 - x) fun x y hxy => by
    rcases edge_threeTasks hxy with ⟨rfl, rfl⟩ | ⟨rfl, rfl⟩ <;> decide

/-- The path through the three tasks fits on a stack for three calls, and not on one for two. -/
theorem validateDependencyUpdate_exact_threeTasks :
    ValidatesExactly 3 Sample.threeTasks 1 2 [3, 3] ∧ ¬ ValidatesExactly 2 Sample.threeTasks 1 2 [3, 3] := by
  constructor
  · refine (validateDependencyUpdate_exact acyclicBoard_threeTasks 3 2 [3, 3]).1.mpr fun _ => .inr fun id hid path hpath => ?_
    have hdown : ∀ x y, Cycle.Edge (overlayEdges Sample.threeTasks.dependencies 1 2 [3, 3]) x y → 3 - y < 3 - x := by
      intro x y hxy
      rcases edge_threeTasks hxy with ⟨rfl, rfl⟩ | ⟨rfl, rfl⟩ <;> decide
    have hlength := Cycle.shallow_of_rank (fun x => 3 - x) hdown id path hpath
    have hids : id = 1 ∨ id = 2 ∨ id = 3 := by simpa [boardTaskIds, Sample.threeTasks] using hid
    have hrank : 3 - id + 1 ≤ 3 := by rcases hids with rfl | rfl | rfl <;> decide
    exact hlength.trans hrank
  · intro h
    obtain hnil | hfit := (validateDependencyUpdate_exact acyclicBoard_threeTasks 2 2 [3, 3]).1.mp h valid_threeTasks
    · cases hnil
    · have hpath : List.IsChain (Cycle.Edge (overlayEdges Sample.threeTasks.dependencies 1 2 [3, 3])) [1, 2, 3] := by
        simp [Cycle.Edge, overlayEdges, boardEdges, Sample.threeTasks]
      exact absurd (hfit 1 (by decide) [2, 3] hpath) (by decide)

theorem edge_chain_iff {m x y : Nat} :
    Cycle.Edge (overlayEdges (Sample.chain m).dependencies 1 m [m + 1]) x y ↔ x ≤ m ∧ y = x + 1 := by
  unfold Cycle.Edge overlayEdges
  split
  · rename_i hx
    subst hx
    rw [List.mem_singleton]
    exact ⟨fun h => ⟨le_rfl, h⟩, And.right⟩
  · rename_i hx
    rw [mem_boardEdges]
    constructor
    · rintro ⟨d, hd, -, rfl, rfl⟩
      obtain ⟨i, hi, rfl⟩ := List.mem_map.mp hd
      exact ⟨(List.mem_range.mp hi).le, rfl⟩
    · rintro ⟨hle, rfl⟩
      exact ⟨{ boardId := 1, taskId := x, dependsOnTaskId := x + 1 },
        List.mem_map.mpr ⟨x, List.mem_range.mpr (lt_of_le_of_ne hle hx), rfl⟩, rfl, rfl, rfl⟩

theorem acyclicBoard_chain (m : Nat) : AcyclicBoard (Sample.chain m).dependencies 1 := by
  refine acyclic_of_rank (fun x => m - x) fun x y hxy => ?_
  obtain ⟨d, hd, -, rfl, rfl⟩ := mem_boardEdges.mp hxy
  obtain ⟨i, hi, rfl⟩ := List.mem_map.mp hd
  have hless := List.mem_range.mp hi
  show m - (i + 1) < m - i
  omega

theorem mem_boardTaskIds_chain {m id : Nat} : id ∈ boardTaskIds (Sample.chain m).tasks 1 ↔ id < m + 2 := by
  simp [boardTaskIds, Sample.chain, List.filter_map]

theorem valid_chain (m : Nat) : ValidDependencies (Sample.chain m) 1 m [m + 1] where
  tasks id hid := mem_boardTaskIds.mp (mem_boardTaskIds_chain.mpr (by
    rw [List.mem_singleton.mp hid]
    omega))
  others := by simp
  acyclic := acyclic_of_rank (fun x => m + 1 - x) fun x y hxy => by
    obtain ⟨hle, rfl⟩ := edge_chain_iff.mp hxy
    omega

/-- A path through all tasks of the chain is too deep for one call less than it has tasks. -/
theorem not_validatesExactly_chain (m : Nat) : ¬ ValidatesExactly (m + 1) (Sample.chain m) 1 m [m + 1] := by
  intro h
  obtain hnil | hfit := (validatesExactly_of_acyclic (acyclicBoard_chain m) (m + 1) m [m + 1]).mp h (valid_chain m)
  · cases hnil
  · have hpath : List.IsChain (Cycle.Edge (overlayEdges (Sample.chain m).dependencies 1 m [m + 1])) (List.range (m + 2)) :=
      (List.isChain_range_succ _ _).mpr fun i hi => edge_chain_iff.mpr ⟨Nat.le_of_lt_succ hi, rfl⟩
    rw [List.range_succ_eq_map] at hpath
    have hlength := hfit 0 (mem_boardTaskIds_chain.mpr (by omega)) _ hpath
    rw [List.length_cons, List.length_map, List.length_range] at hlength
    omega

/-- The thousandth task of a chain cannot be made to wait for one more. -/
theorem not_validateDependencyUpdate_exact : ¬ ∀ (db : Db) (boardId taskId : Uuid) (dependsOn : List Uuid),
    AcyclicBoard db.dependencies boardId → ValidatesExactly 1000 db boardId taskId dependsOn :=
  fun h => not_validatesExactly_chain 999 (h (Sample.chain 999) 1 999 [1000] (acyclicBoard_chain 999))

end SiloForge
