import SiloForge.System.Timing
import SiloForge.Tasks.Progress

/-!
# Repeating a PATCH

The rules of a PATCH look at the status a request asks for, not at whether the task has it already. So a request that is
sent again starts the work once more, forgets when it began, or takes the task from the lead who reviews it.

* `StoredPatch` : what an accepted PATCH leaves; `StoredPatch.dependencies_again`, `StoredPatch.tags_again`,
  `StoredPatch.values_again`: the second time it finds the dependencies, the tags and the values it writes;
* `keptByRepeat_iff` : that is so exactly where the request resets a blocked task or moves it once (`Repeats`).
-/

namespace SiloForge

open Lib

/-! ## What an accepted PATCH leaves -/

/-- The parts of the state an accepted PATCH without a comment leaves: the row `task'` under the dependencies `deps`. -/
structure StoredPatch (texts : Texts) (db : Db) (update : TaskUpdateInput) (actor : ActorContext) (task' : Task)
    (deps : List Uuid) (tagIds : Option (List Uuid)) (db' : Db) : Prop where
  same : SameTask update.task task'
  progress : task'.progress = update.task.progress.patch (settingOf db update actor) update.now update.updates
  dependencies : effectiveDependencies texts.search db update = .ok (db'.dependencies, deps)
  normalized : normalizedUpdateTagIds db update = .ok tagIds
  tags : storeTags db update tagIds = .ok db'.tagAssignments
  values : storeCustomFieldValues texts db update = .ok db'.customFieldValues
  state : ∃ agentId, db' = recordTaskUpdate
    (storedState db task' db'.dependencies db'.tagAssignments db'.customFieldValues) update task' agentId

theorem finalizeUpdatedTask_last {texts : Texts} {db db' : Db} {update : TaskUpdateInput} {row : AdminUpdate}
    {agentId : Option Uuid} {pre : List Db} (hcomment : update.updates.comment = none)
    (h : finalizeUpdatedTask texts db update row agentId = .ok (pre ++ [db'])) :
    ∃ stored task', storeUpdatedTask texts db update row = .ok (stored, task') ∧
      db' = recordTaskUpdate stored update task' agentId := by
  simp only [finalizeUpdatedTask, bind_eq_ok] at h
  obtain ⟨⟨stored, task'⟩, hstore, h⟩ := h
  refine ⟨stored, task', hstore, ?_⟩
  rw [hcomment] at h
  have hcommits := pure_eq_ok.mp h
  have hsplit : [stored] ++ [recordTaskUpdate stored update task' agentId] = pre ++ [db'] := hcommits
  exact (List.singleton_inj.mp (List.append_inj' hsplit rfl).2).symm

theorem storedPatch_of_finalize {texts : Texts} {db db' : Db} {update : TaskUpdateInput} {actor : ActorContext}
    {row : AdminUpdate} {agentId : Option Uuid} {pre : List Db} {deps : List Uuid}
    (hcomment : update.updates.comment = none) (hsame : SameTask update.task row.task)
    (hprogress : ∀ stored task', storeUpdatedTask texts db update row = .ok (stored, task') →
      task'.progress = update.task.progress.patch (settingOf db update actor) update.now update.updates)
    (heff : effectiveDependencies texts.search db update = .ok (row.dependencies, deps))
    (hnormalized : normalizedUpdateTagIds db update = .ok row.tagIds)
    (h : finalizeUpdatedTask texts db update row agentId = .ok (pre ++ [db'])) :
    ∃ task', StoredPatch texts db update actor task' deps row.tagIds db' := by
  obtain ⟨stored, task', hstore, rfl⟩ := finalizeUpdatedTask_last hcomment h
  obtain ⟨htags, hvalues, hstored⟩ := storeUpdatedTask_parts hstore
  have hdependencies : row.dependencies = stored.dependencies := by rw [hstored]; rfl
  rw [hdependencies] at heff hstored
  exact ⟨task', hsame.trans (storeUpdatedTask_eq_ok hstore).1.same, hprogress _ _ hstore, heff, hnormalized, htags,
    hvalues, agentId, congrArg (recordTaskUpdate · update task' agentId) hstored⟩

theorem updateTask_stored {texts : Texts} {db db' : Db} {now : Time} {boardId taskId : Uuid} {actor : Actor}
    {payload : TaskUpdate} {pre : List Db} (hactor : actor.leads db = false) (hcomment : payload.comment = none)
    (h : updateTask texts db now boardId taskId actor payload = .ok (pre ++ [db'])) :
    ∃ ctx task task' deps tagIds, requireUserOrAgent db actor = .ok ctx ∧ db.tasks.get? taskId = some task ∧
      task.id = taskId ∧
      StoredPatch texts db { task, boardId, now, updates := payload } ctx task' deps tagIds db' := by
  simp only [updateTask, bind_eq_ok] at h
  obtain ⟨ctx, hctx, board, hread, task, hfound, h⟩ := h
  obtain ⟨-, rfl⟩ := getBoardForActor_eq_ok hread
  obtain ⟨htask, rfl, -⟩ := getTaskOr404_eq_ok hfound
  cases ctx with
  | user userId =>
    simp only [bind_eq_ok] at h
    obtain ⟨_, -, row, hrow, h⟩ := h
    obtain ⟨hnormalized, deps, heff, -⟩ := applyAdminTaskRules_row hrow
    obtain ⟨task', hstored⟩ := storedPatch_of_finalize hcomment (applyAdminTaskRules_same hrow)
      (fun _ _ => user_progress hrow) heff hnormalized h
    exact ⟨_, task, task', deps, row.tagIds, hctx, htask, rfl, hstored⟩
  | agent agent =>
    dsimp only at h
    split at h
    · rename_i hlead
      exact absurd (leads_of_isLead hctx hlead) (by rw [hactor]; decide)
    · simp only [bind_eq_ok] at h
      obtain ⟨row, hrow, h⟩ := h
      obtain ⟨hdeps, htagIds, -⟩ := (applyNonLeadAgentTaskRules_eq_ok hrow).1
      have heff : effectiveDependencies texts.search db { task, boardId := board.id, now, updates := payload } =
          .ok (db.dependencies, taskDepIds db board.id task.id) := by rw [effectiveDependencies, hdeps]
      have hnormalized : normalizedUpdateTagIds db { task, boardId := board.id, now, updates := payload } =
          .ok none := by rw [normalizedUpdateTagIds, htagIds]
      obtain ⟨task', hstored⟩ := storedPatch_of_finalize hcomment (applyNonLeadAgentTaskRules_same hrow)
        (fun _ _ => agent_progress hrow) heff hnormalized h
      exact ⟨_, task, task', _, _, hctx, htask, rfl, hstored⟩

theorem reconcileTasks_done (db : Db) (now : Time) (boardId : Uuid) (dep : Task) (previousStatus : TaskStatus) :
    ∃ f : Task → Task, (∀ t, (f t).boardId = t.boardId ∧ ((f t).status = .done ↔ t.status = .done)) ∧
      ∀ id, (reconcileTasks db now boardId dep previousStatus).get? id = (db.tasks.get? id).map f := by
  unfold reconcileTasks
  split
  · refine ⟨_, fun t => ?_, fun id => Table.get?_updateWhere ..⟩
    split
    · rename_i hreset
      exact ⟨rfl, iff_of_false (by rintro ⟨⟩) (of_decide_eq_true hreset).2.2.1⟩
    · exact ⟨rfl, Iff.rfl⟩
  · exact ⟨id, fun t => ⟨rfl, Iff.rfl⟩, fun id => (congrFun Option.map_id _).symm⟩

namespace StoredPatch

variable {texts : Texts} {db db' db'' : Db} {update : TaskUpdateInput} {now' : Time} {actor : ActorContext}
  {task' task'' : Task} {deps deps' : List Uuid} {tagIds tagIds' : Option (List Uuid)}

theorem not_mem_deps (h : StoredPatch texts db update actor task' deps tagIds db')
    (hself : ∀ d ∈ db.dependencies, d.taskId ≠ d.dependsOnTaskId) : update.task.id ∉ deps := by
  rcases effectiveDependencies_eq_ok h.dependencies with ⟨-, -, rfl⟩ | ⟨_, -, -, hvalid, -⟩
  · intro hmem
    obtain ⟨d, hd, -, htask, hdep⟩ := mem_taskDepIds.mp hmem
    exact hself d hd (htask.trans hdep.symm)
  · exact (validateDependencyUpdate_eq_ok hvalid).2.1

theorem noSelf (h : StoredPatch texts db update actor task' deps tagIds db')
    (hself : ∀ d ∈ db.dependencies, d.taskId ≠ d.dependsOnTaskId) :
    ∀ d ∈ db'.dependencies, d.taskId ≠ d.dependsOnTaskId := by
  intro d hd
  rcases effectiveDependencies_eq_ok h.dependencies with ⟨-, hkept, -⟩ | ⟨_, -, -, hvalid, hwrite⟩
  · exact hself d (hkept ▸ hd)
  · rcases (mem_writeTaskDependencies hwrite d).mp hd with ⟨hold, -⟩ | ⟨-, htask, hdep⟩
    · exact hself d hold
    · rintro heq
      exact (validateDependencyUpdate_eq_ok hvalid).2.1 (htask ▸ heq ▸ hdep)

theorem get?_task (h : StoredPatch texts db update actor task' deps tagIds db')
    (hself : ∀ d ∈ db.dependencies, d.taskId ≠ d.dependsOnTaskId)
    (hfound : db.tasks.get? update.task.id = some update.task) : db'.tasks.get? update.task.id = some task' := by
  have hself' : ∀ d ∈ (storedState db task' db'.dependencies db'.tagAssignments db'.customFieldValues).dependencies,
      d.taskId ≠ d.dependsOnTaskId := h.noSelf hself
  obtain ⟨agentId, hstate⟩ := h.state
  have hput := get?_put_patched hfound h.same
  rw [← h.same.id] at hput ⊢
  rw [hstate]
  exact get?_reconcileTasks_self hself' hput

theorem dependencyStatus_done (h : StoredPatch texts db update actor task' deps tagIds db') {boardId id : Uuid}
    (hne : id ≠ update.task.id) :
    dependencyStatusById db' boardId id = some .done ↔ dependencyStatusById db boardId id = some .done := by
  obtain ⟨agentId, hstate⟩ := h.state
  obtain ⟨f, hf, hget⟩ := reconcileTasks_done
    (storedState db task' db'.dependencies db'.tagAssignments db'.customFieldValues) update.now update.boardId task'
    update.task.status
  have htasks : db'.tasks.get? id = (db.tasks.get? id).map f := by
    rw [hstate]
    refine (hget id).trans (congrArg (Option.map f) (Table.get?_put_ne ?_))
    exact fun hid => hne (hid.trans h.same.id)
  unfold dependencyStatusById
  rw [htasks]
  cases db.tasks.get? id with
  | none => exact Iff.rfl
  | some t =>
    obtain ⟨hboard, hdone⟩ := hf t
    by_cases hon : t.boardId = some boardId
    · simp [Option.filter, hboard, hon, hdone]
    · simp [Option.filter, hboard, hon]

theorem taskBlockedIds_eq (h : StoredPatch texts db update actor task' deps tagIds db')
    (hself : ∀ d ∈ db.dependencies, d.taskId ≠ d.dependsOnTaskId) :
    taskBlockedIds db' update.boardId deps = taskBlockedIds db update.boardId deps := by
  apply List.filter_congr
  intro id hid
  have hne : id ≠ update.task.id := fun heq => h.not_mem_deps hself (heq ▸ hid)
  rw [decide_eq_decide]
  exact not_congr (h.dependencyStatus_done hne)

section Again
variable (h : StoredPatch texts db update actor task' deps tagIds db')
  (hagain : StoredPatch texts db' { update with task := task', now := now' } actor task'' deps' tagIds' db'')
include h hagain

theorem dependencies_again : deps' = deps ∧ db''.dependencies = db'.dependencies := by
  have hid : task'.id = update.task.id := h.same.id
  rcases effectiveDependencies_eq_ok h.dependencies with ⟨hnone, hkept, hdeps⟩ | ⟨list, hsome, -, hvalid, hwrite⟩
  · rcases effectiveDependencies_eq_ok hagain.dependencies with ⟨-, hkept', hdeps'⟩ | ⟨_, hsome', -⟩
    · refine ⟨?_, hkept'⟩
      rw [hdeps', hdeps]
      show taskDepIds db' update.boardId task'.id = _
      unfold taskDepIds
      rw [hid, hkept]
    · rw [show update.updates.dependsOnTaskIds = _ from hsome'] at hnone
      cases hnone
  · rcases effectiveDependencies_eq_ok hagain.dependencies with ⟨hnone', -⟩ | ⟨list', hsome', -, hvalid', hwrite'⟩
    · rw [show update.updates.dependsOnTaskIds = none from hnone'] at hsome
      cases hsome
    · obtain rfl : list = list' := Option.some.inj (hsome.symm.trans hsome')
      have hdeps : deps' = deps :=
        (validateDependencyUpdate_eq_ok hvalid').1.trans (validateDependencyUpdate_eq_ok hvalid).1.symm
      refine ⟨hdeps, ?_⟩
      have hwritten : writeTaskDependencies db'.dependencies update.boardId task'.id deps' = .ok db''.dependencies :=
        hwrite'
      rw [hdeps, hid] at hwritten
      refine Table.replace_again (fun d hd => ?_) (orFail_eq_ok.mp hwrite) (orFail_eq_ok.mp hwritten)
      obtain ⟨hboard, htask, -⟩ := mem_dependencyRows.mp hd
      exact decide_eq_true ⟨hboard, htask⟩

theorem tags_again : db''.tagAssignments = db'.tagAssignments := by
  obtain ⟨agentId, hstate⟩ := h.state
  have hnormalized : normalizedUpdateTagIds db' { update with task := task', now := now' } = .ok tagIds := by
    rw [hstate]
    exact h.normalized
  obtain rfl : tagIds = tagIds' := Except.ok.inj (hnormalized.symm.trans hagain.normalized)
  have htags := h.tags
  have htags' := hagain.tags
  cases tagIds with
  | none => exact (Except.ok.inj htags').symm
  | some ids =>
    have hid : task'.id = update.task.id := h.same.id
    have hwritten : replaceTags db'.tagAssignments task'.id ids = .ok db''.tagAssignments := htags'
    rw [hid] at hwritten
    refine Table.replace_again (fun a ha => ?_) (orFail_eq_ok.mp htags) (orFail_eq_ok.mp hwritten)
    obtain ⟨_, -, rfl⟩ := List.mem_map.mp ha
    exact decide_eq_true rfl

theorem values_again (definitionId : Uuid) :
    taskValues db''.customFieldValues update.task.id definitionId =
      taskValues db'.customFieldValues update.task.id definitionId := by
  have hid : task'.id = update.task.id := h.same.id
  have hvalues := h.values
  have hvalues' := hagain.values
  unfold storeCustomFieldValues at hvalues hvalues'
  cases hrequested : update.updates.customFieldValues with
  | none =>
    rw [hrequested] at hvalues'
    rw [Except.ok.inj hvalues']
  | some values =>
    rw [hrequested] at hvalues hvalues'
    obtain ⟨definitions, hdefs, hstored⟩ := taskValues_of_update hvalues
    obtain ⟨definitions', hdefs', hstored'⟩ := taskValues_of_update hvalues'
    obtain ⟨agentId, hstate⟩ := h.state
    have hsame : organizationCustomFieldDefinitionsForBoard db' update.boardId = .ok definitions := by
      rw [hstate]
      exact hdefs
    obtain rfl : definitions = definitions' := Except.ok.inj (hsame.symm.trans hdefs')
    have hfound : taskValues db''.customFieldValues update.task.id =
        values.foldl (setValue definitions) (taskValues db'.customFieldValues update.task.id) := hid ▸ hstored'
    rw [hfound, hstored, foldl_overwrites_again (setValue_overwrites definitions)]

theorem setting_again (hself : ∀ d ∈ db.dependencies, d.taskId ≠ d.dependsOnTaskId) :
    settingOf db' { update with task := task', now := now' } actor = settingOf db update actor := by
  obtain ⟨agentId, hstate⟩ := h.state
  have hlead : reviewLead db' update.boardId = reviewLead db update.boardId := by rw [hstate]; rfl
  have hblocked : leavesBlocked db' { update with task := task', now := now' } = leavesBlocked db update := by
    rw [Bool.eq_iff_iff, leavesBlocked_iff hagain.dependencies, leavesBlocked_iff h.dependencies,
      (h.dependencies_again hagain).1]
    exact not_congr (by rw [h.taskBlockedIds_eq hself])
  unfold settingOf
  rw [hblocked, hlead]

end Again

end StoredPatch

/-! ## The same request twice -/

/-- A PATCH without a comment, of an actor that leads no board, accepted twice with nothing in between. -/
structure AcceptedTwice (texts : Texts) (db : Db) (now now' : Time) (boardId taskId : Uuid) (actor : Actor)
    (payload : TaskUpdate) (first second : Db) : Prop where
  noLead : actor.leads db = false
  noComment : payload.comment = none
  accepted : ∃ commits, updateTask texts db now boardId taskId actor payload = .ok (commits ++ [first])
  again : ∃ commits, updateTask texts first now' boardId taskId actor payload = .ok (commits ++ [second])

/-- Status, assignee, times, dependencies, tags and custom field values of the task are the same. -/
structure KeptByRepeat (taskId : Uuid) (first second : Db) : Prop where
  progress : (second.tasks.get? taskId).map Task.progress = (first.tasks.get? taskId).map Task.progress
  dependencies : second.dependencies.rows.filter (·.taskId = taskId) =
    first.dependencies.rows.filter (·.taskId = taskId)
  tags : second.tagAssignments.rows.filter (·.taskId = taskId) =
    first.tagAssignments.rows.filter (·.taskId = taskId)
  values : ∀ definitionId, taskValues second.customFieldValues taskId definitionId =
    taskValues first.customFieldValues taskId definitionId

/-- The request resets the task because its dependencies block it, or it moves it once. -/
def Repeats (db : Db) (update : TaskUpdateInput) (actor : Actor) (now' : Time) : Prop :=
  TaskProgress.Resets (actor.isUser && leavesBlocked db update) update.updates update.task.progress ∨
    TaskProgress.MovesOnce (reviewLead db update.boardId) update.now now' update.updates.assignedAgentId
      update.task.progress update.updates.status

instance (db : Db) (update : TaskUpdateInput) (actor : Actor) (now' : Time) :
    Decidable (Repeats db update actor now') := inferInstanceAs (Decidable (_ ∨ _))

/-- **A PATCH repeated changes nothing** of the task exactly where it resets a blocked task or moves it once. -/
theorem keptByRepeat_iff {texts : Texts} {db first second : Db} {now now' : Time} {boardId taskId : Uuid}
    {actor : Actor} {payload : TaskUpdate} {task : Task}
    (hself : ∀ d ∈ db.dependencies, d.taskId ≠ d.dependsOnTaskId) (htask : db.tasks.get? taskId = some task)
    (h : AcceptedTwice texts db now now' boardId taskId actor payload first second) :
    KeptByRepeat taskId first second ↔ Repeats db { task, boardId, now, updates := payload } actor now' := by
  obtain ⟨hlead, hcomment, ⟨commits, haccepted⟩, ⟨commits', hagain⟩⟩ := h
  obtain ⟨ctx, task₀, task', deps, tagIds, hctx, hfound, rfl, hstored⟩ := updateTask_stored hlead hcomment haccepted
  obtain rfl : task = task₀ := Option.some.inj (htask.symm.trans hfound)
  obtain ⟨agentId, hstate⟩ := hstored.state
  have hagents : first.agents = db.agents := by rw [hstate]; rfl
  have hlead' : actor.leads first = false := by
    cases actor with
    | user userId => rfl
    | agent agentId =>
      rw [← hlead]
      unfold Actor.leads
      rw [hagents]
  obtain ⟨ctx', task₁, task'', deps', tagIds', hctx', hfound', -, hstored'⟩ :=
    updateTask_stored hlead' hcomment hagain
  have hsame : ctx = ctx' := by
    have hctx₁ : requireUserOrAgent first actor = .ok ctx := by
      rw [← hctx]
      unfold requireUserOrAgent
      rw [hagents]
    exact Except.ok.inj (hctx₁.symm.trans hctx')
  subst hsame
  have hrow : first.tasks.get? task.id = some task' := hstored.get?_task hself hfound
  obtain rfl : task' = task₁ := Option.some.inj (hrow.symm.trans hfound')
  have hid : task'.id = task.id := hstored.same.id
  have hrow' : second.tasks.get? task.id = some task'' := by
    have hkept := hstored'.get?_task (hstored.noSelf hself) (by rw [← hid] at hfound'; exact hfound')
    rw [← hid]
    exact hkept
  have hprogress : task''.progress = task'.progress ↔
      Repeats db { task, boardId, now, updates := payload } actor now' := by
    have hsetting := hstored.setting_again hstored' hself
    rw [hstored'.progress, hsetting, hstored.progress]
    refine TaskProgress.patch_patch_iff.trans ?_
    unfold Repeats
    rw [← isUser_of_requireUserOrAgent hctx]
    exact Iff.rfl
  constructor
  · intro hkept
    have hcolumns := hkept.progress
    rw [hrow, hrow'] at hcolumns
    exact hprogress.mp (Option.some.inj hcolumns)
  · intro hrepeats
    refine ⟨?_, ?_, ?_, fun definitionId => hstored.values_again hstored' definitionId⟩
    · rw [hrow, hrow', Option.map_some, Option.map_some, hprogress.mpr hrepeats]
    · rw [(hstored.dependencies_again hstored').2]
    · rw [hstored.tags_again hstored']

namespace Sample

def taskAtWork : Task := { task with status := .inProgress, inProgressAt := some 3, assignedAgentId := some 2 }

def atWork : Db := { db with tasks := ⟨[taskAtWork], by decide⟩ }

def reviewRequest (assigned : Option (Option Uuid)) : TaskUpdate :=
  { status := some .review, assignedAgentId := assigned }

def patchedBy (before : Db) (now : Time) (payload : TaskUpdate) : Option Db :=
  (updateTask env.texts before now 1 1 (.user 1) payload).toOption.bind List.getLast?

theorem exists_commits_of_patchedBy {before after : Db} {now : Time} {payload : TaskUpdate}
    (h : patchedBy before now payload = some after) :
    ∃ commits, updateTask env.texts before now 1 1 (.user 1) payload = .ok (commits ++ [after]) := by
  obtain ⟨commits, hcommits, hlast⟩ := Option.bind_eq_some_iff.mp h
  obtain ⟨pre, rfl⟩ := List.getLast?_eq_some_iff.mp hlast
  refine ⟨pre, ?_⟩
  cases hresult : updateTask env.texts before now 1 1 (.user 1) payload with
  | error e =>
    rw [hresult] at hcommits
    cases hcommits
  | ok commits' =>
    rw [hresult] at hcommits
    exact congrArg Except.ok (Option.some.inj hcommits)

end Sample

open Sample in
/-- A task that nobody has started is sent to the lead for review, twice. -/
theorem keptByRepeat_review : ∃ first second,
    AcceptedTwice env.texts waitingInInbox 5 6 1 1 (.user 1) (reviewRequest (some (some 1))) first second ∧
      KeptByRepeat 1 first second := by
  have htwice : (patchedBy waitingInInbox 5 (reviewRequest (some (some 1)))).any (fun first =>
      (patchedBy first 6 (reviewRequest (some (some 1)))).isSome) = true := by decide
  obtain ⟨first, hfirst, hagain⟩ := (Option.any_eq_true ..).mp htwice
  obtain ⟨second, hsecond⟩ := Option.isSome_iff_exists.mp hagain
  have haccepted : AcceptedTwice env.texts waitingInInbox 5 6 1 1 (.user 1) (reviewRequest (some (some 1))) first
      second := ⟨rfl, rfl, exists_commits_of_patchedBy hfirst, exists_commits_of_patchedBy hsecond⟩
  exact ⟨first, second, haccepted, (keptByRepeat_iff (fun d hd => absurd hd List.not_mem_nil) rfl haccepted).mpr (by decide)⟩

open Sample in
/-- Work goes to the lead for review; the same request again takes it from the lead, and forgets when it began. -/
theorem not_keptByRepeat :
    ¬ ∀ (texts : Texts) (db first second : Db) (now now' : Time) (boardId taskId : Uuid) (actor : Actor)
      (payload : TaskUpdate), (∀ d ∈ db.dependencies, d.taskId ≠ d.dependsOnTaskId) →
        AcceptedTwice texts db now now' boardId taskId actor payload first second →
          KeptByRepeat taskId first second := by
  intro h
  have htwice : (patchedBy atWork 5 (reviewRequest none)).any (fun first =>
      (patchedBy first 6 (reviewRequest none)).any fun second =>
        (first.tasks.get? 1).map Task.progress = some ⟨.review, some 1, none, some 3⟩ ∧
          (second.tasks.get? 1).map Task.progress = some ⟨.review, none, none, none⟩) = true := by decide
  obtain ⟨first, hfirst, hagain⟩ := (Option.any_eq_true ..).mp htwice
  obtain ⟨second, hsecond, hrows⟩ := (Option.any_eq_true ..).mp hagain
  obtain ⟨hrow, hrow'⟩ := of_decide_eq_true hrows
  have hkept := h env.texts atWork first second 5 6 1 1 (.user 1) (reviewRequest none) nofun
    ⟨rfl, rfl, exists_commits_of_patchedBy hfirst, exists_commits_of_patchedBy hsecond⟩
  have hsame := hkept.progress
  rw [hrow, hrow'] at hsame
  exact absurd hsame (by decide)

end SiloForge
