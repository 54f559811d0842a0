import SiloForge.Boards.Snapshot
import SiloForge.System.DependencyGate

/-!
# Blocked work rests

A task that waits is done, or in the inbox and nobody's. A user's PATCH, a creation and the cascade of a
reopened dependency see to it. A lead may give a task that is worked on new dependencies and leave it as it is;
the reports and the escalations of `DependencyGate` move a task that waits.

* `Rested` : the task rests if it waits;
* `next_cascaded` : the last state a PATCH commits has the dependents of the task it reopens reset;
* `BlockedAtRest`, `blockedAtRest` : the task stays rested while no lead gives it dependencies and no report or
  escalation moves it;
* `BlockedTold`, `blockedTold` : what is told of blocked tasks is right in every state.
-/

namespace SiloForge

open Lib

def Rested (db : Db) (taskId : Uuid) : Prop :=
  ∀ task, db.tasks.get? taskId = some task → Waits db taskId → task.status = .done ∨ AtRest task

def leadSetsDependencies (db : Db) (request : Request) (taskId : Uuid) : Bool :=
  match request.op with
  | .updateTask _ id (.agent agentId) payload =>
    id = taskId && payload.dependsOnTaskIds.isSome && (db.agents.get? agentId).any (·.isBoardLead)
  | _ => false

def disturbs (db : Db) (request : Request) (taskId : Uuid) : Bool :=
  leadSetsDependencies db request taskId || (movedTask? db request = some taskId && decide (Waits db taskId))

/-! ## One request -/

variable {request : Request}

theorem Commit.waits_of_patched {db t : Db} (h : Commit db request t) (hdb : WellFormed db) {x : Uuid}
    (hop : request.op.patched? = some x) (hdeps : t.dependencies = db.dependencies) (hwaits : Waits t x) :
    Waits db x := by
  obtain ⟨d, hd, hid, dep, hdep, hopen⟩ := hwaits
  rcases h.undone_cases hdb hdep hopen with hundone | ⟨_, _, hcreated, -⟩ | ⟨old, board, hreopens, hdid⟩
  · exact ⟨d, hdeps ▸ hd, hid, hundone⟩
  · rw [Operation.patched?_of_creation? hcreated] at hop
    cases hop
  · have hsame := Option.some.inj (hop.symm.trans hreopens.op)
    exact absurd (hid.trans (hsame.trans hdid)) ((h.wellFormed hdb).noSelf d hd)

theorem isLead_eq {db : Db} {actor : Actor} {ctx : ActorContext} (h : requireUserOrAgent db actor = .ok ctx)
    (hlead : ctx.isLead = true) :
    ∃ agentId, actor = .agent agentId ∧ (db.agents.get? agentId).any (·.isBoardLead) = true := by
  cases actor with
  | user userId =>
    obtain rfl := Except.ok.inj h
    cases hlead
  | agent agentId =>
    obtain ⟨agent, hagent, hctx⟩ := bind_eq_ok.mp h
    obtain rfl := pure_eq_ok.mp hctx
    refine ⟨agentId, rfl, ?_⟩
    rw [orFail_eq_ok.mp hagent]
    exact hlead

/-- **One request**: a rested task stays so, unless a dependency of it is reopened. -/
theorem Commit.rested {db t : Db} (h : Commit db request t) (hdb : WellFormed db) {x : Uuid}
    (hdisturbs : disturbs db request x = false) (hrested : Rested db x) :
    Rested t x ∨ ReopensDependency db request t x := by
  by_cases hreopens : ReopensDependency db request t x
  · exact .inr hreopens
  refine .inl fun new hnew hwaits => ?_
  obtain rfl : new.id = x := Table.key_of_get? hnew
  have hquiet : leadSetsDependencies db request new.id = false ∧
      (movedTask? db request = some new.id → ¬ Waits db new.id) := by
    simpa [disturbs] using hdisturbs
  cases h.taskChange hdb hnew with
  | unchanged hfound hother =>
    rcases h.waits_cases hdb hwaits with hold | hwritten | hnow
    · exact hrested new hfound hold
    · exact absurd hwritten hother
    · exact absurd hnow hreopens
  | created board payload deps hop hfresh rules hdeps =>
    exact .inr (h.created_blocked hdb hop hfresh rules hdeps hwaits)
  | patched actor payload ctx old board hop hactor hfound hon hboard rules =>
    have hid := rules.same.id
    have hpatched : request.op.patched? = some old.id := by rw [hop]; rfl
    cases h.patch_blocked hdb hpatched rules hfound hon (hid ▸ hwaits) with
    | rest hrest => exact .inr hrest
    | done before after => exact .inl after
    | kept hkept hlead =>
      have hnone : payload.dependsOnTaskIds = none := by
        by_contra hsome
        obtain ⟨agentId, rfl, hagent⟩ := isLead_eq hactor (hlead hsome)
        have hquiet := hquiet.1
        simp [leadSetsDependencies, hop, hid, hagent, Option.isSome_iff_ne_none.mpr hsome] at hquiet
      obtain ⟨_, deps, heff, -, -⟩ := rules.effective
      have hdeps : t.dependencies = db.dependencies := by
        rcases effectiveDependencies_eq_ok heff with ⟨-, hsame, -⟩ | ⟨dependsOn, hsome, -⟩
        · exact hsame
        · exact absurd hsome (by simp [hnone])
      have hold := h.waits_of_patched hdb hpatched hdeps (hid ▸ hwaits)
      obtain ⟨hstatus, hassigned, hstarted⟩ := hkept
      rcases hrested old (hid ▸ hfound) (hid ▸ hold) with hdone | ⟨hinbox, hnobody, hnew⟩
      · exact .inl (hstatus.trans hdone)
      · exact .inr ⟨hstatus.trans hinbox, hassigned.trans hnobody, hstarted.trans hnew⟩
  | cascaded => exact .inr ⟨rfl, rfl, rfl⟩
  | stopped => exact .inr ⟨rfl, rfl, rfl⟩
  | @unassigned old agentId hop hfound =>
    have hold : Waits db old.id := h.waits_of_written?_eq_none hdb (by rw [hop]; rfl) hwaits
    exact (hrested old hfound hold).imp id fun hrest => ⟨hrest.1, rfl, hrest.2.2⟩
  | reported run status board old hreport hrun hmoved =>
    exact absurd (h.waits_of_written?_eq_none hdb hreport.written? hwaits) (hquiet.2 (hreport.movedTask? hmoved))
  | @escalated scope runId approvalId note board old hop hscope hconflicts hstatus =>
    have hmoved : movedTask? db request = some old.id := movedTask?_escalateRun hop hscope hstatus
    exact absurd (h.waits_of_written?_eq_none hdb (by rw [hop]; rfl) hwaits) (hquiet.2 hmoved)

/-! ## The cascade -/

def Cascaded (db : Db) (request : Request) (t : Db) : Prop :=
  ∀ taskId new, ReopensDependency db request t taskId → t.tasks.get? taskId = some new →
    new.status = .done ∨ AtRest new

theorem cascaded_of_reconciled {db stored t : Db} {task task' : Task} {boardId : Uuid} (ht : WellFormed t)
    (hop : request.op.patched? = some task.id) (hfound : db.tasks.get? task.id = some task)
    (hsame : SameTask task task') (hstored : stored.tasks.get? task.id = some task')
    (hdeps : t.dependencies = stored.dependencies) (hon : task.boardId = some boardId)
    (htasks : t.tasks = reconcileTasks stored request.now boardId task' task.status) : Cascaded db request t := by
  rintro x new ⟨dep, dep', board, hreopens, d, hd, rfl, hdep⟩ hnew
  have hself : ∀ d ∈ stored.dependencies, d.taskId ≠ d.dependsOnTaskId := hdeps ▸ ht.noSelf
  -- The task that was reopened is the PATCHed one.
  have hid : dep.id = task.id := Option.some.inj (hreopens.op.symm.trans hop)
  obtain rfl : dep = task := Option.some.inj (hreopens.found.symm.trans (hid ▸ hfound))
  obtain rfl : dep' = task' := by
    have hget := hreopens.stored
    rw [htasks, ← hsame.id, get?_reconcileTasks_self hself (hsame.id ▸ hstored)] at hget
    exact (Option.some.inj hget).symm
  have hmem : d.taskId ∈ dependentTaskIds stored boardId dep'.id := by
    refine mem_dependentTaskIds.mpr ⟨d, hdeps ▸ hd, ?_, hdep.trans hsame.id.symm, rfl⟩
    obtain ⟨u, hu, hub⟩ := (ht.dependencies d hd).2
    rw [hdep, hreopens.stored] at hu
    obtain rfl := Option.some.inj hu
    exact Option.some.inj (hub.symm.trans (hsame.boardId.trans hon))
  have hboard : ∀ old, stored.tasks.get? d.taskId = some old → new.boardId = old.boardId →
      old.boardId = some boardId := by
    intro old _ hsameBoard
    obtain ⟨u, hu, hub⟩ := (ht.dependencies d hd).1
    obtain rfl := Option.some.inj (hnew.symm.trans hu)
    obtain ⟨w, hw, hwb⟩ := (ht.dependencies d hd).2
    rw [hdep, hreopens.stored] at hw
    obtain rfl := Option.some.inj hw
    rw [← hsameBoard, hub, ← hwb, hsame.boardId, hon]
  rw [htasks] at hnew
  obtain ⟨old, hold, ⟨rfl, hrest⟩ | ⟨rfl, -⟩⟩ := get?_reconcileTasks hnew
  · exact hrest hreopens.before hreopens.after (hboard _ hold rfl) hmem
  · exact .inr ⟨rfl, rfl, rfl⟩

/-- **The cascade**: the state after a request has the dependents of a reopened task at rest. -/
theorem next_cascaded {env : Env} {db : Db} (hdb : WellFormed db) (request : Request) :
    Cascaded db request ((machine env).next db request) := by
  rcases (machine env).next_mem_or_eq db request with hmem | heq
  · intro x new hreopens hnew
    obtain ⟨now, op⟩ := request
    have ⟨dep, dep', board, hdep, _⟩ := hreopens
    cases op with
    | updateTask boardId taskId actor payload =>
      obtain ⟨commits, hok, -⟩ := Response.mem_ofExcept.mp hmem
      obtain ⟨ctx, task, board', task', dependencies, tags, values, -, htask, rfl, hon, -, hrules, pre, events,
        agentId, rfl, -⟩ := updateTask_eq_ok hok
      have hnext : (machine env).next db ⟨now, .updateTask boardId task.id actor payload⟩ =
          recordTaskUpdate { storedState db task' dependencies tags values with events }
            { task, boardId, now, updates := payload } task' agentId := by
        show ((Response.ofExcept (updateTask env.texts db now boardId task.id actor payload)).commits).getLastD db
          = _
        rw [hok]
        simp [Response.ofExcept]
      have ht := wellFormed_next env hdb ⟨now, .updateTask boardId task.id actor payload⟩
      have hstored : { storedState db task' dependencies tags values with events }.tasks.get? task.id = some task' :=
        get?_put_patched htask hrules.same
      refine cascaded_of_reconciled ht rfl htask hrules.same hstored ?_ hon ?_ x new hreopens hnew
      · rw [hnext]; rfl
      · rw [hnext]; rfl
    | _ => cases hdep.op
  · rw [heq]
    rintro x new ⟨dep, dep', board, hreopens, -⟩ -
    obtain rfl := Option.some.inj (hreopens.found.symm.trans hreopens.stored)
    exact absurd hreopens.before hreopens.after

/-! ## Runs of the system -/

/-- What a task that waits is owed: it rests after every request, and in every committed state but those a
PATCH that reopens a dependency of it commits on the way. -/
structure BlockedAtRest (env : Env) (db : Db) (requests : List Request) (taskId : Uuid) : Prop where
  after : (machine env).Along (fun s request => Rested ((machine env).next s request) taskId) db requests
  during : (machine env).Along ((machine env).Each fun s request t =>
    Rested t taskId ∨ ReopensDependency s request t taskId) db requests

theorem rested_next {env : Env} {db : Db} {taskId : Uuid} (hdb : WellFormed db)
    (hdisturbs : disturbs db request taskId = false) (hrested : Rested db taskId) :
    Rested ((machine env).next db request) taskId := by
  rcases (machine env).next_mem_or_eq db request with hmem | heq
  · rcases (commit_of_mem hmem).rested hdb hdisturbs hrested with hrest | hreopens
    · exact hrest
    · exact fun new hnew _ => next_cascaded hdb request taskId new hreopens hnew
  · rwa [heq]

/-- **Blocked work rests** in every run of the system in which nothing disturbs it. -/
theorem blockedAtRest {env : Env} {db : Db} {requests : List Request} {taskId : Uuid} (hdb : WellFormed db)
    (hstart : Rested db taskId)
    (h : (machine env).Along (fun s request => disturbs s request taskId = false) db requests) :
    BlockedAtRest env db requests taskId where
  after :=
    Machine.Along.of_inv (fun s => WellFormed s ∧ Rested s taskId)
      (fun _ request hs hquiet => ⟨wellFormed_next env hs.1 request, rested_next hs.1 hquiet hs.2⟩)
      (fun _ _ hs hquiet => rested_next hs.1 hquiet hs.2) ⟨hdb, hstart⟩ h
  during :=
    Machine.Along.of_inv (fun s => WellFormed s ∧ Rested s taskId)
      (fun _ request hs hquiet => ⟨wellFormed_next env hs.1 request, rested_next hs.1 hquiet hs.2⟩)
      (fun _ _ hs hquiet _ ht => (commit_of_mem ht).rested hs.1 hquiet hs.2) ⟨hdb, hstart⟩ h

/-! ## What is told -/

section Told
variable {db : Db} {boardId : Uuid}

/-- Of a board's tasks the endpoints find those blocked that wait, and the list marks those of them that are not done. -/
def BlockedTold (db : Db) (boardId : Uuid) : Prop :=
  (∀ task ∈ db.tasks, task.boardId = some boardId →
    (taskBlockedIds db boardId (taskDepIds db boardId task.id) ≠ [] ↔ Waits db task.id)) ∧
  ∀ query page, listTasks db boardId query = .ok page →
    ∀ read ∈ page, read.isBlocked = true ↔ read.status ≠ .done ∧ Waits db read.id

theorem isBlocked_listed {query : TaskListQuery} {page : List TaskRead} (h : listTasks db boardId query = .ok page)
    {read : TaskRead} (hread : read ∈ page) : ∃ task ∈ db.tasks, task.boardId = some boardId ∧ read.id = task.id ∧
      (read.isBlocked = true ↔ read.status ≠ .done ∧ taskBlockedIds db boardId (taskDepIds db boardId task.id) ≠ []) := by
  unfold listTasks at h
  generalize htasks : ((taskListStatement db boardId query).drop query.offset).take query.limit = tasks at h
  cases hdefs : organizationCustomFieldDefinitionsForBoard db boardId with
  | error e =>
    by_cases hnone : tasks = []
    · rw [hnone] at h
      cases h
      cases hread
    · simp [taskReadPage, hnone, taskCustomFieldValuesByTaskId, hdefs] at h
  | ok definitions =>
    rw [taskReadPage_eq hdefs] at h
    cases h
    obtain ⟨task, htask, rfl⟩ := List.mem_map.mp hread
    have hlisted := mem_of_mem_taskListStatement (List.mem_of_mem_drop (List.mem_of_mem_take (htasks ▸ htask)))
    refine ⟨task, hlisted.1, hlisted.2, rfl, ?_⟩
    change (!(blockedBy _ _ _).isEmpty) = true ↔ task.status ≠ _ ∧ _
    unfold blockedBy taskBlockedIds
    split <;> simp_all

/-- **Blocked tasks are told** in every state that requests lead to. -/
theorem blockedTold {env : Env} {requests : List Request} (hdb : WellFormed db) :
    ∀ t ∈ (machine env).committed db requests, ∀ boardId, BlockedTold t boardId := by
  intro t ht boardId
  have hfit := Machine.committed_inv WellFormed (fun _ _ hs _ _ hmem => (commit_of_mem hmem).wellFormed hs) hdb
    (Machine.along_of_forall (fun _ _ => trivial) db requests) t ht
  have hcheck : ∀ task ∈ t.tasks, task.boardId = some boardId →
      (taskBlockedIds t boardId (taskDepIds t boardId task.id) ≠ [] ↔ Waits t task.id) :=
    fun task hmem => taskBlockedIds_ne_nil_iff hfit.dependencies (Table.get?_key hmem)
  refine ⟨hcheck, fun query page hpage read hread => ?_⟩
  obtain ⟨task, hmem, hboard, hid, hblocked⟩ := isBlocked_listed hpage hread
  rw [hblocked, hcheck task hmem hboard, hid]

end Told

namespace Sample

def startsTask : Request := ⟨2, .updateTask 1 1 (.user 1) { status := some .inProgress }⟩

def reopensDependency : Request := ⟨3, .updateTask 1 2 (.user 1) { status := some .inbox }⟩

def working : Db :=
  { db with
    tasks := ⟨[{ task with status := .inProgress, assignedAgentId := some 2, inProgressAt := some 0 },
      { task with id := 2, title := "Design" }], nodup_design⟩ }

def leadAddsDependency : Request := ⟨1, .updateTask 1 1 (.agent 1) { dependsOnTaskIds := some [2] }⟩

end Sample

theorem blockedAtRest_waiting :
    BlockedAtRest Sample.env Sample.waiting [Sample.finishesDependency, Sample.startsTask, Sample.reopensDependency]
      1 := by
  refine blockedAtRest Sample.wellFormed_waiting (fun new hnew _ => ?_) (by decide)
  obtain rfl := Option.some.inj hnew
  exact .inr ⟨rfl, rfl, rfl⟩

theorem blockedTold_waiting :
    ((machine Sample.env).committed Sample.waiting [Sample.finishesDependency, Sample.reopensDependency]).Forall
      fun t => ∀ boardId, BlockedTold t boardId :=
  List.forall_iff_forall_mem.mpr (blockedTold Sample.wellFormed_waiting)

/-- A lead's new dependency leaves the task in progress. -/
theorem not_rested :
    ¬ ∀ (env : Env) (db : Db) (requests : List Request), WellFormed db → (∀ x, Rested db x) →
      ∀ t ∈ (machine env).committed db requests, ∀ x, Rested t x := by
  intro h
  have hall := h Sample.env Sample.working [Sample.leadAddsDependency] (wellFormed_of_empty rfl rfl)
    fun x _ _ ⟨d, hd, _⟩ => absurd hd (Table.not_mem_empty d)
  have hbusy : ∃ t ∈ (machine Sample.env).committed Sample.working [Sample.leadAddsDependency],
      Waits t 1 ∧ (t.tasks.get? 1).map (·.status) = some .inProgress := by decide
  obtain ⟨t, ht, hwaits, hnew⟩ := hbusy
  obtain ⟨new, hnew, hstatus⟩ := Option.map_eq_some_iff.mp hnew
  rcases hall t ht 1 new hnew hwaits with hdone | hrest
  · rw [hstatus] at hdone
    cases hdone
  · have hinbox := hrest.1
    rw [hstatus] at hinbox
    cases hinbox

end SiloForge
