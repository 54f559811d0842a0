import SiloForge.Lib.Commits
import SiloForge.System.Timing

/-!
# A PATCH that the database interrupts

The PATCH of a task as the statements it sends. A lead's has one commit. The others commit the row of the task, then
the comment, and then the activity row with what happens to the dependents, so a failure of the database in between
leaves a part of the request.

* `storeStatements`, `commentStatements`, `activityStatements` : the parts of a request;
* `patchStatements` : the request; `updateTask_eq_commitStates` : its commits are those of `updateTask`;
* `patch_allOrNothing` : all or nothing stays, when and only when the database does not fail between two commits.
-/

namespace SiloForge

open Lib

/-! ## The statements -/

def insertEvent (event : ActivityEvent) : Statement Db := .write fun db => { db with events := db.events ++ [event] }

def storeStatements (stored : Db) (task : Task) : List (Statement Db) :=
  [.write fun db => { db with dependencies := stored.dependencies },
    .write fun db => { db with tagAssignments := stored.tagAssignments },
    .write fun db => { db with customFieldValues := stored.customFieldValues },
    .write fun db => { db with tasks := db.tasks.put task }]

/-- `_record_task_comment_from_update`. -/
def commentStatements (update : TaskUpdateInput) (actorAgentId : Option Uuid) : List (Statement Db) :=
  match update.updates.comment.filter (!isBlank ·) with
  | none => []
  | some comment => [.write fun db => recordTaskComment db update actorAgentId comment, .commit]

def activityStatements (stored : Db) (update : TaskUpdateInput) (task : Task) (actorAgentId : Option Uuid) :
    List (Statement Db) :=
  let (eventType, message) := taskEventDetails task update.task.status
  insertEvent
      { eventType, message, taskId := some task.id, boardId := some update.boardId, agentId := actorAgentId,
        createdAt := update.now } ::
    .read ::
    .write (fun db => { db with tasks := reconcileTasks db update.now update.boardId task update.task.status }) ::
    (reconcileEvents stored update.now update.boardId task update.task.status actorAgentId).map insertEvent

/-- `_finalize_updated_task`: three transactions, or two without a comment. -/
def finalizeStatements (texts : Texts) (db : Db) (update : TaskUpdateInput) (row : AdminUpdate)
    (actorAgentId : Option Uuid) : Except Failure (List (Statement Db)) := do
  let (stored, task) ← storeUpdatedTask texts db update row
  return storeStatements stored task ++ ([.commit, .read] ++ (commentStatements update actorAgentId ++
    (activityStatements stored update task actorAgentId ++ [.commit, .read])))

def leadStored (texts : Texts) (db : Db) (update : TaskUpdateInput) (lead : Agent) : Except Failure (Db × Task) := do
  validateLeadUpdateRequest update.updates
  let (dependencies, effectiveDeps) ← effectiveDependencies texts.search db update
  let blockedBy := taskBlockedIds db update.boardId effectiveDeps
  let normalizedTagIds ← normalizedUpdateTagIds db update
  require (blockedBy = [] ∨ update.updates.assignedAgentId = none ∧ update.updates.status = none)
    (blockedTaskError blockedBy)
  let assignedAgentId ← leadApplyAssignment db update
  let task ← leadApplyStatus db update lead assignedAgentId
  statusGates db update task.status
  let tagAssignments ← storeTags db update normalizedTagIds
  let customFieldValues ← storeCustomFieldValues texts db update
  let task := { task with updatedAt := update.now }
  return ({ db with tasks := db.tasks.put task, dependencies, tagAssignments, customFieldValues }, task)

/-- `_apply_lead_task_update`: one transaction. -/
def leadStatements (texts : Texts) (db : Db) (update : TaskUpdateInput) (lead : Agent) :
    Except Failure (List (Statement Db)) := do
  let (stored, task) ← leadStored texts db update lead
  return storeStatements stored task ++ (activityStatements stored update task (some lead.id) ++ [.commit, .read])

def acceptedStatements (texts : Texts) (db : Db) (now : Time) (boardId taskId : Uuid) (actor : Actor)
    (payload : TaskUpdate) : Except Failure (List (Statement Db)) := do
  let actor ← requireUserOrAgent db actor
  let board ← getBoardForActorRead db boardId actor
  let task ← getTaskOr404 db board taskId
  let update : TaskUpdateInput := { task, boardId := board.id, now, updates := payload }
  match actor with
  | .user userId =>
    requireBoardAccess db userId board true
    let row ← applyAdminTaskRules texts.search db update
    finalizeStatements texts db update row none
  | .agent agent =>
    if agent.isBoardLead then leadStatements texts db update agent
    else
      let task' ← applyNonLeadAgentTaskRules db update agent
      finalizeStatements texts db update
        { task := task', updates := payload, dependencies := db.dependencies, tagIds := none } (some agent.id)

def patchStatements (texts : Texts) (db : Db) (now : Time) (boardId taskId : Uuid) (actor : Actor)
    (payload : TaskUpdate) : List (Statement Db) :=
  ((acceptedStatements texts db now boardId taskId actor payload).toOption).getD []

/-! ## Their commits -/

section Commits
variable {texts : Texts} {db stored : Db} {update : TaskUpdateInput} {row : AdminUpdate} {task : Task}
  {actorAgentId : Option Uuid} {lead : Agent}

theorem applyLeadTaskUpdate_eq :
    applyLeadTaskUpdate texts db update lead =
      (fun p => recordTaskUpdate p.1 update p.2 (some lead.id)) <$> leadStored texts db update lead := by
  simp only [applyLeadTaskUpdate, leadStored, map_bind, map_pure]

def StoresRow (db stored : Db) (task : Task) : Prop :=
  stored = { db with
    tasks := db.tasks.put task, dependencies := stored.dependencies, tagAssignments := stored.tagAssignments
    customFieldValues := stored.customFieldValues }

theorem leadStored_eq_ok (h : leadStored texts db update lead = .ok (stored, task)) : StoresRow db stored task := by
  simp only [leadStored, bind_eq_ok, pure_eq_ok] at h
  obtain ⟨_, -, ⟨dependencies, _⟩, -, _, -, _, -, _, -, _, -, _, -, tagAssignments, -, values, -, h⟩ := h
  obtain ⟨rfl, rfl⟩ := Prod.mk.inj h
  rfl

theorem storesRow_of_storeUpdatedTask (h : storeUpdatedTask texts db update row = .ok (stored, task)) :
    StoresRow db stored task := by
  obtain ⟨-, tagAssignments, values, rfl⟩ := storeUpdatedTask_eq_ok h
  rfl

theorem updatedAt_of_storeUpdatedTask (h : storeUpdatedTask texts db update row = .ok (stored, task)) :
    task.updatedAt = update.now := by
  simp only [storeUpdatedTask, bind_eq_ok, pure_eq_ok] at h
  obtain ⟨set, -, _, -, _, -, tagAssignments, -, values, -, h⟩ := h
  obtain ⟨-, rfl⟩ := Prod.mk.inj h
  unfold assignReviewTaskToLead
  split
  · split <;> rfl
  · rfl

theorem sent_storeStatements (h : StoresRow db stored task) : sent db (storeStatements stored task) = stored := by
  rw [h]
  rfl

theorem commitStates_storeStatements : commitStates db (storeStatements stored task) = [] := rfl

theorem sent_insertEvents (db : Db) (events : List ActivityEvent) :
    sent db (events.map insertEvent) = { db with events := db.events ++ events } := by
  induction events generalizing db with
  | nil => rw [List.map_nil, sent, List.append_nil]
  | cons event events ih =>
    rw [List.map_cons, insertEvent, sent, ih]
    dsimp only
    rw [List.append_assoc, List.singleton_append]

theorem sent_activityStatements (events : List ActivityEvent) :
    sent { stored with events } (activityStatements stored update task actorAgentId) =
      recordTaskUpdate { stored with events } update task actorAgentId := by
  simp only [activityStatements, insertEvent, sent]
  rw [sent_insertEvents]
  simp only [recordTaskUpdate, List.append_assoc, List.singleton_append]
  rfl

theorem commitStates_activityStatements :
    commitStates db (activityStatements stored update task actorAgentId) = [] := by
  apply commitStates_eq_nil
  intro stmt hstmt
  simp only [activityStatements, List.mem_cons, List.mem_map] at hstmt
  rcases hstmt with rfl | rfl | rfl | ⟨event, -, rfl⟩ <;> rfl

theorem commitStates_activity (events : List ActivityEvent) :
    commitStates { stored with events } (activityStatements stored update task actorAgentId ++ [.commit, .read]) =
      [recordTaskUpdate { stored with events } update task actorAgentId] := by
  rw [commitStates_append, commitStates_activityStatements, sent_activityStatements]
  rfl

theorem commitStates_stored (h : StoresRow db stored task) (rest : List (Statement Db)) :
    commitStates db (storeStatements stored task ++ ([.commit, .read] ++ rest)) =
      stored :: commitStates stored rest := by
  rw [commitStates_append, commitStates_storeStatements, sent_storeStatements h]
  rfl

theorem finalizeUpdatedTask_eq :
    finalizeUpdatedTask texts db update row actorAgentId =
      commitStates db <$> finalizeStatements texts db update row actorAgentId := by
  unfold finalizeUpdatedTask finalizeStatements
  cases hstore : storeUpdatedTask texts db update row with
  | error e => rfl
  | ok p =>
    obtain ⟨stored, task⟩ := p
    have hstored := commitStates_stored (storesRow_of_storeUpdatedTask hstore)
      (commentStatements update actorAgentId ++
        (activityStatements stored update task actorAgentId ++ [.commit, .read]))
    refine Eq.trans ?_ (congrArg Except.ok hstored.symm)
    cases hcomment : update.updates.comment.filter (!isBlank ·) with
    | none =>
      have hnone : commentStatements update actorAgentId = [] := by rw [commentStatements, hcomment]
      rw [hnone, List.nil_append, commitStates_activity stored.events]
      rfl
    | some comment =>
      have hsome : commentStatements update actorAgentId =
          [.write fun db => recordTaskComment db update actorAgentId comment, .commit] := by
        rw [commentStatements, hcomment]
      rw [hsome, commitStates_append]
      let commented := recordTaskComment stored update actorAgentId comment
      refine congrArg (fun last => Except.ok (stored :: commented :: last)) ?_
      exact (commitStates_activity _).symm

theorem applyLeadTaskUpdate_commits :
    (applyLeadTaskUpdate texts db update lead >>= fun db' => pure [db']) =
      commitStates db <$> leadStatements texts db update lead := by
  rw [applyLeadTaskUpdate_eq]
  unfold leadStatements
  cases hstore : leadStored texts db update lead with
  | error e => rfl
  | ok p =>
    obtain ⟨stored, task⟩ := p
    refine congrArg Except.ok ?_
    rw [commitStates_append, commitStates_storeStatements, sent_storeStatements (leadStored_eq_ok hstore)]
    exact (commitStates_activity stored.events).symm

end Commits

/-! ## Interruptions -/

section Interruptions
variable {texts : Texts} {db : Db} {now : Time} {boardId taskId : Uuid} {actor : Actor} {payload : TaskUpdate}
  {update : TaskUpdateInput} {row : AdminUpdate} {actorAgentId : Option Uuid} {lead : Agent} {ctx : ActorContext}
  {stmts : List (Statement Db)}

theorem updateTask_eq_commitStates :
    updateTask texts db now boardId taskId actor payload =
      commitStates db <$> acceptedStatements texts db now boardId taskId actor payload := by
  simp only [updateTask, acceptedStatements, map_bind]
  congr 1
  funext ctx
  congr 1
  funext board
  congr 1
  funext task
  cases ctx with
  | user userId =>
    simp only [map_bind, finalizeUpdatedTask_eq]
  | agent agent =>
    dsimp only
    split
    · exact applyLeadTaskUpdate_commits
    · simp only [map_bind, finalizeUpdatedTask_eq]

/-- An update that is not a lead's keeps the stored row first, and the activity last. -/
theorem finalizeStatements_commits (h : finalizeStatements texts db update row actorAgentId = .ok stmts) :
    ∃ stored task, storeUpdatedTask texts db update row = .ok (stored, task) ∧
      ∃ init last, commitStates db stmts = (stored :: init) ++ [last] ∧
        ∀ t ∈ stored :: init, t.tasks = stored.tasks ∧ t.events.length < last.events.length := by
  have hcommits : finalizeUpdatedTask texts db update row actorAgentId = .ok (commitStates db stmts) := by
    rw [finalizeUpdatedTask_eq, h]
    rfl
  obtain ⟨⟨stored, task⟩, hstore, hcommits⟩ := bind_eq_ok.mp hcommits
  refine ⟨stored, task, hstore, ?_⟩
  dsimp only at hcommits
  split at hcommits
  · refine ⟨[], _, (pure_eq_ok.mp hcommits).symm, fun t ht => ?_⟩
    obtain rfl := List.mem_singleton.mp ht
    exact ⟨rfl, by simp [recordTaskUpdate]⟩
  · refine ⟨[_], _, (pure_eq_ok.mp hcommits).symm, fun t ht => ?_⟩
    rcases List.mem_cons.mp ht with rfl | ht
    · exact ⟨rfl, by simp [recordTaskUpdate, recordTaskComment]⟩
    · obtain rfl := List.mem_singleton.mp ht
      exact ⟨rfl, by simp [recordTaskUpdate, recordTaskComment]⟩

/-- A failure between two commits of an update that is not a lead's leaves a part of it, when the clock has moved since
the row was written. -/
theorem not_allOrNothing_of_finalize (hfound : db.tasks.get? update.task.id = some update.task)
    (hrow : SameTask update.task row.task) (hclock : update.task.updatedAt ≠ update.now)
    (h : finalizeStatements texts db update row actorAgentId = .ok stmts) {k : Nat}
    (hbetween : BetweenCommits stmts k) : ¬ AllOrNothing db stmts k := by
  obtain ⟨stored, task, hstore, init, last, hcommits, hinit⟩ := finalizeStatements_commits h
  have hmem := committedAfter_mem_of_between (s := db) hbetween
  rw [hcommits, List.dropLast_concat] at hmem
  obtain ⟨htasks, hlength⟩ := hinit _ hmem
  rintro (hnothing | hall)
  · rw [hnothing] at htasks
    have hsame : SameTask update.task task := hrow.trans (storeUpdatedTask_eq_ok hstore).1.same
    have hput : stored.tasks.get? update.task.id = some task := by
      rw [storesRow_of_storeUpdatedTask hstore]
      exact get?_put_patched hfound hsame
    rw [← htasks, hfound] at hput
    obtain rfl := Option.some.inj hput
    exact hclock (updatedAt_of_storeUpdatedTask hstore)
  · rw [hall, committedAfter_length hcommits] at hlength
    exact absurd hlength (Nat.lt_irrefl _)

theorem exists_between_of_finalize (h : finalizeStatements texts db update row actorAgentId = .ok stmts) :
    ∃ k, BetweenCommits stmts k := by
  obtain ⟨stored, task, hstore, init, last, hcommits, -⟩ := finalizeStatements_commits h
  have htotal : commitsBefore stmts stmts.length = init.length + 2 := by
    rw [commitsBefore_length (s := db), hcommits]
    simp
  have hfirst : commitsBefore stmts 5 = 1 := by
    unfold finalizeStatements at h
    rw [hstore] at h
    obtain rfl := pure_eq_ok.mp h
    rfl
  refine ⟨5, ?_, ?_⟩ <;> omega

theorem not_between_of_lead (h : leadStatements texts db update lead = .ok stmts) {k : Nat} :
    ¬ BetweenCommits stmts k := by
  have hone : ∃ last, commitStates db stmts = [last] := by
    have hcommits : (applyLeadTaskUpdate texts db update lead >>= fun db' => pure [db']) =
        .ok (commitStates db stmts) := by
      rw [applyLeadTaskUpdate_commits, h]
      rfl
    obtain ⟨last, -, hlast⟩ := bind_eq_ok.mp hcommits
    exact ⟨last, (pure_eq_ok.mp hlast).symm⟩
  obtain ⟨last, hlast⟩ := hone
  have htotal : commitsBefore stmts stmts.length = 1 := by rw [commitsBefore_length (s := db), hlast]; rfl
  unfold BetweenCommits
  omega

theorem leads_eq (h : requireUserOrAgent db actor = .ok ctx) : actor.leads db = ctx.isLead := by
  cases actor with
  | user userId =>
    obtain rfl := Except.ok.inj h
    rfl
  | agent agentId =>
    obtain ⟨agent, hagent, hctx⟩ := bind_eq_ok.mp h
    obtain rfl := pure_eq_ok.mp hctx
    rw [Actor.leads, orFail_eq_ok.mp hagent]
    rfl

theorem acceptedStatements_eq_ok (h : acceptedStatements texts db now boardId taskId actor payload = .ok stmts) :
    (actor.leads db = true ∧ ∃ update lead, leadStatements texts db update lead = .ok stmts) ∨
      (actor.leads db = false ∧ ∃ update row actorAgentId, update.now = now ∧
        db.tasks.get? taskId = some update.task ∧ update.task.id = taskId ∧ SameTask update.task row.task ∧
        finalizeStatements texts db update row actorAgentId = .ok stmts) := by
  simp only [acceptedStatements, bind_eq_ok] at h
  obtain ⟨ctx, hctx, board, -, task, hread, h⟩ := h
  obtain ⟨hfound, rfl, -⟩ := getTaskOr404_eq_ok hread
  rw [leads_eq hctx]
  cases ctx with
  | user userId =>
    right
    simp only [bind_eq_ok] at h
    obtain ⟨_, -, row, hrow, h⟩ := h
    exact ⟨rfl, _, row, none, rfl, hfound, rfl, applyAdminTaskRules_same hrow, h⟩
  | agent agent =>
    dsimp only at h
    split at h
    · rename_i hlead
      exact .inl ⟨hlead, _, agent, h⟩
    · rename_i hlead
      right
      obtain ⟨row, hrow, h⟩ := bind_eq_ok.mp h
      exact ⟨Bool.eq_false_iff.mpr hlead, _, _, some agent.id, rfl, hfound, rfl, applyNonLeadAgentTaskRules_same hrow, h⟩

theorem patchStatements_of_accepted (h : acceptedStatements texts db now boardId taskId actor payload = .ok stmts) :
    patchStatements texts db now boardId taskId actor payload = stmts := by
  rw [patchStatements, h]
  rfl

theorem accepted_of_between {k : Nat}
    (h : BetweenCommits (patchStatements texts db now boardId taskId actor payload) k) :
    ∃ stmts, acceptedStatements texts db now boardId taskId actor payload = .ok stmts := by
  cases haccepted : acceptedStatements texts db now boardId taskId actor payload with
  | ok stmts => exact ⟨stmts, rfl⟩
  | error e =>
    rw [patchStatements, haccepted] at h
    exact absurd h.2 (Nat.not_lt_zero _)

theorem not_allOrNothing_of_between {k : Nat}
    (hclock : ∀ task, db.tasks.get? taskId = some task → task.updatedAt ≠ now)
    (h : BetweenCommits (patchStatements texts db now boardId taskId actor payload) k) :
    ¬ AllOrNothing db (patchStatements texts db now boardId taskId actor payload) k := by
  obtain ⟨stmts, haccepted⟩ := accepted_of_between h
  rw [patchStatements_of_accepted haccepted] at h ⊢
  rcases acceptedStatements_eq_ok haccepted with
    ⟨-, update, lead, hlead⟩ | ⟨-, update, row, agentId, rfl, hfound, rfl, hsame, hfinal⟩
  · exact absurd h (not_between_of_lead hlead)
  · exact not_allOrNothing_of_finalize hfound hsame (hclock update.task hfound) hfinal h

/-- The requests with a point between two commits are the accepted ones that are not a lead's. -/
theorem exists_between_iff :
    (∃ k, BetweenCommits (patchStatements texts db now boardId taskId actor payload) k) ↔
      (∃ commits, updateTask texts db now boardId taskId actor payload = .ok commits) ∧ actor.leads db = false := by
  rw [updateTask_eq_commitStates]
  constructor
  · rintro ⟨k, h⟩
    obtain ⟨stmts, haccepted⟩ := accepted_of_between h
    rw [patchStatements_of_accepted haccepted] at h
    refine ⟨⟨commitStates db stmts, by rw [haccepted]; rfl⟩, ?_⟩
    rcases acceptedStatements_eq_ok haccepted with ⟨-, update, lead, hlead⟩ | ⟨hother, -⟩
    · exact absurd h (not_between_of_lead hlead)
    · exact hother
  · rintro ⟨⟨commits, hcommits⟩, hother⟩
    cases haccepted : acceptedStatements texts db now boardId taskId actor payload with
    | error e =>
      rw [haccepted] at hcommits
      cases hcommits
    | ok stmts =>
      rw [patchStatements_of_accepted haccepted]
      rcases acceptedStatements_eq_ok haccepted with ⟨hlead, -⟩ | ⟨-, update, row, agentId, -, -, -, -, hfinal⟩
      · rw [hlead] at hother
        cases hother
      · exact exists_between_of_finalize hfinal

/-- **All of a PATCH stays or nothing** where the database does not fail between two of its commits,
and only there once the clock has moved since the row was written. -/
theorem patch_allOrNothing (texts : Texts) (db : Db) (now : Time) (boardId taskId : Uuid) (actor : Actor)
    (payload : TaskUpdate) :
    (∀ k, ¬ BetweenCommits (patchStatements texts db now boardId taskId actor payload) k →
      AllOrNothing db (patchStatements texts db now boardId taskId actor payload) k) ∧
    ((∀ task, db.tasks.get? taskId = some task → task.updatedAt ≠ now) →
      ∀ k, AllOrNothing db (patchStatements texts db now boardId taskId actor payload) k ↔
        ¬ BetweenCommits (patchStatements texts db now boardId taskId actor payload) k) ∧
    ((∃ k, BetweenCommits (patchStatements texts db now boardId taskId actor payload) k) ↔
      (∃ commits, updateTask texts db now boardId taskId actor payload = .ok commits) ∧ actor.leads db = false) := by
  refine ⟨fun k => allOrNothing_of_not_between, fun hclock k => ⟨?_, allOrNothing_of_not_between⟩, exists_between_iff⟩
  exact fun hall hbetween => not_allOrNothing_of_between hclock hbetween hall

end Interruptions

namespace Sample

def renames : TaskUpdate := { title := some (some "Rebuild") }

end Sample

/-- A PATCH of a user interrupted after its first commit keeps the title without its activity row. -/
theorem not_patch_allOrNothing :
    ¬ ∀ (texts : Texts) (db : Db) (now : Time) (boardId taskId : Uuid) (actor : Actor) (payload : TaskUpdate) (k : Nat),
      AllOrNothing db (patchStatements texts db now boardId taskId actor payload) k := by
  intro h
  have hclock : ∀ task, Sample.waitingInInbox.tasks.get? 1 = some task → task.updatedAt ≠ 1 := by
    intro task htask
    obtain rfl := List.mem_singleton.mp (Table.mem_of_get? htask)
    decide
  have hbetween : BetweenCommits
      (patchStatements Sample.env.texts Sample.waitingInInbox 1 1 1 (.user 1) Sample.renames) 5 := by decide
  exact not_allOrNothing_of_between hclock hbetween (h _ _ _ _ _ _ _ _)

end SiloForge
