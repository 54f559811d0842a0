import SiloForge.System.TaskChange

/-!
# Who signs off

A board may ask for an approved approval before a task is done. The status of an approval is a user's to
decide, yet the request that creates an approval may give it any status, also an agent's; and the request that
creates a task may give it any status, also done.

* `TaskChange.done_cases` : a task that is done was so before, or passed the gate, or was created so;
* `OnlyUsersApprove`, `onlyUsersApprove` : agents approve nothing, and finish nothing nobody signed off, while
  no agent creates an approved approval and no lead a finished task;
* `DoneGated`, `doneGated` : a gated task is finished with its approval approved, while no task is created
  finished.
-/

namespace SiloForge

open Lib

/-! ## Approved approvals -/

def Operation.approves : Operation → Bool
  | .createApproval _ _ _ payload => payload.status = .approved
  | .updateApproval .. => true
  | _ => false

/-- An approval keeps its board and status, and stands for no further task. -/
structure Carries (db : Db) (t : Db) (a a' : Approval) : Prop where
  found : a' ∈ db.approvals
  id : a'.id = a.id
  boardId : a'.boardId = a.boardId
  status : a'.status = a.status
  standsFor : ∀ taskId, StandsFor t.approvalTaskLinks a taskId → StandsFor db.approvalTaskLinks a' taskId

variable {t : Db} {links : Table ApprovalTaskLink} {taskId : Uuid} {request : Request}

theorem Carries.refl {db : Db} {a : Approval} (ha : a ∈ db.approvals)
    (hlinks : ∀ taskId, isLinked t.approvalTaskLinks a.id taskId = true →
      isLinked db.approvalTaskLinks a.id taskId = true) : Carries db t a a :=
  ⟨ha, rfl, rfl, rfl, fun taskId => Or.imp_right (hlinks taskId)⟩

theorem isLinked_of_replaced {db : Db} {approvalId : Uuid} {taskIds : List Uuid}
    (hlinks : replaceApprovalTaskLinks db approvalId taskIds = .ok links) {id : Uuid} (hne : id ≠ approvalId)
    (h : isLinked links id taskId = true) : isLinked db.approvalTaskLinks id taskId = true := by
  obtain ⟨-, hmem⟩ := replaceApprovalTaskLinks_eq_ok hlinks
  rw [isLinked_iff] at h ⊢
  rcases (hmem _).mp h with ⟨hold, -⟩ | ⟨hid, -⟩
  · exact hold
  · exact absurd hid hne

theorem Carries.of_insert {db : Db} {approval a : Approval} {approvals : Table Approval} {taskIds : List Uuid}
    (hinsert : db.approvals.insert? approval = some approvals)
    (hlinks : replaceApprovalTaskLinks db approval.id taskIds = .ok links) (ht : t.approvalTaskLinks = links)
    (ha : a ∈ approvals) (hne : a ≠ approval) : Carries db t a a := by
  have hold : a ∈ db.approvals := ((Table.mem_insert? hinsert).mp ha).resolve_right hne
  have hid : a.id ≠ approval.id :=
    Table.get?_eq_none.mp (Table.insert?_eq_some hinsert).2 a hold
  exact .refl hold fun taskId h => isLinked_of_replaced hlinks hid (ht ▸ h)

/-- **Where an approved approval comes from**: it was approved, or the request approves it. -/
theorem Commit.approved_cases {db : Db} (h : Commit db request t) {a : Approval} (ha : a ∈ t.approvals)
    (happroved : a.status = .approved) :
    (∃ a', Carries db t a a') ∨ request.op.approves = true := by
  cases h with
  | created | patched | reconciled | logged | runCreated | runReported | runCancelled | runDispatched =>
    exact .inl ⟨a, .refl ha fun _ => id⟩
  | deleted boardId taskId actor values tags events hop hruns =>
    obtain ⟨a', hold, -, rfl⟩ := mem_detachApprovals.mp ha
    have hlinks : ∀ x, isLinked (db.approvalTaskLinks.deleteWhere fun l => l.taskId = taskId) a'.id x = true →
        isLinked db.approvalTaskLinks a'.id x = true := fun x hx =>
      isLinked_iff.mpr (Table.mem_deleteWhere.mp (isLinked_iff.mp hx)).1
    split
    · refine .inl ⟨a', hold, rfl, rfl, rfl, fun x hx => .inr (hlinks x ?_)⟩
      -- The task that stands in for the deleted one is a linked one.
      rcases hx with hx | hx
      · exact mem_linkedTaskIds.mp (List.mem_of_mem_head? hx)
      · exact hx
    · exact .inl ⟨a', .refl hold hlinks⟩
  | released agentId events hop =>
    obtain ⟨a', ha', rfl⟩ := mem_releaseAgentApprovals.mp ha
    split
    · exact .inl ⟨a', ha', rfl, rfl, rfl, fun _ => id⟩
    · exact .inl ⟨a', ha', rfl, rfl, rfl, fun _ => id⟩
  | approvalCreated boardId approvalId actor payload approval taskIds approvals links hop hid hboard hstatus
      hinsert hlinks =>
    by_cases hnew : a = approval
    · subst hnew
      exact .inr (by simp [hop, Operation.approves, ← hstatus, happroved])
    · exact .inl ⟨a, .of_insert hinsert hlinks rfl ha hnew⟩
  | approvalResolved boardId approvalId userId status approval target hop =>
    exact .inr (by rw [hop]; rfl)
  | runEscalated scope runId note board task approval approvals links tasks events hop hscope hconflicts hpending
      hinsert hlinks htasks =>
    refine .inl ⟨a, .of_insert hinsert hlinks rfl ha fun hnew => ?_⟩
    rw [hnew, hpending] at happroved
    cases happroved

/-! ## Tasks that become done -/

def createsDone (db : Db) (request : Request) : Bool :=
  request.op.creation?.any fun (boardId, _, payload) =>
    payload.status = .done && (db.boards.get? boardId).any (·.requireApprovalForDone)

def doneOnGatedBoard (db : Db) (boardId taskId : Uuid) : Bool :=
  (db.boards.get? boardId).any (·.requireApprovalForDone) &&
    (db.tasks.get? taskId).any fun task => task.boardId = some boardId && task.status = .done

theorem doneOnGatedBoard_iff {db : Db} {boardId : Uuid} : doneOnGatedBoard db boardId taskId = true ↔
      (∃ board, db.boards.get? boardId = some board ∧ board.requireApprovalForDone = true) ∧
        ∃ task, db.tasks.get? taskId = some task ∧ task.boardId = some boardId ∧ task.status = .done := by
  simp [doneOnGatedBoard, Option.any_eq_true]

/-- How a task of a gated board comes to be done: it was done, or its approval is approved, or it is created
done. -/
theorem TaskChange.done_cases {db : Db} {new : Task} (h : TaskChange db request t new) (hdone : new.status = .done)
    {board : Board} (hon : new.boardId = some board.id) (hboard : db.boards.get? board.id = some board)
    (hgate : board.requireApprovalForDone = true) :
    (∃ old, db.tasks.get? new.id = some old ∧ old.boardId = some board.id ∧ old.status = .done) ∨
      taskHasApprovedLinkedApproval db board.id new.id = true ∨ createsDone db request = true := by
  cases h with
  | unchanged hfound hother => exact .inl ⟨new, hfound, hon, hdone⟩
  | created board' payload deps hop hfresh rules hdeps =>
    have hid : board'.id = board.id := Option.some.inj (rules.onBoard.symm.trans hon)
    refine .inr (.inr ?_)
    simp [createsDone, hop, ← rules.status, hdone, hid, hboard, hgate]
  | patched actor payload ctx old board' hop hactor hfound hon' hboard' rules =>
    have hid : board'.id = board.id :=
      Option.some.inj (hon'.symm.trans (rules.same.boardId.symm.trans hon))
    by_cases hwas : old.status = .done
    · exact .inl ⟨old, rules.same.id ▸ hfound, rules.same.boardId ▸ hon, hwas⟩
    · obtain ⟨-, happroved⟩ := statusGates_eq_ok rules.gates
      have hstands := requireApprovedLinkedApprovalForDone_eq_ok happroved hwas hdone hboard' (by
        rw [hid, hboard] at hboard'
        exact Option.some.inj hboard' ▸ hgate)
      exact .inr (.inl (by rwa [rules.same.id, ← hid]))
  | cascaded => cases hdone
  | stopped => cases hdone
  | @unassigned old agentId hop hfound => exact .inl ⟨old, hfound, hon, hdone⟩
  | reported run status board' old hreport hrun hmoved =>
    rcases callbackTask_eq_some hmoved with ⟨-, -, rfl⟩ | ⟨-, -, rfl⟩ <;> cases hdone
  | escalated => cases hdone

/-- **How a task of a gated board comes to be done** in a committed state. -/
theorem Commit.done_cases {db : Db} (h : Commit db request t) (hdb : WellFormed db) {boardId : Uuid}
    (hdone : doneOnGatedBoard t boardId taskId = true) :
    doneOnGatedBoard db boardId taskId = true ∨ taskHasApprovedLinkedApproval db boardId taskId = true ∨
      createsDone db request = true := by
  obtain ⟨⟨board, hboard, hgate⟩, task, htask, hon, hstatus⟩ := doneOnGatedBoard_iff.mp hdone
  rw [h.boards] at hboard
  obtain rfl : board.id = boardId := Table.key_of_get? hboard
  obtain rfl : task.id = taskId := Table.key_of_get? htask
  refine ((h.taskChange hdb htask).done_cases hstatus hon hboard hgate).imp_left fun ⟨old, hold⟩ => ?_
  exact doneOnGatedBoard_iff.mpr ⟨⟨board, hboard, hgate⟩, old, hold⟩

/-! ## A sign-off -/

namespace Sample

def reviewing : Db := { db with tasks := ⟨[{ task with status := .review }], by decide⟩ }

def agentApproval (status : ApprovalStatus) : Request :=
  ⟨1, .createApproval 1 1 (.agent 1)
    { actionType := "task.done", taskId := some 1, status, leadReasoning := some "Reviewed" }⟩

def userResolves : Request := ⟨2, .updateApproval 1 1 1 (some .approved)⟩

def leadFinishes : Request := ⟨3, .updateTask 1 1 (.agent 1) { status := some .done }⟩

def leadCreates (status : TaskStatus) : Request := ⟨1, .createTaskAsLead 1 1 1 { title := "Build", status }⟩

end Sample

/-! ## The gate -/

/-- Every request after which a task of a gated board is done, and was not, finds an approval of it approved. -/
def DoneGated (env : Env) (db : Db) (requests : List Request) : Prop :=
  (machine env).Along ((machine env).Each fun s _ t => ∀ boardId taskId,
    doneOnGatedBoard t boardId taskId = true → doneOnGatedBoard s boardId taskId = false →
      ∃ a ∈ s.approvals, a.boardId = boardId ∧ a.status = .approved ∧ StandsFor s.approvalTaskLinks a taskId)
    db requests

/-- **The gate holds** in every run of the system in which no task of a gated board is created done. -/
theorem doneGated {env : Env} {db : Db} {requests : List Request} (hdb : WellFormed db)
    (h : (machine env).Along (fun s request => createsDone s request = false) db requests) :
    DoneGated env db requests := by
  refine along_each ?_ hdb h
  intro s request t hs hcreates ht boardId taskId hdone hundone
  rcases ht.done_cases hs hdone with hwas | happroved | hcreated
  · exact absurd hundone (by simp [hwas])
  · exact taskHasApprovedLinkedApproval_iff.mp happroved
  · exact absurd hcreates (by simp [hcreated])

theorem doneGated_reviewing :
    DoneGated Sample.env Sample.reviewing
      [Sample.agentApproval .pending, Sample.userResolves, Sample.leadFinishes] :=
  doneGated (wellFormed_of_empty rfl rfl) (by decide)

/-- A lead creates a task that is done. -/
theorem not_doneGated :
    ¬ ∀ (env : Env) (db : Db) (requests : List Request), WellFormed db → DoneGated env db requests := by
  intro h
  obtain ⟨hcreates, -⟩ := h Sample.env Sample.db [Sample.leadCreates .done] (wellFormed_of_empty rfl rfl)
  have hdone : ∃ t ∈ (machine Sample.env).commits Sample.db (Sample.leadCreates .done),
      doneOnGatedBoard t 1 1 = true := by decide
  obtain ⟨t, ht, hdone⟩ := hdone
  obtain ⟨a, ha, -⟩ := hcreates t ht 1 1 hdone rfl
  exact absurd ha (Table.not_mem_empty a)

/-! ## Agents -/

/-- What is left to users: approving, and, on a gated board, finishing a task nobody signed off. -/
structure OnlyUsersApprove (env : Env) (db : Db) (requests : List Request) (taskId : Uuid) : Prop where
  approvals : (machine env).Along ((machine env).Each fun s request t => request.byUser = false →
    ∀ a ∈ t.approvals, a.status = .approved → ∃ a' ∈ s.approvals, a'.id = a.id ∧ a'.status = .approved)
    db requests
  done : (∀ request ∈ requests, request.byUser = false) → ∀ boardId,
    (machine env).Along ((machine env).Each fun s _ t =>
      doneOnGatedBoard t boardId taskId = true → doneOnGatedBoard s boardId taskId = true) db requests

def signsOffAlone (db : Db) (request : Request) : Bool :=
  !request.byUser && (request.op.approves || createsDone db request)

def NotSignedOff (db : Db) (taskId : Uuid) : Prop :=
  ∀ a ∈ db.approvals, a.status = .approved → ¬ StandsFor db.approvalTaskLinks a taskId

theorem signsOffAlone_eq_false {db : Db} (h : signsOffAlone db request = false) (huser : request.byUser = false) :
    request.op.approves = false ∧ createsDone db request = false := by
  simpa [signsOffAlone, huser] using h

theorem Commit.notSignedOff {db : Db} (h : Commit db request t) (happroves : request.op.approves = false)
    (hdb : NotSignedOff db taskId) : NotSignedOff t taskId := by
  intro a ha hstatus hstands
  rcases h.approved_cases ha hstatus with ⟨a', hcarries⟩ | hnew
  · exact hdb a' hcarries.found (hcarries.status.trans hstatus) (hcarries.standsFor taskId hstands)
  · exact absurd happroves (by simp [hnew])

/-- **Only users approve** in every run of the system in which no other request signs off, and agents do not
finish a task that was not signed off at its start. -/
theorem onlyUsersApprove {env : Env} {db : Db} {requests : List Request} {taskId : Uuid} (hdb : WellFormed db)
    (hstart : NotSignedOff db taskId)
    (h : (machine env).Along (fun s request => signsOffAlone s request = false) db requests) :
    OnlyUsersApprove env db requests taskId where
  approvals := by
    refine h.mono fun s request halone t ht huser a ha hstatus => ?_
    rcases (commit_of_mem ht).approved_cases ha hstatus with ⟨a', hcarries⟩ | hnew
    · exact ⟨a', hcarries.found, hcarries.id, hcarries.status.trans hstatus⟩
    · exact absurd (signsOffAlone_eq_false halone huser).1 (by simp [hnew])
  done := by
    intro hagents boardId
    refine Machine.Along.of_inv (fun s => WellFormed s ∧ NotSignedOff s taskId) ?_ ?_ ⟨hdb, hstart⟩
      (h.and (Machine.along_of_mem db hagents))
    · intro s request ⟨hs, hsigned⟩ ⟨halone, huser⟩
      exact ⟨wellFormed_next env hs request, (machine env).next_of_each hsigned fun t ht =>
        (commit_of_mem ht).notSignedOff (signsOffAlone_eq_false halone huser).1 hsigned⟩
    · intro s request ⟨hs, hsigned⟩ ⟨halone, huser⟩ t ht hdone
      rcases (commit_of_mem ht).done_cases hs hdone with hwas | happroved | hcreated
      · exact hwas
      · obtain ⟨a, ha, -, hstatus, hstands⟩ := taskHasApprovedLinkedApproval_iff.mp happroved
        exact absurd hstands (hsigned a ha hstatus)
      · exact absurd (signsOffAlone_eq_false halone huser).2 (by simp [hcreated])

theorem onlyUsersApprove_reviewing :
    OnlyUsersApprove Sample.env Sample.reviewing
      [Sample.agentApproval .pending, Sample.userResolves, Sample.leadFinishes] 1 :=
  onlyUsersApprove (wellFormed_of_empty rfl rfl) (fun _ ha => absurd ha (Table.not_mem_empty _)) (by decide)

/-- An agent approves its own request, and the lead finishes the task. -/
theorem not_onlyUsersApprove :
    ¬ ∀ (env : Env) (db : Db) (requests : List Request) (taskId : Uuid), WellFormed db →
      NotSignedOff db taskId → OnlyUsersApprove env db requests taskId := by
  intro h
  have hagents := h Sample.env Sample.reviewing [Sample.agentApproval .approved, Sample.leadFinishes] 1
    (wellFormed_of_empty rfl rfl) fun _ ha => absurd ha (Table.not_mem_empty _)
  exact absurd (hagents.done (by decide) 1) (by decide)

end SiloForge
