import SiloForge.System.SessionsFit

/-!
# One pending approval per task

An escalation takes no lock before it looks for conflicts, and the conflict query stays on the board of the
request while a creation may name tasks of any board.

* `careful` : a creation names tasks of its board, and no escalation overlaps another transaction of its task;
* `begin_fits`, `SessionsFit.advance` : careful actions keep the invariant of the sessions;
* `onePending` : careful sessions leave no task with two pending approvals.
-/

namespace SiloForge

open Lib

/-! ## The condition -/

def ApprovalWrite.namesOwnTasks (db : Db) : ApprovalWrite → Bool
  | .insert approval taskIds => taskIds.all fun x => (db.tasks.get? x).any (·.boardId = some approval.boardId)
  | _ => true

/-- The session is about to read while another one, of a common task, has read and not committed, and one of
the two is an escalation. -/
def overlapsEscalation (s : Sessions) (session : Session) : Bool :=
  session.tx.stage = .reading && s.running.rows.any fun other =>
    other.id ≠ session.id && other.inWindow &&
      (session.tx.write.isEscalation || other.tx.write.isEscalation) &&
      session.tx.taskIds.any (· ∈ other.tx.taskIds)

/-- The action names no task of another board, and no escalation overlaps a transaction of its task. -/
def careful (s : Sessions) : SessionAction → Bool
  | .start _ now request =>
    match beginApproval s.db now request with
    | .ok tx => tx.write.namesOwnTasks s.db
    | .error _ => true
  | .advance id => (s.running.get? id).all fun session => !overlapsEscalation s session

/-! ## A session starts -/

variable {id : Nat} {tx : ApprovalTx}

theorem guarded_fits {db : Db} {boardId : Uuid} {taskIds : List Uuid} {exclude : Option Uuid} {write : ApprovalWrite}
    (htasks : ∀ x ∈ taskIds, OnBoard db x boardId) (hwrite : WriteFits db (guarded boardId taskIds exclude write)) :
    SessionFits db { id, tx := guarded boardId taskIds exclude write } := by
  by_cases hnil : taskIds = []
  · subst hnil
    exact ⟨htasks, hwrite, (by simp [guarded]), (by simp [guarded]), by simp [guarded]⟩
  · have hstage : (guarded boardId taskIds exclude write).stage =
        .locking ((dedupeUuidList taskIds).insertionSort (· ≤ ·)) := if_neg hnil
    refine ⟨htasks, hwrite, ?_, ?_, ?_⟩
    · intro _ x hx
      refine .inr ⟨_, hstage, (List.mem_insertionSort _).mpr (mem_dedupeUuidList.mpr hx)⟩
    · intro hw
      simp [Session.inWindow, hstage] at hw
    · intro hready
      rw [hstage] at hready
      cases hready

theorem unguarded_fits {db : Db} {boardId : Uuid} {write : ApprovalWrite}
    (hwrite : WriteFits db (unguarded boardId write)) : SessionFits db { id, tx := unguarded boardId write } := by
  refine ⟨?_, hwrite, ?_, ?_, ?_⟩ <;> simp [unguarded]

theorem onBoard_of_names {db : Db} {approval : Approval} {taskIds : List Uuid}
    (h : (ApprovalWrite.insert approval taskIds).namesOwnTasks db = true) :
    ∀ x ∈ taskIds, OnBoard db x approval.boardId := by
  intro x hx
  obtain ⟨t, ht, hon⟩ := (Option.any_eq_true ..).mp (List.all_eq_true.mp h x hx)
  exact ⟨t, ht, decide_eq_true_eq.mp hon⟩

theorem resolveTx_fits {db : Db} {now : Time} {board : Board} {approval : Approval} {targetStatus : ApprovalStatus}
    (hdb : ApprovalsFit db) (hmem : approval ∈ db.approvals) (hboard : approval.boardId = board.id) :
    SessionFits db { id, tx := resolveTx db now board approval targetStatus } := by
  have hstands : ∀ x, StandsFor db.approvalTaskLinks approval x ↔ x ∈ approvalTaskIds db approval := by
    intro x
    constructor
    · intro hx
      unfold approvalTaskIds
      split
      · rename_i hnone
        rcases hdb.references approval hmem x hx with hlinked | ⟨hown, -⟩
        · have hlisted := mem_linkedTaskIds.mpr hlinked
          rw [hnone] at hlisted
          cases hlisted
        · simp [hown]
      · rename_i hsome
        rcases hdb.references approval hmem x hx with hlinked | ⟨-, hlinks⟩
        · exact mem_linkedTaskIds.mpr hlinked
        · obtain ⟨y, hy⟩ := List.exists_mem_of_ne_nil _ hsome
          have hhas := hasLinks_iff.mpr ⟨y, mem_linkedTaskIds.mp hy⟩
          rw [hlinks] at hhas
          cases hhas
    · intro hx
      unfold approvalTaskIds at hx
      split at hx
      · exact .inl (by simpa using hx)
      · exact .inr (mem_linkedTaskIds.mp hx)
  by_cases hguard : targetStatus = .pending ∧ approval.status ≠ .pending
  · simp only [resolveTx, if_pos hguard]
    apply guarded_fits
    · intro x hx
      exact hboard ▸ hdb.own approval hmem x ((hstands x).mpr hx)
    · intro _
      exact ⟨rfl, approval, hmem, rfl, hboard, fun x hx => (hstands x).mp hx⟩
  · simp only [resolveTx, if_neg hguard]
    apply unguarded_fits
    intro hp
    -- An unguarded update that gives pending changes no status.
    split at hp
    · cases hp
    · rename_i hne
      obtain rfl := Option.some.inj hp
      exact absurd ⟨rfl, fun h => hne h.symm⟩ hguard

/-- **A transaction fits when it starts.** -/
theorem begin_fits {db : Db} {now : Time} {request : ApprovalRequest} (hdb : ApprovalsFit db)
    (h : beginApproval db now request = .ok tx) (hnames : tx.write.namesOwnTasks db = true) :
    SessionFits db { id, tx } := by
  cases request with
  | create boardId approvalId actor payload =>
    simp only [beginApproval, bind_eq_ok, pure_eq_ok] at h
    obtain ⟨ctx, -, board, -, checked, -, rfl⟩ := h
    split at hnames <;> rename_i hpending
    · rw [if_pos hpending]
      exact guarded_fits (onBoard_of_names hnames)
        ⟨rfl, rfl, onBoard_of_names hnames, fun _ => List.Subset.refl _, rfl⟩
    · rw [if_neg hpending]
      exact unguarded_fits ⟨rfl, rfl, onBoard_of_names hnames, fun hp => absurd hp hpending, rfl⟩
  | update boardId approvalId userId status =>
    simp only [beginApproval, bind_eq_ok, pure_eq_ok, orFail_eq_ok, require_eq_ok] at h
    obtain ⟨board, -, approval, hget, _, hboard, rfl⟩ := h
    cases status with
    | none => exact unguarded_fits fun hp => (by cases hp)
    | some targetStatus => exact resolveTx_fits hdb (Table.mem_of_get? hget) hboard
  | escalate scope runId approvalId note =>
    simp only [beginApproval, bind_eq_ok, pure_eq_ok, orFail_eq_ok, require_eq_ok] at h
    obtain ⟨⟨board, task⟩, hscope, run, -, _, -, silo, -, rfl⟩ := h
    obtain ⟨-, -, -, htask, hid, hon⟩ := getBoardAndTask_eq_ok hscope
    refine ⟨?_, ⟨rfl, rfl, rfl, hon⟩, ?_, ?_, ?_⟩
    · intro x hx
      obtain rfl := List.mem_singleton.mp hx
      exact ⟨task, hid ▸ htask, hon⟩
    · intro hlocks
      cases hlocks
    · intro hw
      cases hw
    · intro hready
      cases hready

theorem Idle.apart (h : Idle tx) (id : Nat) (other : Session) : Apart { id, tx } other where
  exclusive x hx := by cases hx
  escalations hw _ x hx := by
    simp only [Session.inWindow, h.1, decide_false, Bool.false_or, decide_eq_true_eq] at hw
    rw [show ({ id, tx } : Session).tx.taskIds = [] from h.2 hw] at hx
    cases hx

theorem SessionsFit.start {s : Sessions} (h : SessionsFit s) {running : Table Session}
    (hinsert : s.running.insert? { id, tx } = some running) (hfits : SessionFits s.db { id, tx }) (hidle : Idle tx) :
    SessionsFit { s with running } where
  approvals := h.approvals
  one := h.one
  sessions o ho := by
    rcases (Table.mem_insert? hinsert).mp ho with hold | rfl
    · exact h.sessions o hold
    · exact hfits
  apart o ho o' ho' hne := by
    rcases (Table.mem_insert? hinsert).mp ho with hold | rfl <;>
      rcases (Table.mem_insert? hinsert).mp ho' with hold' | rfl
    · exact h.apart o hold o' hold' hne
    · exact (hidle.apart id o).symm
    · exact hidle.apart id o'
    · exact absurd rfl hne

/-! ## A session goes on -/

section Stages
variable {s t : Sessions} {session other : Session} (h : SessionsFit s) (hs : session ∈ s.running)

theorem SessionFits.allHeld {db : Db} (hfits : SessionFits db session)
    (hstage : ∀ x remaining, session.tx.stage = .locking remaining → x ∉ remaining)
    (hlocks : session.tx.write.isEscalation = false) (x : Uuid) (hx : x ∈ session.tx.taskIds) : x ∈ session.held := by
  rcases hfits.locks hlocks x hx with hheld | ⟨remaining, hrem, hmem⟩
  · exact hheld
  · exact absurd hmem (hstage x remaining hrem)

theorem SessionFits.locking {db : Db} (hfits : SessionFits db session) {remaining held : List Uuid}
    (hlocks : session.tx.write.isEscalation = false → ∀ x ∈ session.tx.taskIds, x ∈ held ∨ x ∈ remaining) :
    SessionFits db { session.at (.locking remaining) with held } where
  tasks := hfits.tasks
  write := hfits.write
  locks hl x hx := (hlocks hl x hx).imp_right fun hmem => ⟨remaining, rfl, hmem⟩
  linked hw := by cases hw
  legacy hready := by cases hready

theorem SessionFits.nextLock {db : Db} (hfits : SessionFits db session) {taskId : Uuid} {remaining : List Uuid}
    (hstage : session.tx.stage = .locking (taskId :: remaining)) (hlocks : session.tx.write.isEscalation = false)
    (x : Uuid) (hx : x ∈ session.tx.taskIds) : x ∈ session.held ∨ x = taskId ∨ x ∈ remaining := by
  rcases hfits.locks hlocks x hx with hheld | ⟨remaining', hrem, hmem⟩
  · exact .inl hheld
  · rw [hstage] at hrem
    cases hrem
    exact .inr (List.mem_cons.mp hmem)

include h hs

theorem SessionsFit.allLocked (hstage : session.tx.stage = .locking []) :
    SessionsFit (s.update (session.at .reading)) := by
  have hfits := h.sessions session hs
  have hheld := hfits.allHeld fun x remaining hrem hmem => by
    rw [hstage] at hrem
    cases hrem
    cases hmem
  refine h.update ⟨hfits.tasks, hfits.write, fun hl x hx => .inl (hheld hl x hx), ?_, ?_⟩ fun other ho hne =>
    (h.apart session hs other ho hne).at ?_
  · intro hw
    cases hw
  · intro hready
    cases hready
  · intro hw
    cases hw

/-- A task that is gone is not locked; the tasks of a transaction exist. -/
theorem SessionsFit.skipLock {taskId : Uuid} {remaining : List Uuid}
    (hstage : session.tx.stage = .locking (taskId :: remaining)) (hgone : (s.db.tasks.get? taskId).isNone = true) :
    SessionsFit (s.update (session.at (.locking remaining))) := by
  have hfits := h.sessions session hs
  refine h.update (hfits.locking fun hl x hx => ?_) fun other ho hne => (h.apart session hs other ho hne).at ?_
  · rcases hfits.nextLock hstage hl x hx with hheld | rfl | hmem
    · exact .inl hheld
    · obtain ⟨t, ht, -⟩ := hfits.tasks x hx
      rw [ht] at hgone
      cases hgone
    · exact .inr hmem
  · intro hw
    cases hw

theorem SessionsFit.takeLock {taskId : Uuid} {remaining : List Uuid}
    (hstage : session.tx.stage = .locking (taskId :: remaining)) (hfree : s.lockFree session taskId = true) :
    SessionsFit (s.update { session.at (.locking remaining) with held := taskId :: session.held }) := by
  have hfits := h.sessions session hs
  refine h.update (hfits.locking fun hl x hx => ?_) fun other ho hne => (h.apart session hs other ho hne).lock ho hne hfree
  rcases hfits.nextLock hstage hl x hx with hheld | rfl | hmem
  · exact .inl (List.mem_cons_of_mem _ hheld)
  · exact .inl List.mem_cons_self
  · exact .inr hmem

omit h hs in
/-- The window of a careful session opens beside no escalation of a common task. -/
theorem not_isEscalation_of_careful (hcareful : overlapsEscalation s session = false)
    (hstage : session.tx.stage = .reading) (ho : other ∈ s.running) (hne : session.id ≠ other.id)
    (hw : other.inWindow = true) {x : Uuid} (hx : x ∈ session.tx.taskIds) (hx' : x ∈ other.tx.taskIds) :
    session.tx.write.isEscalation = false ∧ other.tx.write.isEscalation = false := by
  by_contra hesc
  have hone : (session.tx.write.isEscalation || other.tx.write.isEscalation) = true := by
    rwa [← Bool.not_eq_false, Bool.or_eq_false_iff]
  have hshared : session.tx.taskIds.any (· ∈ other.tx.taskIds) = true :=
    List.any_eq_true.mpr ⟨x, hx, decide_eq_true hx'⟩
  have hother : other.id ≠ session.id := fun he => hne he.symm
  have hoverlaps : overlapsEscalation s session = true := by
    unfold overlapsEscalation
    rw [decide_eq_true hstage, Bool.true_and]
    refine List.any_eq_true.mpr ⟨other, ho, ?_⟩
    rw [hw, hone, hshared, decide_eq_true hother]
    rfl
  rw [hcareful] at hoverlaps
  cases hoverlaps

theorem SessionsFit.readLinked (hcareful : overlapsEscalation s session = false) (hstage : session.tx.stage = .reading)
    (hquiet : (session.tx.taskIds.all fun x =>
      (linkedConflict s.db session.tx.boardId session.tx.exclude x).isNone) = true) :
    SessionsFit (s.update (session.at .halfRead)) := by
  have hfits := h.sessions session hs
  have hheld := hfits.allHeld fun x remaining hrem => by
    rw [hstage] at hrem
    cases hrem
  have hapart : ∀ other ∈ s.running, session.id ≠ other.id → Apart (session.at .halfRead) other := fun other ho hne => by
    refine ⟨(h.apart session hs other ho hne).exclusive, fun _ hw x hx hx' => ?_⟩
    have hnot : session.tx.write.isEscalation = false ∧ other.tx.write.isEscalation = false :=
      not_isEscalation_of_careful hcareful hstage ho hne hw hx hx'
    exact hnot
  refine h.update ⟨hfits.tasks, hfits.write, fun hl x hx => .inl (hheld hl x hx), ?_, ?_⟩ hapart
  · intro _ x hx
    exact Option.isNone_iff_eq_none.mp (List.all_eq_true.mp hquiet x hx)
  · intro hready
    cases hready

theorem SessionsFit.readLegacy (hstage : session.tx.stage = .halfRead)
    (hquiet : (session.tx.taskIds.all fun x =>
      (legacyConflict s.db session.tx.boardId session.tx.exclude x).isNone) = true) :
    SessionsFit (s.update (session.at .ready)) := by
  have hfits := h.sessions session hs
  have hwindow : session.inWindow = true := by simp [Session.inWindow, hstage]
  have hheld := hfits.allHeld fun x remaining hrem => by
    rw [hstage] at hrem
    cases hrem
  refine h.update ⟨hfits.tasks, hfits.write, fun hl x hx => .inl (hheld hl x hx), fun _ => hfits.linked hwindow, ?_⟩
    fun other ho hne => (h.apart session hs other ho hne).at fun _ => hwindow
  intro _ x hx
  exact Option.isNone_iff_eq_none.mp (List.all_eq_true.mp hquiet x hx)

/-- **A statement of a careful session** keeps the invariant. -/
theorem SessionsFit.advance (hcareful : overlapsEscalation s session = false) {texts : RunTexts}
    (hstep : s.advance texts session = some t) : SessionsFit t := by
  unfold Sessions.advance at hstep
  dsimp only at hstep
  split at hstep
  · rename_i hstage
    obtain rfl := Option.some.inj hstep
    exact h.allLocked hs hstage
  · rename_i taskId remaining hstage
    split at hstep
    · rename_i hgone
      obtain rfl := Option.some.inj hstep
      exact h.skipLock hs hstage hgone
    split at hstep
    · rename_i hfree
      obtain rfl := Option.some.inj hstep
      exact h.takeLock hs hstage hfree
    · cases hstep
  · rename_i hstage
    split at hstep
    · rename_i hquiet
      obtain rfl := Option.some.inj hstep
      exact h.readLinked hs hcareful hstage hquiet
    · obtain rfl := Option.some.inj hstep
      exact h.close _
  · rename_i hstage
    split at hstep
    · rename_i hquiet
      obtain rfl := Option.some.inj hstep
      exact h.readLegacy hs hstage hquiet
    · obtain rfl := Option.some.inj hstep
      exact h.close _
  · rename_i hstage
    split at hstep
    · obtain rfl := Option.some.inj hstep
      exact h.close _
    · rename_i db hwrite
      obtain rfl := Option.some.inj hstep
      exact h.commit hs hstage hwrite

end Stages

theorem SessionsFit.step {s t : Sessions} (h : SessionsFit s) {action : SessionAction}
    (hcareful : careful s action = true) {texts : RunTexts} (hstep : s.step texts action = some t) :
    SessionsFit t := by
  cases action with
  | start id now request =>
    simp only [Sessions.step] at hstep
    split at hstep
    · cases hstep
    · rename_i tx hbegin
      obtain ⟨running, hinsert, rfl⟩ := Option.map_eq_some_iff.mp hstep
      have hnames : tx.write.namesOwnTasks s.db = true := by simpa [careful, hbegin] using hcareful
      exact h.start hinsert (begin_fits h.approvals hbegin hnames) (begin_idle hbegin)
  | advance id =>
    obtain ⟨session, hget, hadvance⟩ := Option.bind_eq_some_iff.mp hstep
    have hquiet : overlapsEscalation s session = false := by simpa [careful, hget] using hcareful
    exact h.advance (Table.mem_of_get? hget) hquiet hadvance

/-! ## Runs of the sessions -/

/-- **One pending approval per task** in every state any interleaving commits, while creations name tasks of
their board and no escalation overlaps another transaction of its task. -/
theorem onePending {texts : RunTexts} {db : Db} {actions : List SessionAction} (hfit : ApprovalsFit db)
    (hone : OnePending db)
    (h : (sessionMachine texts).Along (fun s action => careful s action = true) { db } actions) :
    ∀ t ∈ (sessionMachine texts).committed { db } actions, OnePending t.db := by
  have hstart : SessionsFit { db } :=
    ⟨hfit, hone, fun o ho => absurd ho (Table.not_mem_empty o), fun o ho => absurd ho (Table.not_mem_empty o)⟩
  have hrun := Machine.committed_inv SessionsFit (M := sessionMachine texts) (P := fun s action => careful s action)
    (fun s action hs hcareful t ht => hs.step hcareful (Option.mem_toList.mp ht)) hstart h
  exact fun t ht => (hrun t ht).one

namespace Sample

def failed : Db := { db with tasks := ⟨[task], Table.nodup_one task⟩, runs := ⟨[run .failed], nodup_run .failed⟩ }

def asksApproval : ApprovalRequest :=
  .create 1 1 (.user 1) { actionType := "task.review", taskId := some 1, leadReasoning := some "Risky" }

def escalates : ApprovalRequest := .escalate scope 1 2 none

def whole (id : Nat) (request : ApprovalRequest) (statements : Nat) : List SessionAction :=
  .start id 1 request :: List.replicate statements (.advance id)

end Sample

theorem approvalsFit_of_empty {db : Db} (h : db.approvals = ∅) : ApprovalsFit db where
  own a ha := by simp [h] at ha
  references a ha := by simp [h] at ha

theorem onePending_failed :
    ((sessionMachine Sample.env.runTexts).committed { db := Sample.failed }
      (Sample.whole 1 Sample.asksApproval 5 ++ Sample.whole 2 Sample.escalates 3)).Forall
        (fun t => OnePending t.db) :=
  List.forall_iff_forall_mem.mpr
    (onePending (approvalsFit_of_empty rfl) (fun a ha => absurd ha (Table.not_mem_empty a)) (by decide))

/-- An escalation that has read commits after a creation. -/
theorem not_onePending :
    ¬ ∀ (texts : RunTexts) (db : Db) (actions : List SessionAction), ApprovalsFit db → OnePending db →
      ∀ t ∈ (sessionMachine texts).committed { db } actions, OnePending t.db := by
  intro h
  have hall := h Sample.env.runTexts Sample.failed
    (Sample.whole 1 Sample.escalates 2 ++ Sample.whole 2 Sample.asksApproval 5 ++ [.advance 1])
    (approvalsFit_of_empty rfl) (fun a ha => absurd ha (Table.not_mem_empty a))
  have htwo : ∃ t ∈ (sessionMachine Sample.env.runTexts).committed { db := Sample.failed }
      (Sample.whole 1 Sample.escalates 2 ++ Sample.whole 2 Sample.asksApproval 5 ++ [.advance 1]),
      ∃ a ∈ t.db.approvals.rows, ∃ b ∈ t.db.approvals.rows, a.id = 1 ∧ b.id = 2 ∧ a.status = .pending ∧
        b.status = .pending ∧ isLinked t.db.approvalTaskLinks a.id 1 = true ∧
        isLinked t.db.approvalTaskLinks b.id 1 = true := by decide
  obtain ⟨t, ht, a, ha, b, hb, hida, hidb, hpa, hpb, hla, hlb⟩ := htwo
  have hsame := hall t ht a ha b hb hpa hpb 1 (.inr hla) (.inr hlb)
  rw [hsame, hidb] at hida
  cases hida

end SiloForge
