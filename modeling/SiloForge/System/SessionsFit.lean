import SiloForge.System.Sessions

/-!
# What holds while sessions interleave

Creations and updates look for conflicts under the locks of their tasks, so two of them never rely on what they
read about one task at once.

* `ApprovalsFit`, `OnePending` : approvals stand for tasks of their board, and no two pending ones for one task;
* `SessionFits`, `Apart`, `SessionsFit` : the invariant of a session, of two of them, and of all;
* `sessions_disjoint` : between its first statement and its commit a transaction has its tasks to itself;
* `SessionsFit.commit` : a commit keeps the invariant.
-/

namespace SiloForge

open Lib

/-! ## Approvals that fit -/

def OnBoard (db : Db) (taskId boardId : Uuid) : Prop :=
  ∃ t, db.tasks.get? taskId = some t ∧ t.boardId = some boardId

/-- Approvals stand for tasks of their board, and the query sees whatever they stand for. -/
structure ApprovalsFit (db : Db) : Prop where
  own : ∀ a ∈ db.approvals, ∀ x, StandsFor db.approvalTaskLinks a x → OnBoard db x a.boardId
  references : ∀ a ∈ db.approvals, ∀ x, StandsFor db.approvalTaskLinks a x → References db.approvalTaskLinks a x

/-- No two pending approvals stand for one task. -/
def OnePending (db : Db) : Prop :=
  ∀ a ∈ db.approvals, ∀ b ∈ db.approvals, a.status = .pending → b.status = .pending →
    ∀ x, StandsFor db.approvalTaskLinks a x → StandsFor db.approvalTaskLinks b x → a = b

variable {db t : Db} {a a' : Approval} {links : Table ApprovalTaskLink} {taskIds : List Uuid} {tx : ApprovalTx}
  {session other : Session} {s : Sessions}

theorem OnBoard.unique {taskId b b' : Uuid} (h : OnBoard db taskId b) (h' : OnBoard db taskId b') : b = b' := by
  obtain ⟨t, ht, hb⟩ := h
  obtain ⟨t', ht', hb'⟩ := h'
  obtain rfl : t = t' := Option.some.inj (ht.symm.trans ht')
  exact Option.some.inj (hb.symm.trans hb')

/-! ## The writes of a transaction -/

structure SameApproval (db t : Db) (a a' : Approval) : Prop where
  id : a'.id = a.id
  boardId : a'.boardId = a.boardId
  taskId : a'.taskId = a.taskId
  links : ∀ x, isLinked t.approvalTaskLinks a'.id x = isLinked db.approvalTaskLinks a.id x

theorem SameApproval.standsFor (h : SameApproval db t a a') (x : Uuid) :
    StandsFor t.approvalTaskLinks a' x ↔ StandsFor db.approvalTaskLinks a x := by
  unfold StandsFor
  rw [h.taskId, h.links]

theorem SameApproval.hasLinks (h : SameApproval db t a a') :
    SiloForge.hasLinks t.approvalTaskLinks a'.id = SiloForge.hasLinks db.approvalTaskLinks a.id := by
  rw [Bool.eq_iff_iff, hasLinks_iff, hasLinks_iff]
  simp only [h.links]

theorem SameApproval.references (h : SameApproval db t a a') (x : Uuid) :
    References t.approvalTaskLinks a' x ↔ References db.approvalTaskLinks a x := by
  unfold References
  rw [h.taskId, h.links, h.hasLinks]

structure Made (t : Db) (tx : ApprovalTx) (a : Approval) : Prop where
  boardId : a.boardId = tx.boardId
  target : a.id = tx.write.target
  tasks : ∀ x, StandsFor t.approvalTaskLinks a x → x ∈ tx.taskIds
  exclude : tx.exclude = none ∨ tx.exclude = some a.id

structure Effect (db t : Db) (tx : ApprovalTx) : Prop where
  tasks : ∀ x b, OnBoard db x b → OnBoard t x b
  keeps : ∀ a ∈ db.approvals, ∃ a' ∈ t.approvals, SameApproval db t a a'
  origin : ∀ a' ∈ t.approvals,
    (∃ a ∈ db.approvals, SameApproval db t a a' ∧ (a'.status = .pending → a.status = .pending ∨ Made t tx a')) ∨
      (∀ x, StandsFor t.approvalTaskLinks a' x → References t.approvalTaskLinks a' x ∧ OnBoard t x a'.boardId) ∧
        (a'.status = .pending → Made t tx a')

def WriteFits (db : Db) (tx : ApprovalTx) : Prop :=
  match tx.write with
  | .insert approval taskIds =>
    approval.boardId = tx.boardId ∧ approval.taskId = taskIds.head? ∧ (∀ x ∈ taskIds, OnBoard db x tx.boardId) ∧
      (approval.status = .pending → taskIds ⊆ tx.taskIds) ∧ tx.exclude = none
  | .resolve approvalId status _ =>
    status = some .pending → tx.exclude = some approvalId ∧ ∃ a ∈ db.approvals, a.id = approvalId ∧
      a.boardId = tx.boardId ∧ ∀ x, StandsFor db.approvalTaskLinks a x → x ∈ tx.taskIds
  | .escalate _ board task _ _ _ _ =>
    tx.boardId = board.id ∧ tx.taskIds = [task.id] ∧ tx.exclude = none ∧ task.boardId = some board.id

theorem isLinked_inserted {approvalId : Uuid} (hlinks : replaceApprovalTaskLinks db approvalId taskIds = .ok links)
    (x : Uuid) :
    isLinked links approvalId x = true ↔ x ∈ taskIds := by
  obtain ⟨-, hmem⟩ := replaceApprovalTaskLinks_eq_ok hlinks
  rw [isLinked_iff, hmem]
  simp

theorem isLinked_other {approvalId : Uuid} (hlinks : replaceApprovalTaskLinks db approvalId taskIds = .ok links)
    {id : Uuid} (hne : id ≠ approvalId) (x : Uuid) : isLinked links id x = isLinked db.approvalTaskLinks id x := by
  obtain ⟨-, hmem⟩ := replaceApprovalTaskLinks_eq_ok hlinks
  rw [Bool.eq_iff_iff, isLinked_iff, isLinked_iff, hmem]
  simp [hne]

theorem insert_effect {approval : Approval} {approvals : Table Approval}
    (hinsert : db.approvals.insert? approval = some approvals)
    (hlinks : replaceApprovalTaskLinks db approval.id taskIds = .ok t.approvalTaskLinks)
    (hstored : t.approvals = approvals) (htasks : ∀ x b, OnBoard db x b → OnBoard t x b)
    (htarget : approval.id = tx.write.target) (hboard : approval.boardId = tx.boardId)
    (hhead : approval.taskId = taskIds.head?) (hon : ∀ x ∈ taskIds, OnBoard db x tx.boardId)
    (hpending : approval.status = .pending → taskIds ⊆ tx.taskIds) (hexclude : tx.exclude = none) :
    Effect db t tx := by
  have hsame : ∀ a ∈ db.approvals, SameApproval db t a a := by
    intro a ha
    have hne : a.id ≠ approval.id := Table.get?_eq_none.mp (Table.insert?_eq_some hinsert).2 a ha
    exact ⟨rfl, rfl, rfl, isLinked_other hlinks hne⟩
  have hstands : ∀ x, StandsFor t.approvalTaskLinks approval x → x ∈ taskIds := by
    rintro x (hown | hlinked)
    · exact List.mem_of_mem_head? (hhead ▸ hown)
    · exact (isLinked_inserted hlinks x).mp hlinked
  refine ⟨htasks, ?_, ?_⟩
  · intro a ha
    exact ⟨a, hstored ▸ (Table.mem_insert? hinsert).mpr (.inl ha), hsame a ha⟩
  · intro a ha
    rw [hstored] at ha
    rcases (Table.mem_insert? hinsert).mp ha with hold | rfl
    · exact .inl ⟨a, hold, hsame a hold, .inl⟩
    · refine .inr ⟨?_, ?_⟩
      · intro x hx
        exact ⟨.inl ((isLinked_inserted hlinks x).mpr (hstands x hx)), htasks x _ (hboard ▸ hon x (hstands x hx))⟩
      · intro hp
        exact ⟨hboard, htarget, fun x hx => hpending hp (hstands x hx), .inl hexclude⟩

theorem OnBoard.put {task' : Task} (ht : t.tasks = db.tasks.put task')
    (hon : ∀ b, OnBoard db task'.id b → task'.boardId = some b) {x b : Uuid} (h : OnBoard db x b) :
    OnBoard t x b := by
  obtain ⟨old, hold, hb⟩ := h
  unfold OnBoard
  rw [ht, Table.get?_put]
  split
  · rename_i hx
    obtain rfl : x = task'.id := hx
    exact ⟨task', by rw [hold, Option.map_some], hon b ⟨old, hold, hb⟩⟩
  · exact ⟨old, hold, hb⟩

/-- **The writes of a transaction that fits.** -/
theorem apply_effect {texts : RunTexts} (hwrite : WriteFits db tx) (htasks : ∀ x ∈ tx.taskIds, OnBoard db x tx.boardId)
    (h : tx.write.apply texts db = .ok t) : Effect db t tx := by
  obtain ⟨boardId, taskIds, exclude, write, stage⟩ := tx
  cases write with
  | insert approval ids =>
    obtain ⟨hboard, hhead, hon, hpending, hexclude⟩ := hwrite
    obtain ⟨approvals, links, hinsert, hlinks, rfl⟩ := storeApproval_eq_ok h
    exact insert_effect hinsert hlinks rfl (fun _ _ => id) rfl hboard hhead hon hpending hexclude
  | resolve approvalId status resolvedAt =>
    obtain ⟨a₀, hget, ht⟩ := bind_eq_ok.mp h
    obtain rfl := pure_eq_ok.mp ht
    have hget := orFail_eq_ok.mp hget
    have hmem : a₀ ∈ db.approvals := Table.mem_of_get? hget
    have hid : a₀.id = approvalId := Table.key_of_get? hget
    refine ⟨fun _ _ => id, ?_, ?_⟩
    · intro a ha
      by_cases hk : a.id = a₀.id
      · obtain rfl : a = a₀ := Table.eq_of_key_eq ha hmem hk
        refine ⟨a.written status resolvedAt, Table.mem_put.mpr (.inr ⟨rfl, ?_⟩), rfl, rfl, rfl, fun _ => rfl⟩
        exact Option.isSome_iff_exists.mpr ⟨a, Table.get?_key ha⟩
      · exact ⟨a, Table.mem_put.mpr (.inl ⟨ha, hk⟩), rfl, rfl, rfl, fun _ => rfl⟩
    · intro a ha
      rcases Table.mem_put.mp ha with ⟨hold, -⟩ | ⟨rfl, -⟩
      · exact .inl ⟨a, hold, ⟨rfl, rfl, rfl, fun _ => rfl⟩, .inl⟩
      · refine .inl ⟨a₀, hmem, ⟨rfl, rfl, rfl, fun _ => rfl⟩, fun hp => ?_⟩
        cases status with
        | none => exact .inl hp
        | some s =>
          obtain rfl : s = .pending := hp
          obtain ⟨hexclude, a₁, ha₁, hid₁, hboard, hstands⟩ := hwrite rfl
          obtain rfl : a₁ = a₀ := Table.eq_of_key_eq ha₁ hmem (hid₁.trans hid.symm)
          exact .inr ⟨hboard, hid, hstands, .inr (hid ▸ hexclude)⟩
  | escalate now board task run silo approvalId note =>
    obtain ⟨hb, hids, hexclude, honTask⟩ := hwrite
    obtain ⟨approval, approvals, links, tasks, events, hid, hboard, htask, hpending, -, hinsert, hlinks, hmoved, rfl⟩ :=
      storeEscalation_eq_ok h
    have hb : boardId = board.id := hb
    have hids : taskIds = [task.id] := hids
    have hon : OnBoard db task.id boardId := htasks task.id (by simp [hids])
    refine insert_effect hinsert hlinks rfl ?_ hid (hboard.trans hb.symm) htask ?_ (fun _ => ?_) hexclude
    · intro x b hx
      rcases hmoved with rfl | ⟨-, rfl⟩
      · exact hx
      · refine hx.put rfl fun b' hb' => ?_
        rw [hb'.unique hon, hb]
        exact honTask
    · intro x hx
      obtain rfl := List.mem_singleton.mp hx
      exact hon
    · exact hids ▸ List.Subset.refl _

/-! ## Sessions -/

/-- Between its first statement and its commit a transaction relies on what it has read. -/
def Session.inWindow (session : Session) : Bool :=
  session.tx.stage = .halfRead || session.tx.stage = .ready

structure SessionFits (db : Db) (session : Session) : Prop where
  tasks : ∀ x ∈ session.tx.taskIds, OnBoard db x session.tx.boardId
  write : WriteFits db session.tx
  locks : session.tx.write.isEscalation = false → ∀ x ∈ session.tx.taskIds,
    x ∈ session.held ∨ ∃ remaining, session.tx.stage = .locking remaining ∧ x ∈ remaining
  linked : session.inWindow = true → ∀ x ∈ session.tx.taskIds,
    linkedConflict db session.tx.boardId session.tx.exclude x = none
  legacy : session.tx.stage = .ready → ∀ x ∈ session.tx.taskIds,
    legacyConflict db session.tx.boardId session.tx.exclude x = none

structure Apart (session other : Session) : Prop where
  exclusive : ∀ x ∈ session.held, x ∉ other.held
  escalations : session.inWindow = true → other.inWindow = true →
    ∀ x ∈ session.tx.taskIds, x ∈ other.tx.taskIds →
      session.tx.write.isEscalation = false ∧ other.tx.write.isEscalation = false

theorem Apart.symm (h : Apart session other) : Apart other session where
  exclusive x hx hx' := h.exclusive x hx' hx
  escalations hother hsession x hx hx' := (h.escalations hsession hother x hx' hx).symm

structure SessionsFit (s : Sessions) : Prop where
  approvals : ApprovalsFit s.db
  one : OnePending s.db
  sessions : ∀ session ∈ s.running, SessionFits s.db session
  apart : ∀ session ∈ s.running, ∀ other ∈ s.running, session.id ≠ other.id → Apart session other

theorem SessionFits.holds (h : SessionFits db session) (hwindow : session.inWindow = true)
    (hlocks : session.tx.write.isEscalation = false) {x : Uuid} (hx : x ∈ session.tx.taskIds) : x ∈ session.held := by
  rcases h.locks hlocks x hx with hheld | ⟨remaining, hstage, -⟩
  · exact hheld
  · simp [Session.inWindow, hstage] at hwindow

/-- **A transaction has its tasks to itself** between its first statement and its commit. -/
theorem sessions_disjoint (hsession : SessionFits db session) (hother : SessionFits db other)
    (hapart : Apart session other) (hwindow : session.inWindow = true) (hwindow' : other.inWindow = true) {x : Uuid}
    (hx : x ∈ session.tx.taskIds) : x ∉ other.tx.taskIds := by
  intro hx'
  obtain ⟨hlocks, hlocks'⟩ := hapart.escalations hwindow hwindow' x hx hx'
  exact hapart.exclusive x (hsession.holds hwindow hlocks hx) (hother.holds hwindow' hlocks' hx')

/-! ## Statements that commit nothing -/

theorem SessionsFit.close (h : SessionsFit s) (id : Nat) : SessionsFit (s.close id) where
  approvals := h.approvals
  one := h.one
  sessions session hs := h.sessions session (Table.mem_deleteWhere.mp hs).1
  apart session hs other ho := h.apart session (Table.mem_deleteWhere.mp hs).1 other (Table.mem_deleteWhere.mp ho).1

theorem SessionsFit.update (h : SessionsFit s) (hfits : SessionFits s.db session)
    (hapart : ∀ other ∈ s.running, session.id ≠ other.id → Apart session other) :
    SessionsFit (s.update session) where
  approvals := h.approvals
  one := h.one
  sessions o ho := by
    rcases Table.mem_put.mp ho with ⟨hold, -⟩ | ⟨rfl, -⟩
    · exact h.sessions o hold
    · exact hfits
  apart o ho o' ho' hne := by
    rcases Table.mem_put.mp ho with ⟨hold, -⟩ | ⟨rfl, -⟩ <;> rcases Table.mem_put.mp ho' with ⟨hold', -⟩ | ⟨rfl, -⟩
    · exact h.apart o hold o' hold' hne
    · exact (hapart o hold hne.symm).symm
    · exact hapart o' hold' hne
    · exact absurd rfl hne

theorem Apart.at (h : Apart session other) {stage : Stage}
    (hwindow : (session.at stage).inWindow = true → session.inWindow = true) : Apart (session.at stage) other where
  exclusive := h.exclusive
  escalations hw hw' := h.escalations (hwindow hw) hw'

theorem Apart.lock (h : Apart session other) (ho : other ∈ s.running) (hne : session.id ≠ other.id) {taskId : Uuid}
    (hfree : s.lockFree session taskId = true) {remaining : List Uuid} :
    Apart { session.at (.locking remaining) with held := taskId :: session.held } other where
  exclusive x hx := by
    rcases List.mem_cons.mp hx with rfl | hx
    · have hother := List.all_eq_true.mp hfree other ho
      simpa [hne.symm] using hother
    · exact h.exclusive x hx
  escalations hw := by simp [Session.inWindow, Session.at] at hw

/-! ## Commits -/

theorem quiet_of_effect (heffect : Effect db t tx) (hother : SessionFits db other)
    (hdisjoint : other.inWindow = true → ∀ x ∈ other.tx.taskIds, x ∉ tx.taskIds) : SessionFits t other where
  tasks x hx := heffect.tasks x _ (hother.tasks x hx)
  write := by
    have hwrite := hother.write
    unfold WriteFits at hwrite ⊢
    split at hwrite
    · obtain ⟨hboard, hhead, hon, hrest⟩ := hwrite
      exact ⟨hboard, hhead, fun x hx => heffect.tasks x _ (hon x hx), hrest⟩
    · intro hp
      obtain ⟨hexclude, a, ha, hid, hboard, hstands⟩ := hwrite hp
      obtain ⟨a', ha', hsame⟩ := heffect.keeps a ha
      exact ⟨hexclude, a', ha', hsame.id.trans hid, hsame.boardId.trans hboard,
        fun x hx => hstands x ((hsame.standsFor x).mp hx)⟩
    · exact hwrite
  locks := hother.locks
  linked hw x hx := by
    rw [linkedConflict_eq_none]
    intro a' ha' hboard hpending hlinked
    rcases heffect.origin a' ha' with ⟨a, ha, hsame, hcases⟩ | ⟨-, hmade⟩
    · rcases hcases hpending with hwas | hmade
      · have hquiet := linkedConflict_eq_none.mp (hother.linked hw x hx) a ha (hsame.boardId ▸ hboard) hwas
          (hsame.links x ▸ hlinked)
        rw [hquiet, hsame.id]
      · exact absurd (hmade.tasks x (.inr hlinked)) (hdisjoint hw x hx)
    · exact absurd ((hmade hpending).tasks x (.inr hlinked)) (hdisjoint hw x hx)
  legacy hready x hx := by
    have hw : other.inWindow = true := by simp [Session.inWindow, hready]
    rw [legacyConflict_eq_none]
    intro a' ha' hboard hpending hown hlinks
    rcases heffect.origin a' ha' with ⟨a, ha, hsame, hcases⟩ | ⟨-, hmade⟩
    · rcases hcases hpending with hwas | hmade
      · have hquiet := legacyConflict_eq_none.mp (hother.legacy hready x hx) a ha (hsame.boardId ▸ hboard) hwas
          (hsame.taskId ▸ hown) (hsame.hasLinks ▸ hlinks)
        rw [hquiet, hsame.id]
      · exact absurd (hmade.tasks x (.inl hown)) (hdisjoint hw x hx)
    · exact absurd ((hmade hpending).tasks x (.inl hown)) (hdisjoint hw x hx)

theorem Effect.pending (heffect : Effect db t tx) (ha' : a' ∈ t.approvals) (hpending : a'.status = .pending) :
    (∃ a ∈ db.approvals, SameApproval db t a a' ∧ a.status = .pending) ∨ Made t tx a' := by
  rcases heffect.origin a' ha' with ⟨a, ha, hsame, hcases⟩ | ⟨-, hmade⟩
  · exact (hcases hpending).imp_left fun hwas => ⟨a, ha, hsame, hwas⟩
  · exact .inr (hmade hpending)

theorem Effect.approvalsFit (heffect : Effect db t tx) (hdb : ApprovalsFit db) : ApprovalsFit t where
  own a' ha' x hx := by
    rcases heffect.origin a' ha' with ⟨a, ha, hsame, -⟩ | ⟨hfits, -⟩
    · rw [hsame.boardId]
      exact heffect.tasks x _ (hdb.own a ha x ((hsame.standsFor x).mp hx))
    · exact (hfits x hx).2
  references a' ha' x hx := by
    rcases heffect.origin a' ha' with ⟨a, ha, hsame, -⟩ | ⟨hfits, -⟩
    · exact (hsame.references x).mpr (hdb.references a ha x ((hsame.standsFor x).mp hx))
    · exact (hfits x hx).1

theorem SessionFits.excluded (hsession : SessionFits db session) (hready : session.tx.stage = .ready)
    (hdb : ApprovalsFit db) (ha : a ∈ db.approvals) (hpending : a.status = .pending) {x : Uuid}
    (hstands : StandsFor db.approvalTaskLinks a x) (hx : x ∈ session.tx.taskIds) : session.tx.exclude = some a.id := by
  have hboard : a.boardId = session.tx.boardId := (hdb.own a ha x hstands).unique (hsession.tasks x hx)
  have hwindow : session.inWindow = true := by simp [Session.inWindow, hready]
  rcases hdb.references a ha x hstands with hlinked | ⟨hown, hlinks⟩
  · exact linkedConflict_eq_none.mp (hsession.linked hwindow x hx) a ha hboard hpending hlinked
  · exact legacyConflict_eq_none.mp (hsession.legacy hready x hx) a ha hboard hpending hown hlinks

/-- **A commit keeps one pending approval per task.** -/
theorem Effect.onePendingFor (heffect : Effect db t session.tx) (hsession : SessionFits db session)
    (hready : session.tx.stage = .ready) (hdb : ApprovalsFit db) (hone : OnePending db) : OnePending t := by
  have hmixed : ∀ a' b' x, (∃ a ∈ db.approvals, SameApproval db t a a' ∧ a.status = .pending) →
      Made t session.tx b' → StandsFor t.approvalTaskLinks a' x → StandsFor t.approvalTaskLinks b' x →
      a'.id = b'.id := by
    rintro a' b' x ⟨a, ha, hsame, hpending⟩ hmade hax hbx
    have hexclude := hsession.excluded hready hdb ha hpending ((hsame.standsFor x).mp hax) (hmade.tasks x hbx)
    rcases hmade.exclude with hnone | hsome
    · rw [hnone] at hexclude
      cases hexclude
    · exact hsame.id.trans (Option.some.inj (hexclude.symm.trans hsome))
  intro a' ha' b' hb' hpa hpb x hax hbx
  apply Table.eq_of_key_eq ha' hb'
  rcases heffect.pending ha' hpa with hold | hmade <;> rcases heffect.pending hb' hpb with hold' | hmade'
  · obtain ⟨a, ha, hsame, hwas⟩ := hold
    obtain ⟨b, hb, hsame', hwas'⟩ := hold'
    obtain rfl := hone a ha b hb hwas hwas' x ((hsame.standsFor x).mp hax) ((hsame'.standsFor x).mp hbx)
    exact hsame.id.trans hsame'.id.symm
  · exact hmixed a' b' x hold hmade' hax hbx
  · exact (hmixed b' a' x hold' hmade hbx hax).symm
  · exact hmade.target.trans hmade'.target.symm

theorem SessionsFit.commit (h : SessionsFit s) (hs : session ∈ s.running) (hready : session.tx.stage = .ready)
    {texts : RunTexts} (hwrite : session.tx.write.apply texts s.db = .ok t) :
    SessionsFit { s.close session.id with db := t } := by
  have hsession := h.sessions session hs
  have heffect : Effect s.db t session.tx := apply_effect hsession.write hsession.tasks hwrite
  refine ⟨heffect.approvalsFit h.approvals, heffect.onePendingFor hsession hready h.approvals h.one, ?_, ?_⟩
  · intro other ho
    obtain ⟨ho, hne⟩ := Table.mem_deleteWhere.mp ho
    simp only [decide_eq_false_iff_not] at hne
    have hother := h.sessions other ho
    refine quiet_of_effect heffect hother fun hwindow x hx => ?_
    have hready' : session.inWindow = true := by simp [Session.inWindow, hready]
    exact sessions_disjoint hother hsession (h.apart other ho session hs hne) hwindow hready' hx
  · intro o ho o' ho'
    exact h.apart o (Table.mem_deleteWhere.mp ho).1 o' (Table.mem_deleteWhere.mp ho').1

end SiloForge
