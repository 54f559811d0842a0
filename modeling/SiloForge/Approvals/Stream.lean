import SiloForge.Approvals.Readers
import SiloForge.Lib.Machine
import SiloForge.Lib.Polling

/-!
# The stream of a board's approvals

A poll finds the approvals that were created or resolved at the cursor or after it, emits each as it is now, and moves
the cursor to the latest of their times. Setting an approval back to pending changes neither time.

* `fetchApprovalEvents`, `approvalStreamStep` : creations and updates of approvals beside the polls of one stream;
* `Converged` : what was emitted last for an approval that was touched is its status;
* `converged_iff` : a run converges exactly when its polls do.
-/

namespace SiloForge

open Lib

/-! ## One poll -/

/-- The order of the answer; the database may order rows of one time as it likes. -/
def approvalsOldestFirst (rank : Uuid → Nat) (a b : Approval) : Bool :=
  a.createdAt < b.createdAt ∨ (a.createdAt = b.createdAt ∧ rank a.id ≤ rank b.id)

def changedSince (since : Time) (approval : Approval) : Bool :=
  since ≤ approval.createdAt ∨ approval.resolvedAt.any (since ≤ ·)

def fetchApprovalEvents (db : Db) (boardId : Uuid) (since : Time) (rank : Uuid → Nat) : List Approval :=
  (db.approvals.rows.filter fun a => a.boardId = boardId ∧ changedSince since a).mergeSort (approvalsOldestFirst rank)

structure ApprovalEvent where
  approval : ApprovalRead
  pendingApprovalsCount : Nat
  taskCounts : List (Uuid × Nat × Nat)

/-- `_approval_updated_at`. -/
def ApprovalEvent.updatedAt (event : ApprovalEvent) : Time :=
  event.approval.resolvedAt.getD event.approval.createdAt

def approvalEvents (db : Db) (boardId : Uuid) (since : Time) (rank : Uuid → Nat) : List ApprovalEvent :=
  let reads := approvalReads db (fetchApprovalEvents db boardId since rank)
  let counts := taskCountsForBoard db boardId (some (reads.flatMap (·.taskIds)))
  reads.map fun read =>
    { approval := read
      pendingApprovalsCount := db.approvals.rows.countP fun a => a.boardId = boardId ∧ a.status = .pending
      taskCounts := read.taskIds.filterMap fun taskId => (counts taskId).map fun c => (taskId, c) }

/-! ## Changes and polls -/

/-- The database, the approvals as the latest poll found them, those touched since the stream was opened, and the
stream; `quiet` says that nothing was touched since the latest poll. -/
structure ApprovalStreamState where
  db : Db := {}
  polled : Table Approval := ∅
  touched : List Uuid := []
  quiet : Bool := true
  stream : Cursor ApprovalEvent Time

/-- `event_generator` when it starts. -/
def ApprovalStreamState.opened (db : Db) (since : Time) : ApprovalStreamState :=
  { db, polled := db.approvals, stream := ⟨since, []⟩ }

inductive ApprovalStreamAction where
  | create (now : Time) (boardId approvalId : Uuid) (actor : Actor) (payload : ApprovalCreate)
  | update (now : Time) (boardId approvalId userId : Uuid) (status : Option ApprovalStatus)
  | poll (rank : Uuid → Nat)

def ApprovalStreamState.touch (s : ApprovalStreamState) (approvalId : Uuid) (db : Db) : ApprovalStreamState :=
  { s with db, touched := approvalId :: s.touched, quiet := false }

def approvalStreamStep (boardId : Uuid) (s : ApprovalStreamState) : ApprovalStreamAction → ApprovalStreamState
  | .create now board approvalId actor payload =>
    match createApproval s.db now board approvalId actor payload with
    | .ok db => s.touch approvalId db
    | .error _ => s
  | .update now board approvalId userId status =>
    match updateApproval s.db now board approvalId userId status with
    | .ok db => if status.isSome then s.touch approvalId db else s
    | .error _ => s
  | .poll rank =>
    { s with
      polled := s.db.approvals
      quiet := true
      stream := s.stream.takeAll ApprovalEvent.updatedAt (approvalEvents s.db boardId s.stream.lastSeen rank) }

def approvalStreamMachine (boardId : Uuid) : Machine ApprovalStreamState ApprovalStreamAction where
  commits s a := [approvalStreamStep boardId s a]

/-! ## Convergence -/

/-- The status emitted last for an approval. -/
def lastShown (events : List ApprovalEvent) (approvalId : Uuid) : Option ApprovalStatus :=
  ((events.filter fun e => e.approval.id = approvalId).getLast?).map (·.approval.status)

/-- After a poll that follows the last change, what was emitted last for an approval of the board that was touched is
its status. -/
def Converged (boardId : Uuid) (s : ApprovalStreamState) : Prop :=
  s.quiet = true → ∀ a ∈ s.db.approvals, a.boardId = boardId → a.id ∈ s.touched →
    lastShown s.stream.out a.id = some a.status

/-- A poll finds an approval of the board that was touched, unless it was emitted before and has the status the latest
poll found. -/
def Finds (boardId : Uuid) (s : ApprovalStreamState) : ApprovalStreamAction → Prop
  | .poll _ => ∀ a ∈ s.db.approvals.rows, a.boardId = boardId → a.id ∈ s.touched →
      changedSince s.stream.lastSeen a = true ∨
        ((lastShown s.stream.out a.id).isSome ∧ (s.polled.get? a.id).map (·.status) = some a.status)
  | _ => True

instance (boardId : Uuid) (s : ApprovalStreamState) : ∀ a, Decidable (Finds boardId s a)
  | .poll _ => inferInstanceAs (Decidable (∀ a ∈ s.db.approvals.rows, _ → _ → _ ∨ _ ∧ _))
  | .create .. | .update .. => .isTrue trivial

/-- What was emitted last is what the latest poll found, and what was not touched is as it was then. -/
structure ApprovalStreamInv (boardId : Uuid) (s : ApprovalStreamState) : Prop where
  shown : ∀ approvalId status, lastShown s.stream.out approvalId = some status →
    ∃ a ∈ s.polled, a.id = approvalId ∧ a.boardId = boardId ∧ a.status = status
  kept : ∀ a ∈ s.polled, ∃ b ∈ s.db.approvals, b.id = a.id ∧ b.boardId = a.boardId
  untouched : ∀ a ∈ s.polled, a.id ∉ s.touched → a ∈ s.db.approvals
  converged : Converged boardId s

theorem lastShown_append (events later : List ApprovalEvent) (approvalId : Uuid) :
    lastShown (events ++ later) approvalId = (lastShown later approvalId).or (lastShown events approvalId) := by
  unfold lastShown
  rw [List.filter_append, List.getLast?_append, Option.map_or]

theorem lastShown_eq_of_forall {events : List ApprovalEvent} {approvalId : Uuid} {status : ApprovalStatus}
    (hall : ∀ e ∈ events, e.approval.id = approvalId → e.approval.status = status)
    (hsome : ∃ e ∈ events, e.approval.id = approvalId) : lastShown events approvalId = some status := by
  obtain ⟨e, he, hid⟩ := hsome
  have hmem : e ∈ events.filter fun e => e.approval.id = approvalId := List.mem_filter.mpr ⟨he, decide_eq_true hid⟩
  obtain ⟨last, hlast⟩ := Option.isSome_iff_exists.mp (List.getLast?_isSome.mpr (List.ne_nil_of_mem hmem))
  obtain ⟨hin, hlastId⟩ := List.mem_filter.mp (List.mem_of_getLast? hlast)
  unfold lastShown
  rw [hlast, Option.map_some, hall last hin (of_decide_eq_true hlastId)]

theorem lastShown_eq_none {events : List ApprovalEvent} {approvalId : Uuid}
    (h : ∀ e ∈ events, e.approval.id ≠ approvalId) : lastShown events approvalId = none := by
  unfold lastShown
  rw [List.filter_eq_nil_iff.mpr fun e he => by rw [decide_eq_true_eq]; exact h e he]
  rfl

section Poll
variable {db : Db} {boardId : Uuid} {since : Time} {rank : Uuid → Nat}

theorem mem_fetchApprovalEvents {a : Approval} : a ∈ fetchApprovalEvents db boardId since rank ↔
    a ∈ db.approvals ∧ a.boardId = boardId ∧ changedSince since a = true := by
  unfold fetchApprovalEvents
  rw [List.mem_mergeSort, List.mem_filter, decide_eq_true_eq, Table.mem_def]

theorem exists_approval_of_event {e : ApprovalEvent} (h : e ∈ approvalEvents db boardId since rank) :
    ∃ a ∈ fetchApprovalEvents db boardId since rank, a.id = e.approval.id ∧ a.status = e.approval.status := by
  obtain ⟨read, hread, rfl⟩ := List.mem_map.mp h
  obtain ⟨a, ha, rfl⟩ := List.mem_map.mp hread
  exact ⟨a, ha, rfl, rfl⟩

theorem exists_event_of_approval {a : Approval} (h : a ∈ fetchApprovalEvents db boardId since rank) :
    ∃ e ∈ approvalEvents db boardId since rank, e.approval.id = a.id :=
  ⟨_, List.mem_map_of_mem (List.mem_map_of_mem h), rfl⟩

theorem lastShown_events_of_changed {a : Approval} (ha : a ∈ db.approvals) (hboard : a.boardId = boardId)
    (hchanged : changedSince since a = true) :
    lastShown (approvalEvents db boardId since rank) a.id = some a.status := by
  refine lastShown_eq_of_forall (fun e he hid => ?_) (exists_event_of_approval (mem_fetchApprovalEvents.mpr
    ⟨ha, hboard, hchanged⟩))
  obtain ⟨b, hb, hbid, hstatus⟩ := exists_approval_of_event he
  obtain rfl := Table.eq_of_key_eq (mem_fetchApprovalEvents.mp hb).1 ha (hbid.trans hid)
  exact hstatus.symm

theorem lastShown_events_eq_none {approvalId : Uuid}
    (h : ∀ a ∈ db.approvals, a.id = approvalId → a.boardId = boardId → changedSince since a = false) :
    lastShown (approvalEvents db boardId since rank) approvalId = none := by
  refine lastShown_eq_none fun e he hid => ?_
  obtain ⟨b, hb, hbid, -⟩ := exists_approval_of_event he
  obtain ⟨hmem, hboard, hchanged⟩ := mem_fetchApprovalEvents.mp hb
  rw [h b hmem (hbid.trans hid) hboard] at hchanged
  cases hchanged

end Poll

section Runs
variable {boardId : Uuid} {s : ApprovalStreamState}

/-- What a change of one approval keeps. -/
structure KeepsApprovals (approvalId : Uuid) (before after : Table Approval) : Prop where
  kept : ∀ a ∈ before, ∃ b ∈ after, b.id = a.id ∧ b.boardId = a.boardId
  others : ∀ a ∈ before, a.id ≠ approvalId → a ∈ after

variable {approvalId : Uuid} {rank : Uuid → Nat}

theorem keepsApprovals_of_createApproval {db t : Db} {now : Time} {board : Uuid} {actor : Actor}
    {payload : ApprovalCreate} (h : createApproval db now board approvalId actor payload = .ok t) :
    KeepsApprovals approvalId db.approvals t.approvals := by
  obtain ⟨_, -, hstore⟩ := createApproval_eq_ok h
  obtain ⟨approvals, links, hinsert, -, rfl⟩ := storeApproval_eq_ok hstore
  have hmem : ∀ a ∈ db.approvals, a ∈ approvals := fun a ha => (Table.mem_insert? hinsert).mpr (.inl ha)
  exact ⟨fun a ha => ⟨a, hmem a ha, rfl, rfl⟩, fun a ha _ => hmem a ha⟩

theorem keepsApprovals_of_updateApproval {db t : Db} {now : Time} {board userId : Uuid}
    {status : Option ApprovalStatus} (h : updateApproval db now board approvalId userId status = .ok t) :
    KeepsApprovals approvalId db.approvals t.approvals := by
  rcases updateApproval_eq_ok h with rfl | ⟨approval, target, -, hget, rfl⟩
  · exact ⟨fun a ha => ⟨a, ha, rfl, rfl⟩, fun a ha _ => ha⟩
  · obtain ⟨hmem, hkey⟩ := Table.get?_eq_some.mp hget
    have hput : ∀ a ∈ db.approvals, a.id ≠ approvalId → a ∈ db.approvals.put (approval.resolve now target) := by
      intro a ha hne
      exact Table.mem_put.mpr (.inl ⟨ha, fun hk => hne (hk.trans hkey)⟩)
    refine ⟨fun a ha => ?_, hput⟩
    by_cases hid : a.id = approvalId
    · obtain rfl := Table.eq_of_key_eq ha hmem (hid.trans hkey.symm)
      have hget' : (db.approvals.get? a.id).isSome := Option.isSome_iff_exists.mpr ⟨a, Table.get?_key ha⟩
      exact ⟨a.resolve now target, Table.mem_put.mpr (.inr ⟨rfl, hget'⟩), rfl, rfl⟩
    · exact ⟨a, hput a ha hid, rfl, rfl⟩

theorem ApprovalStreamInv.touch (h : ApprovalStreamInv boardId s) {db : Db}
    (hkeeps : KeepsApprovals approvalId s.db.approvals db.approvals) :
    ApprovalStreamInv boardId (s.touch approvalId db) where
  shown := h.shown
  kept := by
    intro a ha
    obtain ⟨b, hb, hid, hboard⟩ := h.kept a ha
    obtain ⟨c, hc, hid', hboard'⟩ := hkeeps.kept b hb
    exact ⟨c, hc, hid'.trans hid, hboard'.trans hboard⟩
  untouched := by
    intro a ha hnot
    obtain ⟨hne, hnot'⟩ := not_or.mp (List.mem_cons.not.mp hnot)
    exact hkeeps.others a (h.untouched a ha hnot') hne
  converged hquiet := absurd hquiet Bool.false_ne_true

/-- What a poll leaves as the last status emitted: that of an approval it finds, or the one before. -/
theorem lastShown_poll {a : Approval} (ha : a ∈ s.db.approvals) (hboard : a.boardId = boardId) :
    lastShown (approvalStreamStep boardId s (.poll rank)).stream.out a.id =
      if changedSince s.stream.lastSeen a then some a.status else lastShown s.stream.out a.id := by
  show lastShown (s.stream.takeAll _ _).out a.id = _
  rw [Cursor.takeAll_out, lastShown_append]
  split
  · rename_i hchanged
    rw [lastShown_events_of_changed ha hboard hchanged, Option.some_or]
  · rename_i hchanged
    have hnone : lastShown (approvalEvents s.db boardId s.stream.lastSeen rank) a.id = none := by
      refine lastShown_events_eq_none fun b hb hid _ => ?_
      obtain rfl := Table.eq_of_key_eq hb ha hid
      exact Bool.not_eq_true _ ▸ hchanged
    rw [hnone, Option.none_or]

/-- **A poll converges** exactly when it finds what it has yet to emit. -/
theorem ApprovalStreamInv.converged_poll_iff (h : ApprovalStreamInv boardId s) :
    Converged boardId (approvalStreamStep boardId s (.poll rank)) ↔ Finds boardId s (.poll rank) := by
  constructor
  · intro hconverged a ha hboard htouched
    have hlast := hconverged rfl a ha hboard htouched
    rw [lastShown_poll ha hboard] at hlast
    split at hlast
    · rename_i hchanged
      exact .inl hchanged
    · obtain ⟨b, hb, hid, -, hstatus⟩ := h.shown _ _ hlast
      have hget : s.polled.get? a.id = some b := Table.get?_eq_some.mpr ⟨hb, hid⟩
      exact .inr ⟨hlast ▸ rfl, by rw [hget, Option.map_some, hstatus]⟩
  · intro hfinds _ a ha hboard htouched
    have hmem : a ∈ s.db.approvals := ha
    rw [lastShown_poll hmem hboard]
    split
    · rfl
    · rename_i hchanged
      obtain ⟨hemitted, hthen⟩ := (hfinds a ha hboard htouched).resolve_left hchanged
      obtain ⟨status, hshown⟩ := Option.isSome_iff_exists.mp hemitted
      obtain ⟨b, hb, hid, -, rfl⟩ := h.shown _ _ hshown
      have hget : s.polled.get? a.id = some b := Table.get?_eq_some.mpr ⟨hb, hid⟩
      rw [hget, Option.map_some] at hthen
      rw [hshown, hthen]

theorem ApprovalStreamInv.shown_poll (h : ApprovalStreamInv boardId s) (hfinds : Finds boardId s (.poll rank))
    {status : ApprovalStatus}
    (hshown : lastShown (approvalStreamStep boardId s (.poll rank)).stream.out approvalId = some status) :
    ∃ a ∈ s.db.approvals, a.id = approvalId ∧ a.boardId = boardId ∧ a.status = status := by
  -- an approval that was emitted, now or before, is on the board
  have hfound : ∃ a ∈ s.db.approvals, a.id = approvalId ∧ a.boardId = boardId := by
    have hout : lastShown (s.stream.out ++ approvalEvents s.db boardId s.stream.lastSeen rank) approvalId =
        some status :=
      Cursor.takeAll_out (c := s.stream) ▸ hshown
    rw [lastShown_append] at hout
    rcases Option.or_eq_some_iff.mp hout with hnow | ⟨-, hbefore⟩
    · obtain ⟨e, he, -⟩ := Option.map_eq_some_iff.mp hnow
      obtain ⟨hin, hid⟩ := List.mem_filter.mp (List.mem_of_getLast? he)
      obtain ⟨a, ha, hid', -⟩ := exists_approval_of_event hin
      obtain ⟨hmem, hboard, -⟩ := mem_fetchApprovalEvents.mp ha
      exact ⟨a, hmem, hid'.trans (of_decide_eq_true hid), hboard⟩
    · obtain ⟨b, hb, hid, hboard, -⟩ := h.shown _ _ hbefore
      obtain ⟨a, ha, hid', hboard'⟩ := h.kept b hb
      exact ⟨a, ha, hid'.trans hid, hboard'.trans hboard⟩
  obtain ⟨a, ha, rfl, hboard⟩ := hfound
  refine ⟨a, ha, rfl, hboard, ?_⟩
  by_cases htouched : a.id ∈ s.touched
  · exact Option.some.inj ((h.converged_poll_iff.mpr hfinds rfl a ha hboard htouched).symm.trans hshown)
  · rw [lastShown_poll ha hboard] at hshown
    split at hshown
    · exact Option.some.inj hshown
    · obtain ⟨b, hb, hid, -, rfl⟩ := h.shown _ _ hshown
      have hsame : b ∈ s.db.approvals := h.untouched b hb (hid ▸ htouched)
      rw [Table.eq_of_key_eq ha hsame hid.symm]

/-- **One step** keeps the invariant, where polls find what they have yet to emit. -/
theorem ApprovalStreamInv.step (h : ApprovalStreamInv boardId s) {a : ApprovalStreamAction}
    (hfinds : Finds boardId s a) : ApprovalStreamInv boardId (approvalStreamStep boardId s a) := by
  cases a with
  | create now board approvalId actor payload =>
    unfold approvalStreamStep
    dsimp only
    split
    · rename_i db hcreate
      exact h.touch (keepsApprovals_of_createApproval hcreate)
    · exact h
  | update now board approvalId userId status =>
    unfold approvalStreamStep
    dsimp only
    split
    · rename_i db hupdate
      split
      · exact h.touch (keepsApprovals_of_updateApproval hupdate)
      · exact h
    · exact h
  | poll rank =>
    refine ⟨fun _ _ hshown => h.shown_poll hfinds hshown, fun a ha => ⟨a, ha, rfl, rfl⟩, fun _ ha _ => ha, ?_⟩
    exact h.converged_poll_iff.mpr hfinds

theorem approvalStreamInv_opened (db : Db) (since : Time) : ApprovalStreamInv boardId (.opened db since) where
  shown approvalId status h := absurd h (by simp [lastShown, ApprovalStreamState.opened])
  kept a ha := ⟨a, ha, rfl, rfl⟩
  untouched a ha _ := ha
  converged _ a _ _ h := absurd h List.not_mem_nil

/-- A step converges exactly when it is no poll that misses something. -/
theorem ApprovalStreamInv.converged_step_iff (h : ApprovalStreamInv boardId s) {a : ApprovalStreamAction} :
    Converged boardId (approvalStreamStep boardId s a) ↔ Finds boardId s a := by
  cases a with
  | create now board approvalId actor payload =>
    exact ⟨fun _ => trivial, fun _ => (h.step (a := .create now board approvalId actor payload) trivial).converged⟩
  | update now board approvalId userId status =>
    exact ⟨fun _ => trivial, fun _ => (h.step (a := .update now board approvalId userId status) trivial).converged⟩
  | poll rank => exact h.converged_poll_iff

/-- **A run converges**, after every poll that follows the last change, exactly when each poll finds what it has yet to
emit. -/
theorem converged_iff (boardId : Uuid) (db : Db) (since : Time) (actions : List ApprovalStreamAction) :
    (∀ s ∈ (approvalStreamMachine boardId).committed (.opened db since) actions, Converged boardId s) ↔
      (approvalStreamMachine boardId).Along (Finds boardId) (.opened db since) actions := by
  refine Machine.forall_committed_iff_along (ApprovalStreamInv boardId) (fun s a hs hfinds t ht => ?_)
    (fun s a hs => ?_) (approvalStreamInv_opened db since)
  · obtain rfl := List.mem_singleton.mp ht
    exact hs.step hfinds
  · rw [← hs.converged_step_iff]
    exact ⟨fun ht => ht _ (List.mem_singleton_self _), fun hstep t ht => List.mem_singleton.mp ht ▸ hstep⟩

end Runs

/-- A board of an owner, with an approval that was approved. -/
def approvedDb : Db :=
  { boards := ⟨[{ id := 7, organizationId := 3 }], List.nodup_singleton _⟩
    members := ⟨[{ id := 8, organizationId := 3, userId := 9, role := .owner, allBoardsWrite := true }],
      List.nodup_singleton _⟩
    approvals :=
      ⟨[{ id := 4, boardId := 7, actionType := "deploy", status := .approved, createdAt := 5, resolvedAt := some 12 }],
        List.nodup_singleton _⟩ }

/-- **The client is not told** that the approval is set back to pending while the stream is open. -/
theorem not_converged : ¬ ∀ (boardId : Uuid) (db : Db) (since : Time) (actions : List ApprovalStreamAction),
    ∀ s ∈ (approvalStreamMachine boardId).committed (.opened db since) actions, Converged boardId s := by
  intro h
  have hstale : ∃ s ∈ (approvalStreamMachine 7).committed (.opened approvedDb 20)
      [.update 30 7 4 9 (some .pending), .poll fun _ => 0],
      s.quiet = true ∧ 4 ∈ s.touched ∧ (∃ a ∈ s.db.approvals.rows, a.boardId = 7 ∧ a.id = 4 ∧ a.status = .pending) ∧
        lastShown s.stream.out 4 = none := by
    decide +kernel
  obtain ⟨s, hs, hquiet, htouched, ⟨a, ha, hboard, hid, hstatus⟩, hshown⟩ := hstale
  have hlast := h 7 approvedDb 20 _ s hs hquiet a ha hboard (hid ▸ htouched)
  rw [hid, hshown] at hlast
  cases hlast

end SiloForge
