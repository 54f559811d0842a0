import SiloForge.System.Operations

/-!
# Dispatches side by side

A dispatch reads its run, calls the runtime, and stores the answer in the run as it read it. Other requests are
answered in between, and other dispatches of the run read it: the queue delivers a run twice, two workers hold it at
once, or an endpoint dispatches it directly.

* `Dispatch`, `DispatchSystem`, `dispatchMachine` : any number of dispatches, each in three steps, among any requests;
* `dispatches_serial` : dispatches that nothing overlaps are those of `machine`;
* `ReportsKept` : no dispatch has written over a report, and no run was dispatched twice;
* `Unraced` : the steps whose dispatch still finds what it read;
* `reportsKept` : runs of such steps keep the reports.
-/

namespace SiloForge

open Lib

/-! ## A dispatch in three steps -/

/-- The statuses by which the runtime or an operator says what became of a run. -/
def ExecutionRunStatus.isReport : ExecutionRunStatus → Bool
  | running | succeeded | failed | cancelled => true
  | _ => false

theorem ExecutionRunStatus.isDispatchable_of_isReport {status : ExecutionRunStatus} (h : status.isReport = true) :
    status.isDispatchable = false := by
  cases status <;> first | rfl | exact absurd h Bool.false_ne_true

def runStatus (db : Db) (runId : Uuid) : Option ExecutionRunStatus := (db.runs.get? runId).map (·.status)

def awaitsDispatch (db : Db) (runId : Uuid) : Bool := (runStatus db runId).any (·.isDispatchable)

def reportedOn (db : Db) (runId : Uuid) : Bool := (runStatus db runId).any (·.isReport)

/-- A dispatch between its steps: the rows it read, the runtime's answer once it was called, and whether the run was
reported on since the read. -/
structure Dispatch where
  id : Nat
  run : TaskExecutionRun
  task : Task
  acceptance : Option SymphonyDispatchAcceptance := none
  reported : Bool := false

instance : Keyed Dispatch Nat := ⟨Dispatch.id⟩

/-- The row as it is now, with the columns of a dispatched run that are not as they were loaded. -/
def TaskExecutionRun.writtenOver (new loaded current : TaskExecutionRun) : TaskExecutionRun :=
  { current with
    status := writtenColumn loaded.status new.status current.status
    externalRunId := writtenColumn loaded.externalRunId new.externalRunId current.externalRunId
    workspacePath := writtenColumn loaded.workspacePath new.workspacePath current.workspacePath
    branchName := writtenColumn loaded.branchName new.branchName current.branchName
    summary := writtenColumn loaded.summary new.summary current.summary
    startedAt := writtenColumn loaded.startedAt new.startedAt current.startedAt
    resultPayload := writtenColumn loaded.resultPayload new.resultPayload current.resultPayload
    updatedAt := writtenColumn loaded.updatedAt new.updatedAt current.updatedAt }

/-- The last step of a dispatch: the answer goes into the run as it was read; a run that is gone fails the update. -/
def recordDispatch (texts : RunTexts) (db : Db) (now : Time) (d : Dispatch)
    (acceptance : SymphonyDispatchAcceptance) : Except Failure Db := do
  let current ← orFail (db.runs.get? d.run.id) .integrityError
  let run := d.run.dispatched texts d.task now acceptance
  let events ← recordRun texts db.events now .runDispatched run none
  return { db with runs := db.runs.put (run.writtenOver d.run current), events }

variable {texts : RunTexts} {now : Time} {t : DispatchSystem} {id : Nat} {runId : Uuid}

/-- On the row it read, a dispatch stores the answer as `dispatchRun` does. -/
theorem recordDispatch_of_unchanged {db : Db} {d : Dispatch} {acceptance : SymphonyDispatchAcceptance}
    (h : db.runs.get? d.run.id = some d.run) :
    recordDispatch texts db now d acceptance = recordAcceptance texts db now d.run d.task acceptance := by
  have hrow : (d.run.dispatched texts d.task now acceptance).writtenOver d.run d.run =
      d.run.dispatched texts d.task now acceptance := by
    simp only [TaskExecutionRun.writtenOver, writtenColumn_self, TaskExecutionRun.dispatched]
  unfold recordDispatch recordAcceptance
  rw [h]
  show (recordRun texts db.events now .runDispatched _ none).bind _ = (recordRun texts _ _ _ _ _).bind _
  rw [hrow]

/-! ## Dispatches among requests -/

/-- The committed database, the dispatches between their steps, and what has happened: the runs the
runtime was called for since they were last queued or blocked, those whose call was never stored,
and those whose report a dispatch has written over. -/
structure DispatchSystem where
  db : Db
  dispatches : Table Dispatch := ∅
  issued : List Uuid := []
  unrecorded : List Uuid := []
  overwritten : List Uuid := []

inductive DispatchAction where
  | request (request : Request)
  | read (id : Nat) (organizationId boardId taskId runId : Uuid)
  | call (id : Nat) (acceptance : Option SymphonyDispatchAcceptance)
  | record (id : Nat) (now : Time)
  | giveUp (id : Nat)

def Operation.isDispatch : Operation → Bool
  | .dispatchRun .. => true
  | _ => false

namespace DispatchSystem

def queuesAgain (s : DispatchSystem) (db : Db) (runId : Uuid) : Bool :=
  decide (runStatus db runId ≠ runStatus s.db runId) && awaitsDispatch db runId

def commit (s : DispatchSystem) (db : Db) : DispatchSystem :=
  { s with
    db
    dispatches := s.dispatches.updateWhere (fun d => reportedOn db d.run.id) (fun d => { d with reported := true })
      fun _ _ => rfl
    issued := s.issued.filter fun runId => !s.queuesAgain db runId
    unrecorded := s.unrecorded.filter fun runId => !s.queuesAgain db runId }

def commitAll (s : DispatchSystem) : List Db → List DispatchSystem
  | [] => []
  | db :: dbs => s.commit db :: (s.commit db).commitAll dbs

def close (s : DispatchSystem) (d : Dispatch) : DispatchSystem :=
  { s with dispatches := s.dispatches.deleteWhere fun d' => d'.id = d.id }

def drop (s : DispatchSystem) (d : Dispatch) : DispatchSystem :=
  { s.close d with unrecorded := if d.acceptance.isSome then d.run.id :: s.unrecorded else s.unrecorded }

def called (s : DispatchSystem) (d : Dispatch) : Option SymphonyDispatchAcceptance → DispatchSystem
  | some acceptance =>
    { s with
      dispatches := s.dispatches.put { d with acceptance := some acceptance }
      issued := d.run.id :: s.issued }
  | none => { s.close d with issued := d.run.id :: s.issued, unrecorded := d.run.id :: s.unrecorded }

def recorded (s : DispatchSystem) (d : Dispatch) (db : Db) : DispatchSystem :=
  { s.close d with db, overwritten := if d.reported then d.run.id :: s.overwritten else s.overwritten }

def readRun (s : DispatchSystem) (id : Nat) (run : TaskExecutionRun) (task : Task) : Option DispatchSystem :=
  if run.status.isDispatchable then
    (s.dispatches.insert? { id, run, task }).map fun dispatches => { s with dispatches }
  else none

def step (env : Env) (s : DispatchSystem) : DispatchAction → List DispatchSystem
  | .request request => if request.op.isDispatch then [] else s.commitAll (respond env s.db request).commits
  | .read id organizationId boardId taskId runId =>
    ((dispatchTarget s.db organizationId boardId taskId runId).bind fun (run, task) => s.readRun id run task).toList
  | .call id acceptance =>
    ((s.dispatches.get? id).bind fun d => if d.acceptance.isNone then some (s.called d acceptance) else none).toList
  | .record id now =>
    ((s.dispatches.get? id).bind fun d => d.acceptance.map fun acceptance =>
      match recordDispatch env.runTexts s.db now d acceptance with
      | .ok db => s.recorded d db
      | .error _ => s.drop d).toList
  | .giveUp id => ((s.dispatches.get? id).map s.drop).toList

end DispatchSystem

def dispatchMachine (env : Env) : Machine DispatchSystem DispatchAction where
  commits s action := s.step env action

theorem next_dispatch {env : Env} {s : DispatchSystem} {action : DispatchAction} (h : s.step env action = [t]) :
    (dispatchMachine env).next s action = t :=
  Machine.next_of_commits_eq_singleton _ h

variable {env : Env} {s : DispatchSystem} {d : Dispatch}

theorem step_read_of_target {organizationId boardId taskId : Uuid} {run : TaskExecutionRun} {task : Task}
    (htarget : dispatchTarget s.db organizationId boardId taskId runId = some (run, task)) :
    s.step env (.read id organizationId boardId taskId runId) = (s.readRun id run task).toList := by
  show (Option.bind _ _).toList = _
  rw [htarget, Option.bind_some]

theorem step_call_of_get? {acceptance : Option SymphonyDispatchAcceptance} (hget : s.dispatches.get? id = some d)
    (hnone : d.acceptance = none) :
    s.step env (.call id acceptance) = [s.called d acceptance] := by
  show (Option.bind _ _).toList = _
  rw [hget, Option.bind_some, hnone]
  rfl

theorem step_record_of_get? {acceptance : SymphonyDispatchAcceptance} (hget : s.dispatches.get? id = some d)
    (hsome : d.acceptance = some acceptance) :
    s.step env (.record id now) =
      [match recordDispatch env.runTexts s.db now d acceptance with
        | .ok db => s.recorded d db
        | .error _ => s.drop d] := by
  show (Option.bind _ _).toList = _
  rw [hget, Option.bind_some, hsome]
  rfl

/-! ## Dispatches that do not overlap -/

def wholeDispatch (request : Request) : List DispatchAction :=
  match request.op with
  | .dispatchRun organizationId boardId taskId runId answer =>
    [.read 0 organizationId boardId taskId runId, .call 0 answer.toOption, .record 0 request.now]
  | _ => [.request request]

theorem commitAll_getLastD (hnone : s.dispatches = ∅) (dbs : List Db) :
    ((s.commitAll dbs).getLastD s).db = dbs.getLastD s.db ∧ ((s.commitAll dbs).getLastD s).dispatches = ∅ := by
  induction dbs generalizing s with
  | nil => exact ⟨rfl, hnone⟩
  | cons db dbs ih =>
    have hcommit : (s.commit db).dispatches = ∅ := by rw [DispatchSystem.commit, hnone]; rfl
    rw [DispatchSystem.commitAll, List.getLastD_cons, List.getLastD_cons]
    exact ih hcommit

theorem run_of_none (hnone : s.dispatches = ∅) (acceptance : Option SymphonyDispatchAcceptance) :
    (dispatchMachine env).run s [.call 0 acceptance, .record 0 now] = s := by
  have hget : s.dispatches.get? 0 = none := by rw [hnone]; rfl
  have hcall : s.step env (.call 0 acceptance) = [] := by rw [DispatchSystem.step, hget]; rfl
  have hrecord : s.step env (.record 0 now) = [] := by rw [DispatchSystem.step, hget]; rfl
  rw [Machine.run_cons, Machine.next_of_commits_eq_nil _ hcall, Machine.run_cons,
    Machine.next_of_commits_eq_nil _ hrecord]
  rfl

theorem next_machine_dispatchRun {db : Db} {organizationId boardId taskId : Uuid}
    {answer : Except Failure SymphonyDispatchAcceptance} :
    (machine env).next db ⟨now, .dispatchRun organizationId boardId taskId runId answer⟩ =
      ((dispatchRun env.runTexts db now organizationId boardId taskId runId answer).toOption.getD []).getLastD db := by
  show (Response.ofExcept (dispatchRun _ _ _ _ _ _ _ _)).commits.getLastD db = _
  cases dispatchRun env.runTexts db now organizationId boardId taskId runId answer <;> rfl

theorem dispatches_close {d' : Dispatch} (hid : d'.id = d.id) (h : s.dispatches.rows = [d']) :
    (s.close d).dispatches = ∅ :=
  Table.ext_rows (by simp [DispatchSystem.close, Table.deleteWhere, h, hid])

theorem run_wholeDispatch (hnone : s.dispatches = ∅) (organizationId boardId taskId runId : Uuid)
    (answer : Except Failure SymphonyDispatchAcceptance) :
    let t := (dispatchMachine env).run s
      [.read 0 organizationId boardId taskId runId, .call 0 answer.toOption, .record 0 now]
    t.db = (machine env).next s.db ⟨now, .dispatchRun organizationId boardId taskId runId answer⟩ ∧ t.dispatches = ∅ := by
  intro t
  have hunread : s.step env (.read 0 organizationId boardId taskId runId) = [] →
      t = s := fun h => by
    show (dispatchMachine env).run s _ = s
    rw [Machine.run_cons, Machine.next_of_commits_eq_nil _ h]
    exact run_of_none hnone _
  rw [next_machine_dispatchRun, dispatchRun]
  cases htarget : dispatchTarget s.db organizationId boardId taskId runId with
  | none =>
    rw [hunread (by rw [DispatchSystem.step, htarget]; rfl)]
    exact ⟨rfl, hnone⟩
  | some target =>
    obtain ⟨run, task⟩ := target
    by_cases hdispatchable : run.status.isDispatchable = true
    swap
    · rw [hunread (by rw [step_read_of_target htarget, DispatchSystem.readRun, if_neg hdispatchable]; rfl)]
      refine ⟨?_, hnone⟩
      show s.db = (Option.getD (Except.toOption (if _ then _ else _)) []).getLastD _
      rw [if_neg hdispatchable]
      rfl
    let read : Dispatch := { id := 0, run, task }
    let s₁ : DispatchSystem := { s with dispatches := ⟨[read], List.nodup_singleton _⟩ }
    have hread : s.step env (.read 0 organizationId boardId taskId runId) = [s₁] := by
      have hinsert : s.dispatches.insert? read = some ⟨[read], List.nodup_singleton _⟩ := by rw [hnone]; rfl
      rw [step_read_of_target htarget, DispatchSystem.readRun, if_pos hdispatchable, hinsert]
      rfl
    have hget : s₁.dispatches.get? 0 = some read := Table.get?_eq_some.mpr ⟨List.mem_singleton.mpr rfl, rfl⟩
    have hrun : t = (dispatchMachine env).run s₁ [.call 0 answer.toOption, .record 0 now] := by
      show (dispatchMachine env).run s _ = _
      rw [Machine.run_cons, next_dispatch hread]
    have hcall : s₁.step env (.call 0 answer.toOption) = [s₁.called read answer.toOption] := step_call_of_get? hget rfl
    show t.db = (Option.getD (Except.toOption (if _ then _ else _)) []).getLastD s.db ∧ _
    rw [hrun, if_pos hdispatchable, Machine.run_cons, next_dispatch hcall, Machine.run_cons, Machine.run_nil]
    cases answer with
    | error e =>
      have hrows : s₁.dispatches.rows = [read] := rfl
      have hclosed : (s₁.called read none).dispatches = ∅ := dispatches_close rfl hrows
      have hrecord : (s₁.called read none).step env (.record 0 now) = [] := by
        rw [DispatchSystem.step, hclosed]
        rfl
      show ((dispatchMachine env).next (s₁.called read none) _).db = s.db ∧ _
      rw [Machine.next_of_commits_eq_nil _ hrecord]
      exact ⟨rfl, hclosed⟩
    | ok acceptance =>
      let accepted : Dispatch := { read with acceptance := some acceptance }
      let s₂ : DispatchSystem := s₁.called read (some acceptance)
      have hget' : s₂.dispatches.get? 0 = some accepted := Table.get?_put_self (r := accepted) hget
      have hrows : s₂.dispatches.rows = [accepted] := rfl
      -- the run is as it was read
      obtain ⟨hfound, hid, -⟩ := findRun_eq_some (dispatchTarget_eq_some htarget)
      have hsame : recordDispatch env.runTexts s₂.db now accepted acceptance =
          recordAcceptance env.runTexts s.db now run task acceptance :=
        recordDispatch_of_unchanged (d := accepted) (hid ▸ hfound)
      have hrecord : s₂.step env (.record 0 now) = [match recordAcceptance env.runTexts s.db now run task acceptance with
          | .ok db => s₂.recorded accepted db
          | .error _ => s₂.drop accepted] := by
        rw [← hsame]
        exact step_record_of_get? hget' rfl
      show ((dispatchMachine env).next s₂ (.record 0 now)).db = (Option.getD (Except.toOption
          (recordAcceptance env.runTexts s.db now run task acceptance >>= fun db => .ok [db])) []).getLastD s.db ∧
        ((dispatchMachine env).next s₂ (.record 0 now)).dispatches = ∅
      rw [next_dispatch hrecord]
      cases recordAcceptance env.runTexts s.db now run task acceptance with
      | error e => exact ⟨rfl, dispatches_close rfl hrows⟩
      | ok db => exact ⟨rfl, dispatches_close rfl hrows⟩

/-- **Dispatches that do not overlap** with requests are those of `machine`. -/
theorem dispatches_serial (env : Env) (db : Db) (requests : List Request) :
    ((dispatchMachine env).run { db } ((dispatchMachine env).serial (fun _ => wholeDispatch) { db } requests)).db =
      (machine env).run db requests := by
  refine (Machine.run_serial (fun (s : DispatchSystem) db => s.db = db ∧ s.dispatches = ∅) ?_ ⟨rfl, rfl⟩ requests).1
  rintro s _ ⟨now, op⟩ ⟨rfl, hnone⟩
  cases op with
  | dispatchRun organizationId boardId taskId runId answer =>
    exact run_wholeDispatch hnone organizationId boardId taskId runId answer
  | _ => exact commitAll_getLastD hnone _

/-! ## What a commit does to the statuses -/

theorem awaitsDispatch_eq_true {db : Db} :
    awaitsDispatch db runId = true ↔ ∃ status, runStatus db runId = some status ∧ status.isDispatchable = true := by
  unfold awaitsDispatch
  cases runStatus db runId with
  | none => simp
  | some status => simp

theorem not_awaitsDispatch_of_reportedOn {db : Db} (h : reportedOn db runId = true) :
    awaitsDispatch db runId = false := by
  unfold reportedOn at h
  unfold awaitsDispatch
  cases hstatus : runStatus db runId with
  | none => rfl
  | some status =>
    rw [hstatus] at h
    exact ExecutionRunStatus.isDispatchable_of_isReport h

theorem awaitsDispatch_recordDispatch {db t : Db} {acceptance : SymphonyDispatchAcceptance}
    (hread : d.run.status.isDispatchable = true) (h : recordDispatch texts db now d acceptance = .ok t)
    (hawaits : awaitsDispatch t runId = true) :
    awaitsDispatch db runId = true ∧ runId ≠ d.run.id := by
  simp only [recordDispatch, bind_eq_ok, orFail_eq_ok, pure_eq_ok] at h
  obtain ⟨current, hcurrent, events, -, rfl⟩ := h
  have hkey : current.id = d.run.id := Table.key_of_get? hcurrent
  have hne : runId ≠ d.run.id := by
    rintro rfl
    have hwritten : (d.run.dispatched texts d.task now acceptance).status ≠ d.run.status := by
      intro hsame
      rw [← hsame] at hread
      cases hread
    obtain ⟨status, hstatus, hdispatchable⟩ := awaitsDispatch_eq_true.mp hawaits
    obtain ⟨run, hrun, rfl⟩ := Option.map_eq_some_iff.mp hstatus
    have hstored : db.runs.get? (key ((d.run.dispatched texts d.task now acceptance).writtenOver d.run current)) =
        some current := (hkey.symm ▸ hcurrent : db.runs.get? current.id = some current)
    have hput := Table.get?_put_self hstored
    obtain rfl := Option.some.inj (hput.symm.trans ((congrArg _ hkey).trans hrun))
    rw [show (TaskExecutionRun.writtenOver _ d.run current).status = .dispatching from writtenColumn_of_ne hwritten _]
      at hdispatchable
    cases hdispatchable
  refine ⟨?_, hne⟩
  rw [← hawaits]
  unfold awaitsDispatch runStatus
  rw [Table.get?_put_ne (hkey ▸ hne : runId ≠ current.id)]

/-! ## The invariant -/

/-- No dispatch has written over a report, and the runtime was called once at most for each run since it was last
queued or blocked. -/
structure ReportsKept (s : DispatchSystem) : Prop where
  kept : s.overwritten = []
  once : s.issued.Nodup

/-- A dispatch has the runtime's answer, and has not stored it yet. -/
def DispatchSystem.HasAnswer (s : DispatchSystem) (runId : Uuid) : Prop :=
  ∃ d ∈ s.dispatches, d.run.id = runId ∧ d.acceptance.isSome = true

/-- What the dispatches between their steps rely on: a run reported on since it was read is neither queued nor
blocked, and one that still is after a call has its answer on the way, or lost it. -/
structure DispatchesFit (s : DispatchSystem) : Prop where
  read : ∀ d ∈ s.dispatches, d.run.status.isDispatchable = true
  stale : ∀ d ∈ s.dispatches, d.reported = true → awaitsDispatch s.db d.run.id = false
  answered : ∀ runId ∈ s.issued, awaitsDispatch s.db runId = true → runId ∈ s.unrecorded ∨ s.HasAnswer runId

/-- None of the databases committed has a run of a dispatch queued or blocked anew. -/
def DispatchSystem.KeepsOut (s : DispatchSystem) : List Db → Prop
  | [] => True
  | db :: dbs => (∀ d ∈ s.dispatches, s.queuesAgain db d.run.id = false) ∧ (s.commit db).KeepsOut dbs

/-- A step that finds what its dispatch relies on: the runtime is called for a run that is queued or
blocked still and is called for by nobody else, the answer is stored where the run has the status
that was read, and no request queues or blocks a run anew while a dispatch of it is under way. -/
def Unraced (env : Env) (s : DispatchSystem) : DispatchAction → Prop
  | .request request => s.KeepsOut (respond env s.db request).commits
  | .call id _ => ∀ d, s.dispatches.get? id = some d → awaitsDispatch s.db d.run.id = true ∧
    d.run.id ∉ s.unrecorded ∧ ∀ d' ∈ s.dispatches, d'.run.id = d.run.id → d'.acceptance = none
  | .record id _ => ∀ d, s.dispatches.get? id = some d → runStatus s.db d.run.id = some d.run.status
  | _ => True

/-! ## Requests -/

theorem mem_commit {s : DispatchSystem} {db : Db} {d : Dispatch} : d ∈ (s.commit db).dispatches ↔
    ∃ d' ∈ s.dispatches, (if reportedOn db d'.run.id then { d' with reported := true } else d') = d :=
  List.mem_map

theorem keepsOut_of_idle {s : DispatchSystem} {dbs : List Db} (h : ∀ d, d ∉ s.dispatches) : s.KeepsOut dbs := by
  induction dbs generalizing s with
  | nil => trivial
  | cons db dbs ih =>
    refine ⟨fun d hd => absurd hd (h d), ih fun d hd => ?_⟩
    obtain ⟨d', hd', -⟩ := mem_commit.mp hd
    exact h d' hd'

theorem DispatchesFit.commit (h : DispatchesFit s) {db : Db}
    (hout : ∀ d ∈ s.dispatches, s.queuesAgain db d.run.id = false) : DispatchesFit (s.commit db) := by
  constructor
  · intro d hd
    obtain ⟨d', hd', rfl⟩ := mem_commit.mp hd
    split <;> exact h.read d' hd'
  · intro d hd hreported
    obtain ⟨d', hd', rfl⟩ := mem_commit.mp hd
    by_cases hnow : reportedOn db d'.run.id = true
    · rw [if_pos hnow]
      exact not_awaitsDispatch_of_reportedOn hnow
    · rw [if_neg hnow] at hreported ⊢
      -- it was reported on before, and its status may only have changed to one no dispatch starts from
      have hbefore := h.stale d' hd' hreported
      by_contra hawaits
      have hawaits' : awaitsDispatch db d'.run.id = true := Bool.not_eq_false _ ▸ hawaits
      have hsame := hout d' hd'
      rw [DispatchSystem.queuesAgain, hawaits', Bool.and_true, decide_eq_false_iff_not, not_not] at hsame
      unfold awaitsDispatch at hbefore hawaits'
      rw [← hsame, hawaits'] at hbefore
      cases hbefore
  · intro runId hissued hawaits
    obtain ⟨hissued, hagain⟩ := List.mem_filter.mp hissued
    have hawaits' : awaitsDispatch db runId = true := hawaits
    have hsame : runStatus db runId = runStatus s.db runId := by
      rw [DispatchSystem.queuesAgain, hawaits', Bool.and_true, Bool.not_eq_true', decide_eq_false_iff_not, not_not]
        at hagain
      exact hagain
    have hbefore : awaitsDispatch s.db runId = true := by
      unfold awaitsDispatch at hawaits' ⊢
      rwa [← hsame]
    rcases h.answered runId hissued hbefore with hlost | ⟨d, hd, hid, hsome⟩
    · exact .inl (List.mem_filter.mpr ⟨hlost, by rw [DispatchSystem.queuesAgain, hsame]; simp⟩)
    · refine .inr ⟨_, mem_commit.mpr ⟨d, hd, rfl⟩, ?_⟩
      split <;> exact ⟨hid, hsome⟩

theorem ReportsKept.commit (h : ReportsKept s) (db : Db) : ReportsKept (s.commit db) :=
  ⟨h.kept, h.once.filter _⟩

theorem commitAll_inv {dbs : List Db} (hkept : ReportsKept s) (hfit : DispatchesFit s) (hout : s.KeepsOut dbs) :
    ∀ t ∈ s.commitAll dbs, ReportsKept t ∧ DispatchesFit t := by
  induction dbs generalizing s with
  | nil => exact fun t ht => absurd ht List.not_mem_nil
  | cons db dbs ih =>
    intro t ht
    rcases List.mem_cons.mp ht with rfl | ht
    · exact ⟨hkept.commit db, hfit.commit hout.1⟩
    · exact ih (hkept.commit db) (hfit.commit hout.1) hout.2 t ht

/-! ## Steps of a dispatch -/

theorem mem_close {d' : Dispatch} : d' ∈ (s.close d).dispatches ↔ d' ∈ s.dispatches ∧ d'.id ≠ d.id := by
  rw [show (s.close d).dispatches = s.dispatches.deleteWhere _ from rfl, Table.mem_deleteWhere, decide_eq_false_iff_not]

theorem DispatchSystem.HasAnswer.close (h : s.HasAnswer runId) (hd : d ∈ s.dispatches) (hne : runId ≠ d.run.id) :
    (s.close d).HasAnswer runId := by
  obtain ⟨d', hd', rfl, hsome⟩ := h
  refine ⟨d', mem_close.mpr ⟨hd', fun hid => hne ?_⟩, rfl, hsome⟩
  rw [Table.eq_of_key_eq hd' hd hid]

theorem readRun_eq_some {run : TaskExecutionRun} {task : Task} (h : s.readRun id run task = some t) :
    run.status.isDispatchable = true ∧
      ∃ dispatches, s.dispatches.insert? { id, run, task } = some dispatches ∧ t = { s with dispatches } := by
  unfold DispatchSystem.readRun at h
  split at h
  · rename_i hdispatchable
    obtain ⟨dispatches, hinsert, rfl⟩ := Option.map_eq_some_iff.mp h
    exact ⟨hdispatchable, dispatches, hinsert, rfl⟩
  · cases h

theorem ReportsKept.readRun (h : ReportsKept s) {run : TaskExecutionRun} {task : Task}
    (ht : s.readRun id run task = some t) : ReportsKept t := by
  obtain ⟨-, dispatches, -, rfl⟩ := readRun_eq_some ht
  exact ⟨h.kept, h.once⟩

theorem DispatchesFit.readRun (h : DispatchesFit s) {run : TaskExecutionRun} {task : Task}
    (ht : s.readRun id run task = some t) : DispatchesFit t := by
  obtain ⟨hdispatchable, dispatches, hinsert, rfl⟩ := readRun_eq_some ht
  constructor
  · intro d hd
    rcases (Table.mem_insert? hinsert).mp hd with hd | rfl
    · exact h.read d hd
    · exact hdispatchable
  · intro d hd hreported
    rcases (Table.mem_insert? hinsert).mp hd with hd | rfl
    · exact h.stale d hd hreported
    · cases hreported
  · intro runId hissued hawaits
    refine (h.answered runId hissued hawaits).imp_right ?_
    rintro ⟨d, hd, hanswer⟩
    exact ⟨d, (Table.mem_insert? hinsert).mpr (.inl hd), hanswer⟩

theorem DispatchesFit.called (h : DispatchesFit s) (hd : d ∈ s.dispatches)
    (acceptance : Option SymphonyDispatchAcceptance) : DispatchesFit (s.called d acceptance) := by
  cases acceptance with
  | none =>
    refine ⟨fun d' hd' => h.read d' (mem_close.mp hd').1, fun d' hd' => h.stale d' (mem_close.mp hd').1, ?_⟩
    intro runId hissued hawaits
    by_cases hsame : runId = d.run.id
    · exact .inl (List.mem_cons.mpr (.inl hsame))
    · rcases h.answered runId ((List.mem_cons.mp hissued).resolve_left hsame) hawaits with hlost | hanswer
      · exact .inl (List.mem_cons_of_mem _ hlost)
      · exact .inr (hanswer.close hd hsame)
  | some acceptance =>
    have hsome : (s.dispatches.get? d.id).isSome = true := Option.isSome_of_eq_some (Table.get?_key hd)
    have hcases : ∀ d' ∈ (s.called d (some acceptance)).dispatches,
        d' ∈ s.dispatches ∨ d' = { d with acceptance := some acceptance } :=
      fun d' hd' => (Table.mem_put.mp hd').imp And.left And.left
    constructor
    · intro d' hd'
      rcases hcases d' hd' with hold | rfl
      · exact h.read d' hold
      · exact h.read d hd
    · intro d' hd' hreported
      rcases hcases d' hd' with hold | rfl
      · exact h.stale d' hold hreported
      · exact h.stale d hd hreported
    · intro runId hissued hawaits
      by_cases hsame : runId = d.run.id
      · exact .inr ⟨_, Table.mem_put.mpr (.inr ⟨rfl, hsome⟩), hsame.symm, rfl⟩
      · rcases h.answered runId ((List.mem_cons.mp hissued).resolve_left hsame) hawaits with
          hlost | ⟨d', hd', hid, hanswer⟩
        · exact .inl hlost
        · refine .inr ⟨d', Table.mem_put.mpr (.inl ⟨hd', fun hkey => hsame ?_⟩), hid, hanswer⟩
          rw [← hid, Table.eq_of_key_eq hd' hd hkey]

theorem DispatchesFit.drop (h : DispatchesFit s) (hd : d ∈ s.dispatches) : DispatchesFit (s.drop d) := by
  refine ⟨fun d' hd' => h.read d' (mem_close.mp hd').1, fun d' hd' => h.stale d' (mem_close.mp hd').1, ?_⟩
  intro runId hissued hawaits
  rcases h.answered runId hissued hawaits with hlost | ⟨d', hd', hid, hanswer⟩
  · left
    show runId ∈ ite _ _ _
    split
    · exact List.mem_cons_of_mem _ hlost
    · exact hlost
  · by_cases hsame : d'.id = d.id
    · obtain rfl := Table.eq_of_key_eq hd' hd hsame
      left
      show runId ∈ ite _ _ _
      rw [if_pos hanswer]
      exact List.mem_cons.mpr (.inl hid.symm)
    · exact .inr ⟨d', mem_close.mpr ⟨hd', hsame⟩, hid, hanswer⟩

theorem DispatchesFit.recorded (h : DispatchesFit s) (hd : d ∈ s.dispatches) {db : Db}
    {acceptance : SymphonyDispatchAcceptance} (hok : recordDispatch texts s.db now d acceptance = .ok db) :
    DispatchesFit (s.recorded d db) := by
  have hafter : ∀ {runId}, awaitsDispatch db runId = true → awaitsDispatch s.db runId = true ∧ runId ≠ d.run.id :=
    awaitsDispatch_recordDispatch (h.read d hd) hok
  refine ⟨fun d' hd' => h.read d' (mem_close.mp hd').1, ?_, ?_⟩
  · intro d' hd' hreported
    have hbefore := h.stale d' (mem_close.mp hd').1 hreported
    refine Bool.eq_false_iff.mpr fun hawaits => ?_
    rw [(hafter hawaits).1] at hbefore
    cases hbefore
  · intro runId hissued hawaits
    obtain ⟨hbefore, hne⟩ := hafter hawaits
    exact (h.answered runId hissued hbefore).imp_right fun hanswer => hanswer.close hd hne

/-! ## Every run of steps -/

/-- **One step** that finds what its dispatch relies on keeps the reports. -/
theorem unraced_step (hkept : ReportsKept s) (hfit : DispatchesFit s) {action : DispatchAction}
    (hunraced : Unraced env s action) : ∀ t ∈ s.step env action, ReportsKept t ∧ DispatchesFit t := by
  intro t ht
  cases action with
  | request request =>
    have ht : t ∈ if request.op.isDispatch then [] else s.commitAll (respond env s.db request).commits := ht
    split at ht
    · exact absurd ht List.not_mem_nil
    · exact commitAll_inv hkept hfit hunraced t ht
  | read id organizationId boardId taskId runId =>
    obtain ⟨⟨run, task⟩, -, hread⟩ := Option.bind_eq_some_iff.mp (Option.mem_toList.mp ht)
    have hread : s.readRun id run task = some t := hread
    exact ⟨hkept.readRun hread, hfit.readRun hread⟩
  | call id acceptance =>
    obtain ⟨d, hget, hcall⟩ := Option.bind_eq_some_iff.mp (Option.mem_toList.mp ht)
    split at hcall
    swap
    · cases hcall
    obtain rfl := Option.some.inj hcall
    have hd := Table.mem_of_get? hget
    obtain ⟨hawaits, hrecorded, hothers⟩ := hunraced d hget
    -- no call was made for the run: its answer would be on the way, or lost
    have hnew : d.run.id ∉ s.issued := by
      intro hissued
      rcases hfit.answered d.run.id hissued hawaits with hlost | ⟨d', hd', hid, hanswer⟩
      · exact hrecorded hlost
      · rw [hothers d' hd' hid] at hanswer
        cases hanswer
    refine ⟨?_, hfit.called hd acceptance⟩
    cases acceptance with
    | none => exact ⟨hkept.kept, hkept.once.cons hnew⟩
    | some acceptance => exact ⟨hkept.kept, hkept.once.cons hnew⟩
  | record id now =>
    obtain ⟨d, hget, hrecord⟩ := Option.bind_eq_some_iff.mp (Option.mem_toList.mp ht)
    obtain ⟨acceptance, -, rfl⟩ := Option.map_eq_some_iff.mp hrecord
    have hd := Table.mem_of_get? hget
    split
    · rename_i db hok
      refine ⟨⟨?_, hkept.once⟩, hfit.recorded hd hok⟩
      -- the run still has the status that was read, so it was not reported on
      have hawaits : awaitsDispatch s.db d.run.id = true :=
        awaitsDispatch_eq_true.mpr ⟨d.run.status, hunraced d hget, hfit.read d hd⟩
      have hquiet : ¬ d.reported = true := by
        intro hreported
        rw [hfit.stale d hd hreported] at hawaits
        cases hawaits
      show ite _ _ _ = []
      rw [if_neg hquiet]
      exact hkept.kept
    · exact ⟨⟨hkept.kept, hkept.once⟩, hfit.drop hd⟩
  | giveUp id =>
    obtain ⟨d, hget, rfl⟩ := Option.map_eq_some_iff.mp (Option.mem_toList.mp ht)
    exact ⟨⟨hkept.kept, hkept.once⟩, hfit.drop (Table.mem_of_get? hget)⟩

/-- **Reports are kept** in every run of steps that find what their dispatch relies on. -/
theorem reportsKept {env : Env} {db : Db} {actions : List DispatchAction}
    (h : (dispatchMachine env).Along (Unraced env) { db } actions) :
    ∀ t ∈ (dispatchMachine env).committed { db } actions, ReportsKept t := by
  have hstart : ReportsKept { db } ∧ DispatchesFit { db } :=
    ⟨⟨rfl, List.nodup_nil⟩, fun d hd => absurd hd (Table.not_mem_empty d),
      fun d hd => absurd hd (Table.not_mem_empty d), fun runId hissued => absurd hissued List.not_mem_nil⟩
  intro t ht
  exact (Machine.committed_inv (fun s => ReportsKept s ∧ DispatchesFit s)
    (fun s action hs hunraced => unraced_step hs.1 hs.2 hunraced) hstart h t ht).1

namespace Sample

def queued : Db := { db with tasks := ⟨[task], Table.nodup_one task⟩, runs := ⟨[run .queued], nodup_run .queued⟩ }

def acceptance : SymphonyDispatchAcceptance :=
  { externalRunId := "ext-1", workspacePath := "~/symphony", branchName := "build", summary := "Accepted.", dump := .null }

def reportFirst : List DispatchAction :=
  [.read 1 1 1 1 1, .call 1 (some acceptance),
    .request { now := 1, op := .callback 1 { status := .running } }, .record 1 2]

def reportAfter : List DispatchAction :=
  [.read 1 1 1 1 1, .call 1 (some acceptance), .record 1 1,
    .request { now := 2, op := .callback 1 { status := .running } }]

def deliveredTwice : List DispatchAction :=
  [.read 1 1 1 1 1, .read 2 1 1 1 1, .call 1 (some acceptance), .call 2 (some acceptance)]

end Sample

/-- The runtime reports on the run once its dispatch is recorded. -/
theorem reportsKept_recorded : ((dispatchMachine Sample.env).committed { db := Sample.queued }
    Sample.reportAfter).Forall ReportsKept := by
  refine List.forall_iff_forall_mem.mpr (reportsKept ⟨trivial, ?_, ?_, ?_, trivial⟩)
  · intro d hget
    obtain rfl : ({ id := 1, run := Sample.run .queued, task := Sample.task } : Dispatch) = d := Option.some.inj hget
    refine ⟨by decide, List.not_mem_nil, fun d' hd' _ => ?_⟩
    obtain rfl := List.mem_singleton.mp hd'
    rfl
  · intro d hget
    obtain rfl := Option.some.inj hget
    decide
  · exact keepsOut_of_idle fun d hd => absurd hd List.not_mem_nil

/-- A dispatch sets a running run back, and two dispatches of one run both call the runtime. -/
theorem not_reportsKept :
    (¬ ∀ (env : Env) (db : Db) (actions : List DispatchAction), ∀ t ∈ (dispatchMachine env).committed { db } actions,
        t.overwritten = []) ∧
      ¬ ∀ (env : Env) (db : Db) (actions : List DispatchAction), ∀ t ∈ (dispatchMachine env).committed { db } actions,
        t.issued.Nodup := by
  constructor
  · intro h
    have hlost : ∃ t ∈ (dispatchMachine Sample.env).committed { db := Sample.queued } Sample.reportFirst,
        t.overwritten ≠ [] := by decide
    obtain ⟨t, ht, hne⟩ := hlost
    exact hne (h _ _ _ t ht)
  · intro h
    have htwice : ∃ t ∈ (dispatchMachine Sample.env).committed { db := Sample.queued } Sample.deliveredTwice,
        ¬ t.issued.Nodup := by decide
    obtain ⟨t, ht, hne⟩ := htwice
    exact hne (h _ _ _ t ht)

end SiloForge
