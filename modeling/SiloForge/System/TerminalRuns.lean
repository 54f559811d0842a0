import SiloForge.System.Commit

/-!
# Runs that have ended

A run that succeeded, failed or was cancelled should stay so. Cancelling, dispatching, retrying, acknowledging
and escalating check the status of the run they find; a report does not, be it a callback or the PATCH of a
run.

* `EndedRunsRest` : the runs that have ended keep their status, and a callback of a cancelled run leaves the
  tasks alone;
* `lateReport` : a report gives a run that has ended another status;
* `endedRunsRest` : requests without late reports let ended runs rest.
-/

namespace SiloForge

open Lib

def Operation.report? (db : Db) : Operation → Option (TaskExecutionRun × ExecutionRunStatus)
  | .callback runId payload => (db.runs.get? runId).map fun run => (run, payload.status)
  | .updateRun _ runId payload =>
    (db.runs.get? runId).bind fun run => payload.status.map fun status => (run, status)
  | _ => none

def lateReport (db : Db) (request : Request) : Bool :=
  (request.op.report? db).any fun (run, status) => run.status.isTerminal && status ≠ run.status

variable {status : ExecutionRunStatus} {runId : Uuid}

theorem ReportsTo.report? {db : Db} {op : Operation} {run : TaskExecutionRun} {board : Board} {task : Task}
    (h : ReportsTo db op run (some status) board task) :
    op.report? db = some (run, status) := by
  generalize hs : some status = reported at h
  cases h with
  | callback hrun htask hboard =>
    obtain rfl := Option.some.inj hs
    simp [Operation.report?, hrun]
  | patch hscope hrun =>
    obtain ⟨hget, -⟩ := findRun_eq_some hrun
    simp [Operation.report?, hget, ← hs]

def HasStatus (db : Db) (runId : Uuid) (status : ExecutionRunStatus) : Prop :=
  (db.runs.get? runId).map (·.status) = some status

instance (db : Db) (runId : Uuid) (status : ExecutionRunStatus) : Decidable (HasStatus db runId status) :=
  inferInstanceAs (Decidable (_ = _))

theorem hasStatus_iff {db : Db} :
    HasStatus db runId status ↔ ∃ run, db.runs.get? runId = some run ∧ run.status = status :=
  Option.map_eq_some_iff

structure EndedRunsRest (env : Env) (db : Db) (requests : List Request) : Prop where
  status : ∀ runId status, HasStatus db runId status → status.isTerminal = true →
    ∀ t ∈ (machine env).committed db requests, HasStatus t runId status
  tasks : (machine env).Along ((machine env).Each fun s request t =>
    ∀ runId payload, request.op = .callback runId payload → HasStatus s runId .cancelled → t.tasks = s.tasks)
    db requests

/-! ## The runs after a write -/

theorem HasStatus.put {db t : Db} {run run' : TaskExecutionRun} (hruns : t.runs = db.runs.put run')
    (hrun : db.runs.get? run.id = some run) (hid : run'.id = run.id)
    (hkeep : run.status = status → run'.status = status) (h : HasStatus db runId status) :
    HasStatus t runId status := by
  obtain ⟨r, hr, hstatus⟩ := hasStatus_iff.mp h
  rw [hasStatus_iff, hruns]
  by_cases hx : runId = key run'
  · have hrunId : run.id = runId := (hx.trans hid).symm
    rw [← hrunId, hrun] at hr
    obtain rfl := Option.some.inj hr
    refine ⟨run', ?_, hkeep hstatus⟩
    rw [Table.get?_put, if_pos hx, ← hrunId, hrun, Option.map_some]
  · exact ⟨r, (Table.get?_put_ne hx).trans hr, hstatus⟩

theorem Commit.keepsEnded {db t : Db} {request : Request} (h : Commit db request t)
    (hlate : lateReport db request = false) (hended : status.isTerminal = true) (hstatus : HasStatus db runId status) :
    HasStatus t runId status := by
  cases h with
  | created | patched | reconciled | deleted | released | logged | approvalCreated | approvalResolved
  | runEscalated => exact hstatus
  | runCreated board task run runs events hboard htask hfound hon hqueued hruns hother =>
    obtain ⟨r, hr, hs⟩ := hasStatus_iff.mp hstatus
    refine hasStatus_iff.mpr ⟨r, ?_, hs⟩
    rw [Table.get?_insert? hruns runId]
    split
    · rename_i hid
      rw [hid, (Table.insert?_eq_some hruns).2] at hr
      cases hr
    · exact hr
  | runReported board task run payload tasks events hreport hrun htasks =>
    refine hstatus.put rfl hrun rfl fun hs => ?_
    show payload.status.getD run.status = status
    generalize hp : payload.status = reported at hreport
    cases reported with
    | none => exact hs
    | some s =>
      rw [lateReport, hreport.report?] at hlate
      simp only [Option.any_some, hs, hended, Bool.true_and, decide_eq_false_iff_not, not_not] at hlate
      exact hlate
  | runCancelled run note events hrun hactive hother =>
    refine hstatus.put rfl hrun rfl fun hs => ?_
    rw [hs, hended] at hactive
    cases hactive
  | runDispatched run texts task acceptance events hrun hdispatchable hother =>
    refine hstatus.put rfl hrun rfl fun hs => ?_
    rw [hs, ExecutionRunStatus.isDispatchable_of_isTerminal hended] at hdispatchable
    cases hdispatchable

theorem Commit.callback_tasks {db t : Db} {request : Request} (h : Commit db request t)
    (hlate : lateReport db request = false) {payload : ExecutionCallbackContract}
    (hop : request.op = .callback runId payload) (hcancelled : HasStatus db runId .cancelled) :
    t.tasks = db.tasks := by
  cases h with
  | created _ _ _ _ _ _ _ _ _ hcreation => rw [hop] at hcreation; cases hcreation
  | patched _ _ _ _ _ _ _ _ _ _ hpatch => rw [hop] at hpatch; cases hpatch
  | reconciled _ _ _ _ _ _ _ _ _ _ hpatch => rw [hop] at hpatch; cases hpatch
  | deleted _ _ _ _ _ _ hdelete => rw [hop] at hdelete; cases hdelete
  | released _ _ hrelease => rw [hop] at hrelease; cases hrelease
  | runEscalated _ _ _ _ _ _ _ _ _ _ hescalate => rw [hop] at hescalate; cases hescalate
  | logged | approvalCreated | approvalResolved | runCreated | runCancelled | runDispatched => rfl
  | runReported board task run payload' tasks events hreport hrun htasks =>
    obtain ⟨run', hget, hstatus⟩ := hasStatus_iff.mp hcancelled
    rw [hop] at hreport
    generalize payload'.status = reported at hreport htasks
    cases hreport with
    | callback hrun' htask hboard =>
      rw [hget] at hrun'
      obtain rfl := Option.some.inj hrun'
      have hsame : payload.status = .cancelled := by
        simpa [lateReport, Operation.report?, hop, hget, hstatus, ExecutionRunStatus.isTerminal] using hlate
      rcases htasks with ⟨-, rfl⟩ | ⟨moved, hmoved, -⟩
      · rfl
      · rw [hsame] at hmoved
        cases hmoved

/-! ## Runs of the system -/

/-- **Ended runs rest** in every run of the system without late reports. -/
theorem endedRunsRest {env : Env} {db : Db} {requests : List Request}
    (h : (machine env).Along (fun s request => lateReport s request = false) db requests) :
    EndedRunsRest env db requests where
  status runId status hstatus hended :=
    Machine.committed_inv (fun s => HasStatus s runId status)
      (fun _ _ hs hlate _ ht => (commit_of_mem ht).keepsEnded hlate hended hs) hstatus h
  tasks := h.mono fun _ _ hlate _ ht _ _ hop hcancelled => (commit_of_mem ht).callback_tasks hlate hop hcancelled

namespace Sample

def running : Db := { db with tasks := ⟨[task], Table.nodup_one task⟩, runs := ⟨[run .dispatching], nodup_run .dispatching⟩ }

def cancelled : Db := (machine env).run running [⟨1, .cancelRun scope 1 none⟩]

end Sample

theorem endedRunsRest_cancelled :
    EndedRunsRest Sample.env Sample.cancelled
      [⟨2, .callback 1 { status := .cancelled }⟩, ⟨3, .retryRun Sample.scope 1 2⟩] :=
  endedRunsRest (by decide)

/-- A late report revives a cancelled run. -/
theorem not_endedRunsRest :
    ¬ ∀ (env : Env) (db : Db) (requests : List Request), EndedRunsRest env db requests := by
  intro h
  have hrest := h Sample.env Sample.cancelled [⟨2, .callback 1 { status := .running }⟩]
  exact absurd (hrest.status 1 .cancelled (by decide) rfl) (by decide)

end SiloForge
