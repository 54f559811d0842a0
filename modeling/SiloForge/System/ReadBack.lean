import SiloForge.Runs.Reading
import SiloForge.System.Commit

/-!
# Stored runs can be read again

A run's result payload is checked when an activity row about it is written, not when it is stored. A report with a
status writes such a row before it is committed; the PATCH of a run without one does not.

* `ReadsBack` : the runs of a state can be listed, read, updated, acknowledged and escalated, unless something else
  stands in the way;
* `StoresUnchecked` : the request stores a payload that does not fit without checking it;
* `readsBack` : without such requests every state reads back.
-/

namespace SiloForge

open Lib

def PayloadsFit (db : Db) : Prop := ∀ run ∈ db.runs, PayloadFits run.resultPayload

/-- The approval of an escalation can be stored. -/
def CanEscalate (db : Db) (now : Time) (board : Board) (task : Task) (run : TaskExecutionRun) (silo : Silo)
    (approvalId : Uuid) (note : Option String) : Prop :=
  pendingApprovalConflicts db board.id [task.id] none = [] ∧
    ∃ stored, storeApproval db (escalationApproval now board.id task.id approvalId (boardLead db board.id) run silo
      (note.getD (defaultEscalationReason run))) [task.id] = .ok stored

/-- The response is a run, read after one commit. -/
def RunResponse.Reads (response : RunResponse) : Prop :=
  ∃ t read, response = { commits := [t], answer := .ok read }

/-- The runs of a state can be read, whatever result payloads they have. -/
structure ReadsBack (others : RunTexts) (db : Db) : Prop where
  lists : ∀ organizationId boardId taskId, ∃ reads, listRuns db organizationId boardId taskId = .ok reads
  gets : ∀ organizationId boardId taskId runId, ∃ read?, getRun db organizationId boardId taskId runId = .ok read?
  updates : ∀ now organizationId board task runId payload run silo,
    findRun db organizationId board.id task.id runId = some run → db.silos.get? run.siloId = some silo →
    (∀ p ∈ payload.resultPayload, PayloadFits (some p)) →
    (updateRunRead others db now organizationId board task runId payload).Reads
  acknowledges : ∀ now organizationId board task runId note run silo,
    findRun db organizationId board.id task.id runId = some run → db.silos.get? run.siloId = some silo →
    run.status.isStopped = true →
    (acknowledgeRunRead others db now organizationId board task runId note).Reads
  escalates : ∀ now organizationId board task runId approvalId note run silo,
    findRun db organizationId board.id task.id runId = some run → db.silos.get? run.siloId = some silo →
    run.status.isStopped = true → CanEscalate db now board task run silo approvalId note →
    (escalateRunRead others db now organizationId board task runId approvalId note).Reads

/-! ## Fitting payloads are read back -/

theorem listRuns_isOk {db : Db} (h : PayloadsFit db) (organizationId boardId taskId : Uuid) :
    ∃ reads, listRuns db organizationId boardId taskId = .ok reads := by
  have hrows : ∀ v ∈ taskRuns db organizationId boardId taskId, PayloadFits v.1.resultPayload := by
    intro v hv
    obtain ⟨run, hrun, hsilo⟩ := List.mem_filterMap.mp hv
    obtain ⟨silo, -, rfl⟩ := Option.map_eq_some_iff.mp hsilo
    exact h run (List.mem_filter.mp (List.mem_mergeSort.mp hrun)).1
  unfold listRuns
  generalize taskRuns db organizationId boardId taskId = rows at hrows
  induction rows with
  | nil => exact ⟨[], rfl⟩
  | cons v rows ih =>
    obtain ⟨read, hread⟩ := toRead_isOk (hrows v List.mem_cons_self) v.2.slug
    obtain ⟨reads, hreads⟩ := ih fun w hw => hrows w (List.mem_cons_of_mem v hw)
    refine ⟨read :: reads, ?_⟩
    rw [List.mapM_cons]
    exact bind_eq_ok.mpr ⟨read, hread, bind_eq_ok.mpr ⟨reads, hreads, rfl⟩⟩

variable {organizationId : Uuid} {now : Time} {board : Board} {payload : TaskExecutionRunUpdate} {others : RunTexts}
  {siloSlug : Uuid → String} {t : Db}

theorem fits_of_findRun {db : Db} (h : PayloadsFit db) {boardId taskId runId : Uuid} {run : TaskExecutionRun}
    (hrun : findRun db organizationId boardId taskId runId = some run) :
    PayloadFits run.resultPayload :=
  h run (Table.mem_of_get? (findRun_eq_some hrun).1)

theorem getRun_isOk {db : Db} (h : PayloadsFit db) (organizationId boardId taskId runId : Uuid) :
    ∃ read?, getRun db organizationId boardId taskId runId = .ok read? := by
  unfold getRun
  split
  · exact ⟨none, rfl⟩
  · rename_i run hrun
    split
    · exact ⟨none, rfl⟩
    · rename_i silo hsilo
      obtain ⟨read, hread⟩ := toRead_isOk (fits_of_findRun h hrun) silo.slug
      rw [hread]
      exact ⟨some read, rfl⟩

theorem answerRun_reads {db : Db} {runId : Uuid} {run : TaskExecutionRun} {silo : Silo}
    (hrun : db.runs.get? runId = some run) (hsilo : db.silos.get? run.siloId = some silo)
    (hfit : PayloadFits run.resultPayload) : (answerRun runId (.ok db)).Reads := by
  obtain ⟨read, hread⟩ := toRead_isOk hfit silo.slug
  refine ⟨db, read, ?_⟩
  have hanswer : (answerRun runId (.ok db)).answer = .ok read := by
    simp only [answerRun, bind_eq_ok, orFail_eq_ok]
    exact ⟨run, hrun, silo, hsilo, hread⟩
  rw [← hanswer]
  rfl

theorem applyCallbackTaskEffects_isOk {texts : RunTexts} (db : Db) {task : Task} {run : TaskExecutionRun}
    {reports : List ActivityEvent} (h : reportEvents texts now board task run payload = .ok reports) :
    ∃ t, applyCallbackTaskEffects texts db now board task run payload = .ok t := by
  unfold applyCallbackTaskEffects
  rw [h]
  dsimp only [bind, Except.bind]
  split
  · exact ⟨_, rfl⟩
  · exact ⟨_, rfl⟩

theorem updateRun_isOk (others : RunTexts) (siloSlug : Uuid → String) {db : Db} {task : Task} {runId : Uuid}
    {run : TaskExecutionRun} {silo : Silo} (hrun : findRun db organizationId board.id task.id runId = some run)
    (hsilo : db.silos.get? run.siloId = some silo) (hfit : PayloadFits (run.reported now payload).resultPayload)
    (hown : ∀ p ∈ payload.resultPayload, PayloadFits (some p)) :
    ∃ t, updateRun (serviceTexts others siloSlug none) db now organizationId board task runId payload = .ok t := by
  have hevents : ∃ events, recordUpdated (serviceTexts others siloSlug none) db.events now (run.reported now payload)
      payload = .ok events := by
    unfold recordUpdated
    split
    · exact recordRun_isOk others siloSlug none hfit rfl db.events now none
    · exact ⟨db.events, rfl⟩
  obtain ⟨events, hevents⟩ := hevents
  have hreports : ∃ reports, reportEvents (serviceTexts others siloSlug none) now board task (run.reported now payload)
      payload = .ok reports := by
    unfold reportEvents
    split
    · obtain ⟨message, hmessage⟩ := report_isOk others siloSlug none hfit hown
      exact ⟨_, bind_eq_ok.mpr ⟨message, hmessage, rfl⟩⟩
    · exact ⟨[], rfl⟩
  obtain ⟨reports, hreports⟩ := hreports
  obtain ⟨t, ht⟩ := applyCallbackTaskEffects_isOk
    { db with runs := db.runs.put (run.reported now payload), events } hreports
  simp only [updateRun, bind_eq_ok, orFail_eq_ok]
  exact ⟨t, run, hrun, silo, hsilo, events, hevents, ht⟩

/-- **Where every stored payload fits**, the runs are read back. -/
theorem PayloadsFit.allRead {db : Db} (h : PayloadsFit db) (others : RunTexts) : ReadsBack others db where
  lists := listRuns_isOk h
  gets := getRun_isOk h
  updates := by
    intro now organizationId board task runId payload run silo hrun hsilo hown
    have hfit := fits_reported now (fits_of_findRun h hrun) hown
    obtain ⟨t, ht⟩ := updateRun_isOk others (siloSlugs db) hrun hsilo hfit hown
    obtain ⟨run', tasks, events, hrun', -, hstored⟩ := updateRun_eq_ok ht
    obtain rfl := Option.some.inj (hrun.symm.trans hrun')
    obtain ⟨hget, hid, -⟩ := findRun_eq_some hrun
    have hread : t.runs.get? runId = some (run.reported now payload) := by
      have hkey : key (run.reported now payload) = runId := hid
      rw [hstored, ← hkey]
      exact Table.get?_put_self (hkey ▸ hget)
    unfold updateRunRead
    rw [ht]
    exact answerRun_reads hread (by rw [hstored]; exact hsilo) hfit
  acknowledges := by
    intro now organizationId board task runId note run silo hrun hsilo hstopped
    have hfit := fits_of_findRun h hrun
    obtain ⟨events, hevents⟩ := recordRun_isOk others (siloSlugs db) note hfit
      (show EventType.runAcknowledged.isReported = true from rfl) db.events now none
    have hok : acknowledgeRun (serviceTexts others (siloSlugs db) note) db now organizationId board task runId =
        .ok { db with events } := by
      simp only [acknowledgeRun, bind_eq_ok, orFail_eq_ok, require_eq_ok, pure_eq_ok]
      exact ⟨run, hrun, (), hstopped, silo, hsilo, events, hevents, rfl⟩
    unfold acknowledgeRunRead
    rw [hok]
    exact answerRun_reads (findRun_eq_some hrun).1 hsilo hfit
  escalates := by
    intro now organizationId board task runId approvalId note run silo hrun hsilo hstopped
    rintro ⟨hconflicts, stored, hstored⟩
    have hfit := fits_of_findRun h hrun
    obtain ⟨approvals, links, -, -, rfl⟩ := storeApproval_eq_ok hstored
    set stored : Db := { db with approvals, approvalTaskLinks := links } with hdb
    set moved := moveEscalatedTask stored now board task (boardLead db board.id) with hmoved
    have hsame : moved.runs = db.runs ∧ moved.silos = db.silos := by
      rw [hmoved, moveEscalatedTask]
      split <;> exact ⟨rfl, rfl⟩
    obtain ⟨events, hevents⟩ := recordRun_isOk others (siloSlugs db) note hfit
      (show EventType.runEscalated.isReported = true from rfl) moved.events now none
    have hreason : escalationReason (serviceTexts others (siloSlugs db) note) run note =
        .ok (note.getD (defaultEscalationReason run)) := by
      cases note <;> rfl
    have hok : escalateRun (serviceTexts others (siloSlugs db) note) db now organizationId board task runId approvalId
        note = .ok { moved with events } := by
      simp only [escalateRun, storeEscalation, bind_eq_ok, orFail_eq_ok, require_eq_ok, pure_eq_ok]
      exact ⟨run, hrun, (), hstopped, (), hconflicts, silo, hsilo, _, hreason, _, hstored, events, hevents, rfl⟩
    unfold escalateRunRead
    rw [hok]
    refine @answerRun_reads { moved with events } _ _ silo ?_ ?_ hfit
    · exact (congrArg (Table.get? · runId) hsame.1).trans (findRun_eq_some hrun).1
    · exact (congrArg (Table.get? · run.siloId) hsame.2).trans hsilo

/-- A report that gives a status has the payload it leaves checked. -/
theorem fits_of_updateRun {note : Option String} {db : Db} {task : Task} {runId : Uuid} {run : TaskExecutionRun}
    (hrun : findRun db organizationId board.id task.id runId = some run) (hstatus : payload.status.isSome = true)
    (hok : updateRun (serviceTexts others siloSlug note) db now organizationId board task runId payload = .ok t) :
    PayloadFits (run.reported now payload).resultPayload := by
  simp only [updateRun, bind_eq_ok, orFail_eq_ok] at hok
  obtain ⟨run', hrun', _, -, events, hevents, -⟩ := hok
  obtain rfl := Option.some.inj (hrun.symm.trans hrun')
  exact fits_of_recordUpdated hstatus hevents

/-! ## What a request stores -/

/-- The request is a PATCH that finds its run and stores a result payload that does not fit, without a status to
record. -/
def StoresUnchecked (db : Db) : Operation → Prop
  | .updateRun scope runId payload =>
    (∃ run, findRun db scope.organizationId scope.boardId scope.taskId runId = some run) ∧ payload.status = none ∧
      ∃ p ∈ payload.resultPayload, ¬ PayloadFits (some p)
  | _ => False

theorem fits_of_absent {resultPayload : Option Json} (hpull : resultField resultPayload "pull_request" = none)
    (husage : resultField resultPayload "usage" = none) (hturn : resultField resultPayload "turn_count" = none)
    (hduration : resultField resultPayload "duration_ms" = none) : PayloadFits resultPayload := by
  refine ⟨?_, ?_, ?_, ?_⟩
  · rw [hpull]
    exact nofun
  · rw [totalTokensField, husage]
    exact nofun
  · rw [hturn]
    exact nofun
  · rw [hduration]
    exact nofun

theorem fits_dispatched (run : TaskExecutionRun) (texts : RunTexts) (task : Task) (now : Time)
    (acceptance : SymphonyDispatchAcceptance) : PayloadFits (run.dispatched texts task now acceptance).resultPayload :=
  fits_of_absent rfl rfl rfl rfl

theorem createRun_runs {texts : RunTexts} {db : Db} {task : Task} {runId : Uuid} {payload : TaskExecutionRunCreate}
    {userId : Option Uuid} (h : createRun texts db now board task runId payload userId = .ok t) :
    ∃ run, run.resultPayload = none ∧ db.runs.insert? run = some t.runs := by
  simp only [createRun, bind_eq_ok, orFail_eq_ok, require_eq_ok, pure_eq_ok] at h
  obtain ⟨_, -, _, -, _, -, _, -, runs, hruns, events, -, rfl⟩ := h
  exact ⟨_, rfl, hruns⟩

theorem PayloadsFit.put {db : Db} (h : PayloadsFit db) {run : TaskExecutionRun} (hruns : t.runs = db.runs.put run)
    (hfit : PayloadFits run.resultPayload) : PayloadsFit t := by
  intro r hr
  rw [hruns] at hr
  rcases Table.mem_put.mp hr with ⟨hr, -⟩ | ⟨rfl, -⟩
  · exact h r hr
  · exact hfit

theorem PayloadsFit.insert {db : Db} (h : PayloadsFit db) {run : TaskExecutionRun}
    (hruns : db.runs.insert? run = some t.runs) (hfit : PayloadFits run.resultPayload) : PayloadsFit t := by
  intro r hr
  rcases (Table.mem_insert? hruns).mp hr with hr | rfl
  · exact h r hr
  · exact hfit

theorem PayloadsFit.updateRun {note : Option String} {db : Db} (h : PayloadsFit db) {task : Task} {runId : Uuid}
    (hchecked : payload.status = none → ∀ p ∈ payload.resultPayload, PayloadFits (some p))
    (hok : updateRun (serviceTexts others siloSlug note) db now organizationId board task runId payload = .ok t) :
    PayloadsFit t := by
  obtain ⟨run, tasks, events, hrun, -, rfl⟩ := updateRun_eq_ok hok
  refine h.put rfl ?_
  cases hstatus : payload.status with
  | none => exact fits_reported now (fits_of_findRun h hrun) (hchecked hstatus)
  | some status => exact fits_of_updateRun hrun (by rw [hstatus]; rfl) hok

theorem PayloadsFit.of_runs {db : Db} (h : PayloadsFit db) (hruns : t.runs = db.runs) : PayloadsFit t := by
  unfold PayloadsFit
  rw [hruns]
  exact h

def Operation.isAboutRuns : Operation → Bool
  | .createRun .. | .retryRun .. | .updateRun .. | .cancelRun .. | .acknowledgeRun .. | .escalateRun ..
  | .callback .. | .dispatchRun .. => true
  | _ => false

theorem Creates.runs {db : Db} {payload : TaskCreate} {boardId taskId : Uuid} {commits : List Db}
    (h : Creates db payload boardId taskId commits) (ht : t ∈ commits) : t.runs = db.runs := by
  obtain ⟨board, task, deps, tasks, dependencies, values, tags, -, -, -, -, -, hall⟩ := h.stores
  obtain ⟨events, rfl⟩ := hall t ht
  rfl

theorem runs_of_commits {env : Env} {db : Db} {request : Request} (hop : request.op.isAboutRuns = false)
    (ht : t ∈ (machine env).commits db request) : t.runs = db.runs := by
  obtain ⟨now, op⟩ := request
  cases op with
  | createTask boardId taskId userId payload =>
    obtain ⟨commits, hok, ht⟩ := Response.mem_ofExcept.mp ht
    exact (createTask_eq_ok hok).runs ht
  | createTaskAsLead boardId taskId agentId payload =>
    obtain ⟨commits, hok, ht⟩ := Response.mem_ofExcept.mp ht
    exact (createTaskAsLead_eq_ok hok).runs ht
  | updateTask boardId taskId actor payload =>
    obtain ⟨commits, hok, ht⟩ := Response.mem_ofExcept.mp ht
    obtain ⟨ctx, task, board, task', dependencies, tags, values, -, -, -, -, -, -, pre, events, agentId, rfl, hpre⟩ :=
      updateTask_eq_ok hok
    rcases List.mem_append.mp ht with ht | ht
    · obtain ⟨events, rfl⟩ := hpre t ht
      rfl
    · obtain rfl := List.mem_singleton.mp ht
      rfl
  | deleteTask boardId taskId actor =>
    obtain ⟨_, rfl, -, events, tags, values, rfl⟩ := deleteTask_eq_ok (Response.mem_single.mp ht)
    rfl
  | createTaskComment boardId taskId actor message =>
    obtain ⟨events, rfl⟩ := createTaskComment_eq_ok (Response.mem_single.mp ht)
    rfl
  | deleteAgent agentId =>
    obtain ⟨events, rfl⟩ := deleteAgentRecord_eq_ok (Response.mem_single.mp ht)
    rfl
  | createApproval boardId approvalId actor payload =>
    obtain ⟨_, -, hstore⟩ := createApproval_eq_ok (Response.mem_single.mp ht)
    obtain ⟨approvals, links, -, -, rfl⟩ := storeApproval_eq_ok hstore
    rfl
  | updateApproval boardId approvalId userId status =>
    rcases updateApproval_eq_ok (Response.mem_single.mp ht) with rfl | ⟨approval, target, -, -, rfl⟩ <;> rfl
  | _ => cases hop

/-! ## Every run of the system -/

def serviceEnv (texts : Texts) (others : RunTexts) (siloSlug : Uuid → String) : Env where
  texts
  runTexts := serviceTexts others siloSlug none

/-- **One request** leaves only payloads that fit, unless it stores one unchecked. -/
theorem PayloadsFit.commits {texts : Texts} {db : Db} {request : Request} (h : PayloadsFit db)
    (hchecked : ¬ StoresUnchecked db request.op)
    (ht : t ∈ (machine (serviceEnv texts others siloSlug)).commits db request) : PayloadsFit t := by
  obtain ⟨now, op⟩ := request
  cases op with
  | createRun scope runId payload =>
    obtain ⟨board, task, -, hok⟩ := onRun_eq_ok (Response.mem_single.mp ht)
    obtain ⟨run, hnone, hruns⟩ := createRun_runs hok
    exact h.insert hruns (hnone ▸ fits_none)
  | retryRun scope runId newRunId =>
    obtain ⟨board, task, -, hmem⟩ := mem_onRetry ht
    obtain ⟨created, hcreate, ht⟩ := Response.mem_both.mp hmem
    simp only [bind_eq_ok, orFail_eq_ok, require_eq_ok] at hcreate
    obtain ⟨_, -, _, -, _, -, hcreate⟩ := hcreate
    obtain ⟨run, hnone, hruns⟩ := createRun_runs hcreate
    have hcreated : PayloadsFit created := h.insert hruns (hnone ▸ fits_none)
    rcases ht with rfl | ht
    · exact hcreated
    · simp only [bind_eq_ok, orFail_eq_ok, pure_eq_ok] at ht
      obtain ⟨_, -, events, -, rfl⟩ := ht
      exact hcreated.of_runs rfl
  | updateRun scope runId payload =>
    obtain ⟨board, task, hscope, hok⟩ := onRun_eq_ok (Response.mem_single.mp ht)
    obtain ⟨-, hboard, -, -, htask, -⟩ := getBoardAndTask_eq_ok hscope
    obtain ⟨run, -, -, hrun, -⟩ := updateRun_eq_ok hok
    rw [hboard, htask] at hrun
    refine h.updateRun (fun hstatus p hp => ?_) hok
    by_contra hunfit
    exact hchecked ⟨⟨run, hrun⟩, hstatus, p, hp, hunfit⟩
  | cancelRun scope runId note =>
    obtain ⟨board, task, -, hok⟩ := onRun_eq_ok (Response.mem_single.mp ht)
    simp only [cancelRun, bind_eq_ok] at hok
    obtain ⟨run, -, _, -, hok⟩ := hok
    exact h.updateRun (fun hstatus => by cases hstatus) hok
  | callback runId payload =>
    have hok := mapError_eq_ok.mp (Response.mem_single.mp ht)
    simp only [updateRunById, bind_eq_ok] at hok
    obtain ⟨run, -, task, -, board, -, _, -, hok⟩ := hok
    exact h.updateRun (fun hstatus => by cases hstatus) hok
  | dispatchRun organizationId boardId taskId runId answer =>
    obtain ⟨commits, hok, ht⟩ := Response.mem_ofExcept.mp ht
    obtain ⟨run, task, acceptance, events, -, -, rfl⟩ := dispatchRun_eq_ok hok t ht
    exact h.put rfl (fits_dispatched ..)
  | acknowledgeRun scope runId =>
    obtain ⟨board, task, -, hok⟩ := onRun_eq_ok (Response.mem_single.mp ht)
    obtain ⟨events, rfl⟩ := acknowledgeRun_eq_ok hok
    exact h.of_runs rfl
  | escalateRun scope runId approvalId note =>
    obtain ⟨board, task, -, hok⟩ := onRun_eq_ok (Response.mem_single.mp ht)
    obtain ⟨run, silo, -, hstore⟩ := escalateRun_eq_ok hok
    obtain ⟨approval, approvals, links, tasks, events, -, -, -, -, -, -, -, -, rfl⟩ := storeEscalation_eq_ok hstore
    exact h.of_runs rfl
  | _ => exact h.of_runs (runs_of_commits rfl ht)

/-- **Every state reads back** where no request stores an unchecked payload that does not fit. -/
theorem readsBack {texts : Texts} {others : RunTexts} {siloSlug : Uuid → String} {db : Db} {requests : List Request}
    (h : PayloadsFit db)
    (hchecked : (machine (serviceEnv texts others siloSlug)).Along (fun s request => ¬ StoresUnchecked s request.op) db
      requests) :
    ∀ t ∈ (machine (serviceEnv texts others siloSlug)).committed db requests, ReadsBack others t := by
  intro t ht
  have hfit := Machine.committed_inv PayloadsFit (fun s request hs hrequest t ht => hs.commits hrequest ht) h hchecked
    t ht
  exact hfit.allRead others

/-! ## A payload that cannot be read -/

namespace Sample

def stopped : Db := { db with tasks := ⟨[task], Table.nodup_one task⟩, runs := ⟨[run .failed], nodup_run .failed⟩ }

def storesPayload (fields : Fields) : Request :=
  { now := 1, op := .updateRun scope 1 { resultPayload := some (.obj fields) } }

end Sample

theorem readsBack_counted :
    ((machine (serviceEnv Sample.env.texts Sample.env.runTexts fun _ => "forge")).committed Sample.stopped
      [Sample.storesPayload [("turn_count", .str "12")]]).Forall (ReadsBack Sample.env.runTexts) := by
  refine List.forall_iff_forall_mem.mpr (readsBack (fun run hrun => ?_) ⟨?_, trivial⟩)
  · obtain rfl := List.mem_singleton.mp hrun
    exact fits_none
  · rintro ⟨-, -, p, ⟨rfl⟩, hunfit⟩
    refine hunfit ⟨nofun, nofun, ?_, nofun⟩
    rintro v ⟨rfl⟩
    decide

/-- A PATCH stores a superscript for a number, and the run can no longer be acknowledged. -/
theorem not_readsBack :
    ¬ ∀ (texts : Texts) (others : RunTexts) (siloSlug : Uuid → String) (db : Db) (requests : List Request),
      PayloadsFit db → ∀ t ∈ (machine (serviceEnv texts others siloSlug)).committed db requests,
        ReadsBack others t := by
  intro h
  have hall := h Sample.env.texts Sample.env.runTexts (fun _ => "forge") Sample.stopped
    [Sample.storesPayload [("pull_request", .str "²")]] (fun run hrun => by
      obtain rfl := List.mem_singleton.mp hrun
      exact fits_none)
  have hstored : ∃ t ∈ (machine (serviceEnv Sample.env.texts Sample.env.runTexts fun _ => "forge")).committed
      Sample.stopped [Sample.storesPayload [("pull_request", .str "²")]],
      (∃ run ∈ findRun t 1 1 1 1, (∃ silo ∈ t.silos.get? run.siloId, True) ∧ run.status.isStopped = true) ∧
      (acknowledgeRunRead Sample.env.runTexts t 2 1 Sample.board Sample.task 1 none).commits.length = 0 := by
    decide
  obtain ⟨t, ht, ⟨run, hrun, ⟨silo, hsilo, -⟩, hstopped⟩, hnone⟩ := hstored
  obtain ⟨t', read, hreads⟩ := (hall t ht).acknowledges 2 1 Sample.board Sample.task 1 none run silo hrun hsilo hstopped
  rw [hreads] at hnone
  cases hnone

end SiloForge
