import SiloForge.System.ReportWays

/-!
# What a callback leaves alone

A callback merges its text columns one by one. Its metadata goes into one object with its own result payload, which
takes the place of the stored one as soon as it has a field.

* `ResultRead` : what is read out of a stored result payload, one by one;
* `ChangesOnlyMentioned` : what a callback does not mention reads as it did;
* `changesOnlyMentioned_iff` : that is so exactly where the callback brings no result payload, or the stored one says
  nothing the callback leaves out.
-/

namespace SiloForge

open Lib

/-! ## What is read -/

/-- A value of the read model that stands in the result payload: a text, a count or a record of the dispatch. -/
inductive ResultRead where
  | text (key : String)
  | count (key : String)
  | record (key : String)
  deriving DecidableEq

namespace ResultRead

def key : ResultRead → String
  | text k | count k | record k => k

def readIn (resultPayload : Option Json) : ResultRead → Except Failure (Option Json)
  | text k => .ok ((extractResultText resultPayload k).map .str)
  | count k => extractResultInt resultPayload k
  | record k => .ok (resultField resultPayload k)

end ResultRead

def resultReads : List ResultRead :=
  ["issue_identifier", "runner_kind", "completion_kind", "failure_reason", "block_reason", "cancel_reason",
    "stall_reason", "last_event", "last_message", "session_id"].map ResultRead.text ++
  ["turn_count", "duration_ms"].map ResultRead.count ++
  ["dispatch_request", "dispatch_acceptance"].map ResultRead.record

/-! ## The frame of a callback -/

/-- The callback mentions a key: as metadata, or in what is dumped of its own result payload. -/
def RunReport.Mentions (payload : RunReport) (key : String) : Prop :=
  key ∈ payload.ownFields.map Prod.fst ∨ key ∈ payload.metadata.map Prod.fst

instance (payload : RunReport) (key : String) : Decidable (payload.Mentions key) :=
  inferInstanceAs (Decidable (_ ∨ _))

structure ChangesOnlyMentioned (run run' : TaskExecutionRun) (payload : RunReport) : Prop where
  externalRunId : payload.externalRunId = none → run'.externalRunId = run.externalRunId
  workspacePath : payload.workspacePath = none → run'.workspacePath = run.workspacePath
  branchName : payload.branchName = none → run'.branchName = run.branchName
  prUrl : payload.prUrl = none → run'.prUrl = run.prUrl
  summary : payload.summary = none → run'.summary = run.summary
  errorMessage : payload.errorMessage = none → run'.errorMessage = run.errorMessage
  result : ∀ field ∈ resultReads, ¬ payload.Mentions field.key →
    field.readIn run'.resultPayload = field.readIn run.resultPayload

/-- The stored result payload is read as nothing wherever the callback mentions nothing. -/
def RunReport.LeavesOutNothing (payload : RunReport) (stored : Option Json) : Prop :=
  ∀ field ∈ resultReads, ¬ payload.Mentions field.key → field.readIn stored = .ok none

theorem ResultRead.readIn_of_absent {resultPayload : Option Json} {field : ResultRead}
    (h : resultField resultPayload field.key = none) : field.readIn resultPayload = .ok none := by
  cases field with
  | text k =>
    have habsent : resultField resultPayload k = none := h
    simp only [ResultRead.readIn, extractResultText, habsent]
    rfl
  | count k =>
    have habsent : resultField resultPayload k = none := h
    simp only [ResultRead.readIn, extractResultInt, habsent]
    rfl
  | record k =>
    have habsent : resultField resultPayload k = none := h
    simp only [ResultRead.readIn, habsent]

theorem resultField_unmentioned {payload : RunReport} (hbrings : ¬ payload.BringsNoResult) {key : String}
    (h : ¬ payload.Mentions key) (stored : Option Json) :
    resultField ((mergeCallbackResultPayload payload).or stored) key = none := by
  obtain ⟨hown, hgiven⟩ := not_or.mp h
  have hsource : callbackSource stored payload = some (.obj payload.ownFields) := if_neg hbrings
  rw [resultField_merged, Json.lookup_eq_none_of_not_mem hgiven, hsource]
  exact Json.lookup_eq_none_of_not_mem hown

/-- **The frame of one report** as it is stored. -/
theorem changesOnlyMentioned_reported_iff (run : TaskExecutionRun) (now : Time) (payload : TaskExecutionRunCallback) :
    ChangesOnlyMentioned run (run.reported now payload.toUpdate) payload.toRunReport ↔
      payload.BringsNoResult ∨ payload.LeavesOutNothing run.resultPayload := by
  have hstored : (run.reported now payload.toUpdate).resultPayload
      = (mergeCallbackResultPayload payload.toRunReport).or run.resultPayload := rfl
  constructor
  · intro h
    refine or_iff_not_imp_left.mpr fun hbrings field hfield hleft => ?_
    rw [← h.result field hfield hleft, hstored]
    exact ResultRead.readIn_of_absent (resultField_unmentioned hbrings hleft _)
  · intro h
    have hcolumn : ∀ {given stored : Option String}, given = none → given.or stored = stored := by
      rintro _ _ rfl
      rfl
    refine ⟨hcolumn, hcolumn, hcolumn, hcolumn, hcolumn, hcolumn, fun field hfield hleft => ?_⟩
    rw [hstored]
    by_cases hbrings : payload.BringsNoResult
    · rw [mergeCallbackResultPayload_eq_none hbrings, Option.none_or]
    · rcases h with h | h
      · exact absurd h hbrings
      · rw [h field hfield hleft]
        exact ResultRead.readIn_of_absent (resultField_unmentioned hbrings hleft _)

/-- **A callback changes only what it mentions** exactly where it brings no result payload, or the
stored one says nothing the callback leaves out. -/
theorem changesOnlyMentioned_iff {env : Env} {reader : BodyReader} {db t : Db} {now : Time} {runId : Uuid} {body : Json}
    {payload : TaskExecutionRunCallback} (hbody : payload ∈ callbackOf reader body)
    (ht : t ∈ callbackCommits env reader db now runId body) {run run' : TaskExecutionRun}
    (hrun : db.runs.get? runId = some run) (hrun' : t.runs.get? runId = some run') :
    ChangesOnlyMentioned run run' payload.toRunReport ↔
      payload.BringsNoResult ∨ payload.LeavesOutNothing run.resultPayload := by
  obtain ⟨contract, hcontract, rfl⟩ := Option.map_eq_some_iff.mp hbody
  rw [callbackCommits, toOption_eq_some.mp hcontract] at ht
  obtain ⟨found, task, board, tasks, events, hfound, -, -, -, rfl⟩ :=
    updateRunById_eq_ok (mapError_eq_ok.mp (Response.mem_single.mp ht))
  obtain rfl := Option.some.inj (hfound.symm.trans hrun)
  obtain rfl : found.id = runId := Table.key_of_get? hfound
  have hput : (db.runs.put (found.reported now contract.toCallback.toUpdate)).get? found.id
      = some (found.reported now contract.toCallback.toUpdate) := Table.get?_put_self hfound
  obtain rfl := Option.some.inj (hput.symm.trans hrun')
  exact changesOnlyMentioned_reported_iff found now contract.toCallback

namespace Sample

def acceptedRun : TaskExecutionRun :=
  { run .dispatching with
    resultPayload := some (.obj [("dispatch_request", .str "run"), ("dispatch_acceptance", .str "ok")]) }

def acceptedRuns : Db := { db with tasks := ⟨[task], Table.nodup_one task⟩, runs := ⟨[acceptedRun], by decide⟩ }

def started : Json := .obj [("status", .str "running"), ("result_payload", .obj [("last_event", .null)])]

def progress : Json :=
  .obj [("status", .str "running"), ("result_payload", .obj [("last_event", .str "turn_finished")])]

theorem parse_started :
    parseExecutionCallbackContract plainReader started =
      .ok { status := .running, resultPayload := some [("last_event", .null)] } :=
  parseExecutionCallbackContract_obj (by decide) rfl rfl

theorem parse_progress :
    parseExecutionCallbackContract plainReader progress =
      .ok { status := .running, resultPayload := some [("last_event", .str "turn_finished")] } :=
  parseExecutionCallbackContract_obj (by decide) rfl rfl

end Sample

theorem changesOnlyMentioned_started :
    ∃ t run' payload, t ∈ callbackCommits Sample.env Sample.plainReader Sample.acceptedRuns 3 1 Sample.started ∧
      t.runs.get? 1 = some run' ∧ payload ∈ callbackOf Sample.plainReader Sample.started ∧
      ChangesOnlyMentioned Sample.acceptedRun run' payload.toRunReport := by
  have hbody : ∃ payload, payload ∈ callbackOf Sample.plainReader Sample.started ∧ payload.BringsNoResult := by
    rw [callbackOf, Sample.parse_started]
    exact ⟨_, rfl, by decide⟩
  have hcommits : ∃ t run', t ∈ callbackCommits Sample.env Sample.plainReader Sample.acceptedRuns 3 1 Sample.started ∧
      t.runs.get? 1 = some run' := by
    rw [callbackCommits, Sample.parse_started]
    exact ⟨_, _, List.mem_cons_self, rfl⟩
  obtain ⟨payload, hpayload, hbrings⟩ := hbody
  obtain ⟨t, run', ht, hrun'⟩ := hcommits
  exact ⟨t, run', payload, ht, hrun', hpayload, (changesOnlyMentioned_iff hpayload ht rfl hrun').mpr (.inl hbrings)⟩

/-- A report of progress drops the record of the dispatch. -/
theorem not_changesOnlyMentioned :
    ¬ ∀ (env : Env) (reader : BodyReader) (db t : Db) (now : Time) (runId : Uuid) (body : Json)
      (payload : TaskExecutionRunCallback) (run run' : TaskExecutionRun), payload ∈ callbackOf reader body →
      t ∈ callbackCommits env reader db now runId body →
      db.runs.get? runId = some run → t.runs.get? runId = some run' →
      ChangesOnlyMentioned run run' payload.toRunReport := by
  intro h
  have hframe := h Sample.env Sample.plainReader Sample.acceptedRuns _ 3 1 Sample.progress _ Sample.acceptedRun _
    (by rw [callbackOf, Sample.parse_progress]; rfl)
    (by rw [callbackCommits, Sample.parse_progress]; exact List.mem_cons_self) rfl rfl
  have hrecord := hframe.result (.record "dispatch_request") (by decide) (by decide)
  cases hrecord

end SiloForge
