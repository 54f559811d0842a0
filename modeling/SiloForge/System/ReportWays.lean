import SiloForge.Runs.Callback
import SiloForge.System.ReadBack

/-!
# Two ways to report a run

The runtime reports a run by a callback, an operator by a PATCH of the same body. A callback has its body checked by a
contract, and merges its metadata into what it dumps of the result payload before the shared update; a PATCH stores the
result payload as it is given.

* `SameState` : states that differ in the order of the keys of result payloads only, and `SameRun.toRead`: the same is
  read of them;
* `ReportsAgree` : both ways commit the same states;
* `reportsAgree_iff` : that is so exactly where the contract accepts the body and the metadata is in the result payload
  already, or both refuse it.
-/

namespace SiloForge

open Lib

/-! ## Setting several fields -/

namespace Json

/-- The same value, up to the order of the keys of an object. -/
def Same : Json → Json → Prop
  | .obj fields, .obj fields' => ∀ key, lookup fields key = lookup fields' key
  | value, value' => value = value'

theorem Same.refl (value : Json) : Same value value := by
  cases value <;> first | exact rfl | exact fun _ => rfl

theorem Same.get? {value value' : Json} (h : Same value value') (key : String) : value.get? key = value'.get? key := by
  cases value with
  | obj fields =>
    cases value' with
    | obj fields' => exact h key
    | _ => cases h
  | _ => cases value' <;> first | rfl | cases h

def setFields (fields given : Fields) : Fields := given.foldl (fun fields g => setField fields g.1 g.2) fields

variable {fields given : Fields}

theorem setFields_eq_append (hnodup : (fields.map Prod.fst ++ given.map Prod.fst).Nodup) :
    setFields fields given = fields ++ given := by
  induction given generalizing fields with
  | nil => exact (List.append_nil fields).symm
  | cons g given ih =>
    have hnew : fields.any (fun f => f.1 = g.1) = false :=
      lookup_eq_none.mp (lookup_eq_none_of_not_mem fun hin =>
        (List.disjoint_of_nodup_append hnodup) hin List.mem_cons_self)
    show setFields (setField fields g.1 g.2) given = _
    rw [setField, hnew, if_neg Bool.false_ne_true, ih, List.append_assoc]
    · rfl
    · rw [List.map_append, List.append_assoc]
      exact hnodup

theorem lookup_setFields (hnodup : (given.map Prod.fst).Nodup) (key : String) :
    lookup (setFields fields given) key = (lookup given key).or (lookup fields key) := by
  induction given generalizing fields with
  | nil => rfl
  | cons g given ih =>
    obtain ⟨hnot, hnodup⟩ := List.nodup_cons.mp hnodup
    have hstep : lookup (setFields (setField fields g.1 g.2) given) key =
        (lookup given key).or (lookup (setField fields g.1 g.2) key) := ih hnodup
    show lookup (setFields (setField fields g.1 g.2) given) key = _
    rw [hstep, lookup_setField, lookup_cons]
    by_cases hkey : g.1 = key
    · rw [lookup_eq_none_of_not_mem (hkey ▸ hnot), if_pos hkey, if_pos hkey]
      rfl
    · rw [if_neg hkey, if_neg hkey]

/-- **Fields are set in vain**, up to their order, exactly when they are there already and nothing else differs. -/
theorem lookup_setFields_eq_iff (hnodup : (given.map Prod.fst).Nodup) {fields' : Fields} :
    (∀ key, lookup (setFields fields given) key = lookup fields' key) ↔
      (∀ g ∈ given, lookup fields' g.1 = some g.2) ∧
        ∀ key ∉ given.map Prod.fst, lookup fields key = lookup fields' key := by
  constructor
  · intro h
    constructor
    · intro g hg
      rw [← h, lookup_setFields hnodup, lookup_of_mem hnodup hg, Option.some_or]
    · intro key hkey
      rw [← h, lookup_setFields hnodup, lookup_eq_none_of_not_mem hkey, Option.none_or]
  · rintro ⟨hgiven, hothers⟩ key
    rw [lookup_setFields hnodup]
    cases hkey : lookup given key with
    | none =>
      rw [Option.none_or]
      exact hothers key fun hmem => by
        obtain ⟨v, hv⟩ := Option.isSome_iff_exists.mp (isSome_lookup.mpr hmem)
        rw [hv] at hkey
        cases hkey
    | some value => exact (hgiven _ (mem_of_lookup hkey)).symm

end Json

/-! ## Metadata -/

/-- The texts a report gives as metadata, under their keys in a result payload. -/
def RunReport.metadataTexts (payload : RunReport) : List (String × Option String) :=
  [("issue_identifier", payload.issueIdentifier), ("runner_kind", payload.runnerKind),
    ("completion_kind", payload.completionKind), ("failure_reason", payload.failureReason),
    ("block_reason", payload.blockReason), ("cancel_reason", payload.cancelReason),
    ("stall_reason", payload.stallReason), ("last_event", payload.lastEvent),
    ("last_message", payload.lastMessage), ("session_id", payload.sessionId)]

def RunReport.metadataCounts (payload : RunReport) : List (String × Option Int) :=
  [("turn_count", payload.turnCount), ("duration_ms", payload.durationMs)]

def RunReport.metadataFields (payload : RunReport) : List (String × Option Json) :=
  payload.metadataTexts.map (fun t => (t.1, t.2.map Json.str)) ++
    payload.metadataCounts.map fun c => (c.1, c.2.map Json.int)

def RunReport.metadata (payload : RunReport) : Fields := ContractSchema.present payload.metadataFields

def RunReport.ownFields (payload : RunReport) : Fields :=
  match payload.resultPayload with
  | some (.obj fields) => fields
  | _ => []

def objOfFields : Fields → Option Json
  | [] => none
  | f :: fields => some (.obj (f :: fields))

theorem mergeCallbackResultPayload_eq (payload : RunReport) :
    mergeCallbackResultPayload payload = objOfFields (Json.setFields payload.ownFields payload.metadata) := by
  have hgiven : payload.metadata =
      (payload.metadataTexts.filterMap fun t => t.2.map fun s => (t.1, Json.str s)) ++
        payload.metadataCounts.filterMap fun c => c.2.map fun n => (c.1, Json.int n) := by
    simp only [RunReport.metadata, RunReport.metadataFields, ContractSchema.present, List.filterMap_append,
      List.filterMap_map, Function.comp_def, Option.map_map]
  rw [hgiven]
  unfold mergeCallbackResultPayload
  dsimp only
  split
  · rename_i hfields
    exact (congrArg objOfFields hfields).symm
  · rename_i hfields
    obtain ⟨f, fields, hcons⟩ := List.exists_cons_of_ne_nil hfields
    exact (congrArg objOfFields hcons).symm ▸ congrArg (fun fields => some (Json.obj fields)) hcons

theorem keys_present_sublist (candidates : List (String × Option Json)) :
    List.Sublist ((ContractSchema.present candidates).map Prod.fst) (candidates.map Prod.fst) := by
  induction candidates with
  | nil => exact .slnil
  | cons c candidates ih =>
    obtain ⟨key, value⟩ := c
    cases value with
    | none => exact ih.cons key
    | some v => exact ih.cons_cons key

theorem metadata_nodupFields (payload : RunReport) : (payload.metadataFields.map Prod.fst).Nodup := by
  show ["issue_identifier", "runner_kind", "completion_kind", "failure_reason", "block_reason", "cancel_reason",
    "stall_reason", "last_event", "last_message", "session_id", "turn_count", "duration_ms"].Nodup
  decide

theorem metadata_nodup (payload : RunReport) : (payload.metadata.map Prod.fst).Nodup :=
  (metadata_nodupFields payload).sublist (keys_present_sublist _)

variable {payload : RunReport} {stored : Option Json}

theorem lookup_metadata {key : String} {value : Option Json}
    (h : ∀ v, (key, some v) ∈ payload.metadataFields ↔ value = some v) : Json.lookup payload.metadata key = value := by
  ext v
  rw [RunReport.metadata, ContractSchema.lookup_present (metadata_nodupFields payload)]
  exact h v

/-! ## What is stored -/

/-- The callback has neither metadata nor a field of a result payload. -/
def RunReport.BringsNoResult (payload : RunReport) : Prop := payload.ownFields = [] ∧ payload.metadata = []

instance (payload : RunReport) : Decidable payload.BringsNoResult := inferInstanceAs (Decidable (_ ∧ _))

/-- Merging what a callback gives stores what the PATCH of its result payload stores, up to the order of the keys. -/
def SameResult (stored : Option Json) (payload : RunReport) : Option Json → Prop
  | none => payload.metadata = [] ∨ Option.Rel Json.Same (some (.obj payload.metadata)) stored
  | some (.obj fields) =>
    if payload.BringsNoResult then Option.Rel Json.Same stored (some (.obj fields))
    else (∀ g ∈ payload.metadata, Json.lookup fields g.1 = some g.2) ∧
      ∀ key ∉ payload.metadata.map Prod.fst, Json.lookup payload.ownFields key = Json.lookup fields key
  | some _ => False

/-- What a callback has left of the fields of a result payload: null ones are gone. -/
structure DumpedFrom (payload : RunReport) (own : Option Fields) : Prop where
  absent : own = none → payload.ownFields = []
  nulls : ∀ fields ∈ own, payload.ownFields = [] → ∀ f ∈ fields, f.2 = .null

theorem objOfFields_eq_some {fields : Fields} {value : Json} :
    objOfFields fields = some value ↔ fields ≠ [] ∧ value = .obj fields := by
  cases fields with
  | nil => exact ⟨nofun, fun h => absurd rfl h.1⟩
  | cons f fields =>
    exact ⟨fun h => ⟨List.cons_ne_nil f fields, (Option.some.inj h).symm⟩, fun h => congrArg some h.2.symm⟩

theorem setFields_nil (given : Fields) (hnodup : (given.map Prod.fst).Nodup) : Json.setFields [] given = given :=
  (Json.setFields_eq_append (by simpa using hnodup)).trans (List.nil_append given)

theorem setFields_ne_nil {fields given : Fields} (h : fields ≠ [] ∨ given ≠ []) (hnodup : (given.map Prod.fst).Nodup) :
    Json.setFields fields given ≠ [] := by
  intro hnil
  have hkeys : ∀ key, (Json.lookup given key).or (Json.lookup fields key) = none := by
    intro key
    rw [← Json.lookup_setFields hnodup, hnil, Json.lookup_nil]
  rcases h with h | h
  · obtain ⟨f, hf⟩ := List.exists_mem_of_ne_nil fields h
    have hsome := Json.isSome_lookup.mpr (List.mem_map_of_mem (f := Prod.fst) hf)
    rw [(Option.or_eq_none_iff.mp (hkeys f.1)).2] at hsome
    cases hsome
  · obtain ⟨g, hg⟩ := List.exists_mem_of_ne_nil given h
    have hsome := Json.lookup_of_mem hnodup hg
    rw [(Option.or_eq_none_iff.mp (hkeys g.1)).1] at hsome
    cases hsome

theorem rel_refl (value : Option Json) : Option.Rel Json.Same value value := by
  cases value with
  | none => exact .none
  | some value => exact .some (.refl value)

theorem mergeCallbackResultPayload_eq_none (h : payload.BringsNoResult) : mergeCallbackResultPayload payload = none := by
  rw [mergeCallbackResultPayload_eq, h.1, h.2]
  rfl

theorem mergeCallbackResultPayload_eq_some (h : ¬ payload.BringsNoResult) :
    mergeCallbackResultPayload payload = some (.obj (Json.setFields payload.ownFields payload.metadata)) := by
  rw [mergeCallbackResultPayload_eq]
  refine objOfFields_eq_some.mpr ⟨setFields_ne_nil ?_ (metadata_nodup payload), rfl⟩
  exact or_iff_not_and_not.mpr fun hnil => h ⟨not_not.mp hnil.1, not_not.mp hnil.2⟩

/-- **Both ways store the same result payload** where the metadata says nothing new. -/
theorem sameResult_iff {own : Option Fields} (hown : DumpedFrom payload own) :
    Option.Rel Json.Same ((mergeCallbackResultPayload payload).or stored) ((own.map Json.obj).or stored) ↔
      SameResult stored payload (own.map .obj) := by
  have hnodup := metadata_nodup payload
  cases own with
  | none =>
    have hempty := hown.absent rfl
    show Option.Rel Json.Same _ stored ↔ payload.metadata = [] ∨ _
    by_cases hbrings : payload.BringsNoResult
    · rw [mergeCallbackResultPayload_eq_none hbrings, Option.none_or]
      exact iff_of_true (rel_refl stored) (.inl hbrings.2)
    · rw [mergeCallbackResultPayload_eq_some hbrings, hempty, setFields_nil _ hnodup, Option.some_or]
      exact (or_iff_right fun hnil => hbrings ⟨hempty, hnil⟩).symm
  | some fields =>
    show Option.Rel Json.Same _ (some (.obj fields)) ↔ (if _ then _ else _)
    split
    · rename_i hbrings
      rw [mergeCallbackResultPayload_eq_none hbrings, Option.none_or]
    · rename_i hbrings
      rw [mergeCallbackResultPayload_eq_some hbrings, Option.some_or, ← Json.lookup_setFields_eq_iff hnodup]
      exact ⟨fun h => by cases h with | some h => exact h, fun h => .some h⟩

/-! ## The counts a callback leaves -/

/-- The result payload a callback leaves the fields that are no metadata from: its own, or else the stored one. -/
def callbackSource (stored : Option Json) (payload : RunReport) : Option Json :=
  if payload.ownFields = [] ∧ payload.metadata = [] then stored else some (.obj payload.ownFields)

/-- The counts a callback leaves in the result payload fit: those it gives, and the others where they come from. -/
structure CallbackFits (stored : Option Json) (payload : RunReport) : Prop where
  pullRequest : ∀ v ∈ resultField (callbackSource stored payload) "pull_request", CountFits false false v
  totalTokens : ∀ v ∈ totalTokensField (callbackSource stored payload), CountFits true false v
  turnCount : ∀ v ∈ (payload.turnCount.map Json.int).or (resultField (callbackSource stored payload) "turn_count"),
    CountFits true true v
  durationMs : ∀ v ∈ (payload.durationMs.map Json.int).or (resultField (callbackSource stored payload) "duration_ms"),
    CountFits true true v

theorem resultField_merged (stored : Option Json) (payload : RunReport) (key : String) :
    resultField ((mergeCallbackResultPayload payload).or stored) key =
      (Json.lookup payload.metadata key).or (resultField (callbackSource stored payload) key) := by
  have hnodup := metadata_nodup payload
  rw [mergeCallbackResultPayload_eq, callbackSource]
  split
  · rename_i hempty
    rw [hempty.1, hempty.2]
    rfl
  · rename_i hsome
    have hne := setFields_ne_nil (or_iff_not_and_not.mpr fun h => hsome ⟨not_not.mp h.1, not_not.mp h.2⟩) hnodup
    rw [objOfFields_eq_some.mpr ⟨hne, rfl⟩]
    exact Json.lookup_setFields hnodup key

theorem lookup_metadata_turnCount (payload : RunReport) :
    Json.lookup payload.metadata "turn_count" = payload.turnCount.map .int :=
  lookup_metadata fun v => by
    simp [RunReport.metadataFields, RunReport.metadataTexts, RunReport.metadataCounts, eq_comm]

theorem lookup_metadata_durationMs (payload : RunReport) :
    Json.lookup payload.metadata "duration_ms" = payload.durationMs.map .int :=
  lookup_metadata fun v => by
    simp [RunReport.metadataFields, RunReport.metadataTexts, RunReport.metadataCounts, eq_comm]

theorem lookup_metadata_other (payload : RunReport) {key : String} (h : key ∈ ["pull_request", "usage"]) :
    Json.lookup payload.metadata key = none := by
  refine lookup_metadata fun v => ⟨fun hmem => ?_, nofun⟩
  have hkey : key ∈ payload.metadataFields.map Prod.fst := List.mem_map_of_mem (f := Prod.fst) hmem
  have hapart : ∀ k ∈ ["pull_request", "usage"], k ∉ ["issue_identifier", "runner_kind", "completion_kind",
    "failure_reason", "block_reason", "cancel_reason", "stall_reason", "last_event", "last_message", "session_id",
    "turn_count", "duration_ms"] := by decide
  exact absurd hkey (hapart key h)

/-- **A callback leaves a result payload that fits** exactly where its counts do. -/
theorem callbackFits_iff :
    PayloadFits ((mergeCallbackResultPayload payload).or stored) ↔ CallbackFits stored payload := by
  have hpull : resultField ((mergeCallbackResultPayload payload).or stored) "pull_request" =
      resultField (callbackSource stored payload) "pull_request" := by
    rw [resultField_merged, lookup_metadata_other payload (by simp), Option.none_or]
  have htokens : totalTokensField ((mergeCallbackResultPayload payload).or stored) =
      totalTokensField (callbackSource stored payload) := by
    rw [totalTokensField, resultField_merged, lookup_metadata_other payload (by simp), Option.none_or]
    rfl
  have hturn : resultField ((mergeCallbackResultPayload payload).or stored) "turn_count" =
      (payload.turnCount.map Json.int).or (resultField (callbackSource stored payload) "turn_count") := by
    rw [resultField_merged, lookup_metadata_turnCount]
  have hduration : resultField ((mergeCallbackResultPayload payload).or stored) "duration_ms" =
      (payload.durationMs.map Json.int).or (resultField (callbackSource stored payload) "duration_ms") := by
    rw [resultField_merged, lookup_metadata_durationMs]
  constructor
  · intro h
    exact ⟨hpull ▸ h.pullRequest, htokens ▸ h.totalTokens, hturn ▸ h.turnCount, hduration ▸ h.durationMs⟩
  · intro h
    exact ⟨hpull ▸ h.pullRequest, htokens ▸ h.totalTokens, hturn ▸ h.turnCount, hduration ▸ h.durationMs⟩

/-! ## The same states -/

structure SameRun (run run' : TaskExecutionRun) : Prop where
  resultPayload : Option.Rel Json.Same run.resultPayload run'.resultPayload
  others : run' = { run with resultPayload := run'.resultPayload }

/-- States whose runs differ in the order of the keys of their result payloads only. -/
structure SameState (t t' : Db) : Prop where
  runs : List.Forall₂ SameRun t.runs.rows t'.runs.rows
  others : t' = { t with runs := t'.runs }

theorem SameRun.refl (run : TaskExecutionRun) : SameRun run run := ⟨rel_refl _, rfl⟩

theorem resultField_same {value value' : Option Json} (h : Option.Rel Json.Same value value') (key : String) :
    resultField value key = resultField value' key := by
  cases h with
  | none => rfl
  | some h => exact h.get? key

section Same
variable {value value' : Option Json} (h : Option.Rel Json.Same value value')
include h

theorem extractResultText_same : extractResultText value = extractResultText value' :=
  funext fun key => by rw [extractResultText, resultField_same h, extractResultText]

theorem extractResultInt_same : extractResultInt value = extractResultInt value' :=
  funext fun key => by rw [extractResultInt, resultField_same h, extractResultInt]

theorem extractCounts_same : extractPullRequestNumber value = extractPullRequestNumber value' ∧
    extractTotalTokens value = extractTotalTokens value' := by
  constructor
  · rw [extractPullRequestNumber, resultField_same h, extractPullRequestNumber]
  · rw [extractTotalTokens, totalTokensField, resultField_same h, extractTotalTokens, totalTokensField]

theorem buildPayload_same (texts : List (String × Option String)) :
    buildPayload texts value = buildPayload texts value' := by
  obtain ⟨hpull, htokens⟩ := extractCounts_same h
  simp only [buildPayload, resultPayloadFields, resultPayloadMetadata, extractResultText_same h,
    extractResultInt_same h, hpull, htokens]

end Same

/-- **What is read of a run** is the same, up to the order of the keys. -/
theorem SameRun.toRead {run run' : TaskExecutionRun} (h : SameRun run run') (siloSlug : String) :
    toRead run' siloSlug =
      (toRead run siloSlug).map fun read => { read with resultPayload := run'.resultPayload } := by
  rw [h.others]
  simp only [SiloForge.toRead, ← extractResultText_same h.resultPayload, ← extractResultInt_same h.resultPayload]
  cases extractResultInt run.resultPayload "turn_count" with
  | error e => rfl
  | ok turnCount =>
    cases extractResultInt run.resultPayload "duration_ms" with
    | error e => rfl
    | ok durationMs =>
      dsimp only [bind, Except.bind]
      cases responseInt turnCount with
      | error e => rfl
      | ok turns =>
        dsimp only
        cases responseInt durationMs <;> rfl

theorem find?_sameRun {rows rows' : List TaskExecutionRun} (h : List.Forall₂ SameRun rows rows') {runId : Uuid}
    {run : TaskExecutionRun} (hrun : rows.find? (fun r => key r = runId) = some run) :
    ∃ run', rows'.find? (fun r => key r = runId) = some run' ∧ SameRun run run' := by
  induction h with
  | nil => cases hrun
  | @cons a b rows rows' hab _ ih =>
    have hid : b.id = a.id := by rw [hab.others]
    by_cases hkey : a.id = runId
    · rw [List.find?_cons_of_pos (by exact decide_eq_true hkey)] at hrun
      obtain rfl := Option.some.inj hrun
      exact ⟨b, List.find?_cons_of_pos (by exact decide_eq_true (hid.trans hkey)), hab⟩
    · rw [List.find?_cons_of_neg (by exact fun hpos => hkey (of_decide_eq_true hpos))] at hrun
      obtain ⟨run', hrun', hsame⟩ := ih hrun
      refine ⟨run', ?_, hsame⟩
      rwa [List.find?_cons_of_neg (by exact fun hpos => hkey (hid.symm.trans (of_decide_eq_true hpos)))]

/-! ## The same update of two result payloads -/

section Update
variable {others : RunTexts} {siloSlug : Uuid → String} {db : Db} {now : Time} {organizationId : Uuid} {board : Board}
  {task : Task} {runId : Uuid} {run : TaskExecutionRun} {silo : Silo}

variable {payload : TaskExecutionRunUpdate}

/-- **A report is stored** exactly where it has no status, or the result payload it leaves fits. -/
theorem updateRun_isOk_iff (hrun : findRun db organizationId board.id task.id runId = some run)
    (hsilo : db.silos.get? run.siloId = some silo) :
    (∃ t, updateRun (serviceTexts others siloSlug none) db now organizationId board task runId payload = .ok t) ↔
      (payload.status.isSome = true → PayloadFits (payload.resultPayload.or run.resultPayload)) := by
  constructor
  · rintro ⟨t, ht⟩ hstatus
    exact fits_of_updateRun hrun hstatus ht
  · intro hfit
    cases hstatus : payload.status with
    | some status =>
      have hfit := hfit (by rw [hstatus]; rfl)
      refine updateRun_isOk others siloSlug hrun hsilo hfit fun p hp => ?_
      rw [show payload.resultPayload = some p from hp, Option.some_or] at hfit
      exact hfit
    | none =>
      -- nothing is recorded
      have hevents : recordUpdated (serviceTexts others siloSlug none) db.events now (run.reported now payload) payload
          = .ok db.events := by rw [recordUpdated, hstatus]; rfl
      have hreports : reportEvents (serviceTexts others siloSlug none) now board task (run.reported now payload) payload
          = .ok [] := by rw [reportEvents, hstatus]; rfl
      obtain ⟨t, ht⟩ := applyCallbackTaskEffects_isOk
        { db with runs := db.runs.put (run.reported now payload), events := db.events } hreports
      simp only [updateRun, bind_eq_ok, orFail_eq_ok]
      exact ⟨t, run, hrun, silo, hsilo, db.events, hevents, ht⟩

theorem updateRun_run (hrun : findRun db organizationId board.id task.id runId = some run) {t : Db}
    (ht : updateRun (serviceTexts others siloSlug none) db now organizationId board task runId payload = .ok t) :
    t.runs.get? runId = some (run.reported now payload) := by
  obtain ⟨run', tasks, events, hrun', -, rfl⟩ := updateRun_eq_ok ht
  obtain rfl := Option.some.inj (hrun.symm.trans hrun')
  obtain ⟨hget, hid, -⟩ := findRun_eq_some hrun
  have hkey : key (run.reported now payload) = runId := hid
  show (db.runs.put (run.reported now payload)).get? runId = _
  rw [← hkey]
  exact Table.get?_put_self (hkey ▸ hget)

def SameCounts (own merged : Option Json) : Prop :=
  extractPullRequestNumber merged = extractPullRequestNumber own ∧ extractTotalTokens merged = extractTotalTokens own

section Congr
variable {run run' : TaskExecutionRun} (hrun : SameRun run run') {payload payload' : TaskExecutionRunUpdate}
  (hpayload : payload' = { payload with resultPayload := payload'.resultPayload })
include hrun hpayload

omit hpayload in
theorem activity_same : (serviceTexts others siloSlug none).activity .runUpdated run' =
    (serviceTexts others siloSlug none).activity .runUpdated run := by
  obtain ⟨hpull, htokens⟩ := extractCounts_same hrun.resultPayload
  have hmessage : buildUpdatedMessage run' = buildUpdatedMessage run := by
    funext slug
    rw [hrun.others]
    simp only [buildUpdatedMessage, hpull, htokens]
  have hbuilt : buildRunPayload run' = buildRunPayload run := by
    funext slug
    rw [hrun.others]
    exact (buildPayload_same hrun.resultPayload _).symm
  have hsilo : run'.siloId = run.siloId := by rw [hrun.others]
  simp only [serviceTexts, hmessage, hbuilt, hsilo]

theorem recordUpdated_same (events : List ActivityEvent) :
    recordUpdated (serviceTexts others siloSlug none) events now run' payload' =
      recordUpdated (serviceTexts others siloSlug none) events now run payload := by
  have hstatus : payload'.status = payload.status := by rw [hpayload]
  have hids : run'.taskId = run.taskId ∧ run'.boardId = run.boardId := by
    rw [hrun.others]
    exact ⟨rfl, rfl⟩
  simp only [recordUpdated, recordRun, activity_same hrun, hstatus, hids.1, hids.2]

theorem reportEvents_same (hcounts : SameCounts payload'.resultPayload payload.resultPayload)
    (hreported : Option.Rel Json.Same (reportedPayload run payload) (reportedPayload run' payload')) :
    reportEvents (serviceTexts others siloSlug none) now board task run' payload' =
      reportEvents (serviceTexts others siloSlug none) now board task run payload := by
  have hstatus : payload'.status = payload.status := by rw [hpayload]
  have hmessage : buildCallbackReport run' payload' = buildCallbackReport run payload := by
    rw [hrun.others, hpayload]
    simp only [buildCallbackReport, hcounts.1, hcounts.2]
  have hbuilt : buildCallbackReportPayload run' payload' = buildCallbackReportPayload run payload := by
    have htexts : reportTextFields run' payload' = reportTextFields run payload := by
      rw [hrun.others, hpayload]
      rfl
    rw [buildCallbackReportPayload, htexts]
    exact (buildPayload_same hreported _).symm
  simp only [reportEvents, serviceTexts, hstatus, hmessage, hbuilt]

end Congr

theorem applyCallbackTaskEffects_runs {texts : RunTexts} {run run' : TaskExecutionRun}
    {payload payload' : TaskExecutionRunUpdate} (hstatus : payload'.status = payload.status)
    (hreports : reportEvents texts now board task run' payload' = reportEvents texts now board task run payload)
    (runs : Table TaskExecutionRun) :
    applyCallbackTaskEffects texts { db with runs } now board task run' payload' =
      (applyCallbackTaskEffects texts db now board task run payload).map fun t => { t with runs } := by
  unfold applyCallbackTaskEffects
  rw [hreports, hstatus]
  cases reportEvents texts now board task run payload with
  | error e => rfl
  | ok reports =>
    have htask : callbackTask { db with runs, events := db.events ++ reports } now board task =
        callbackTask { db with events := db.events ++ reports } now board task := rfl
    simp only [bind, Except.bind, htask]
    cases payload.status.bind (callbackTask { db with events := db.events ++ reports } now board task) <;> rfl

/-- **A report is the same with another result payload** of the same counts, where both leave the same one, up to the
order of the keys. -/
theorem updateRun_congr {payload payload' : TaskExecutionRunUpdate}
    (hpayload : payload' = { payload with resultPayload := payload'.resultPayload })
    (hrun : findRun db organizationId board.id task.id runId = some run)
    (hsame : Option.Rel Json.Same (payload.resultPayload.or run.resultPayload)
      (payload'.resultPayload.or run.resultPayload))
    (hcounts : SameCounts payload'.resultPayload payload.resultPayload) :
    updateRun (serviceTexts others siloSlug none) db now organizationId board task runId payload' =
      (updateRun (serviceTexts others siloSlug none) db now organizationId board task runId payload).map fun t =>
        { t with runs := db.runs.put (run.reported now payload') } := by
  have hreported : SameRun (run.reported now payload) (run.reported now payload') := by
    refine ⟨hsame, ?_⟩
    rw [hpayload]
    rfl
  have hstatus : payload'.status = payload.status := by rw [hpayload]
  have hreports : reportEvents (serviceTexts others siloSlug none) now board task (run.reported now payload') payload' =
      reportEvents (serviceTexts others siloSlug none) now board task (run.reported now payload) payload := by
    refine reportEvents_same hreported hpayload hcounts ?_
    rw [reportedPayload_reported, reportedPayload_reported]
    exact hsame
  unfold updateRun
  rw [hrun]
  dsimp only [orFail, bind, Except.bind]
  rw [show (run.reported now payload').siloId = run.siloId from rfl,
    show (run.reported now payload).siloId = run.siloId from rfl, recordUpdated_same hreported hpayload]
  cases db.silos.get? run.siloId with
  | none => rfl
  | some silo =>
    dsimp only
    cases recordUpdated (serviceTexts others siloSlug none) db.events now (run.reported now payload) payload with
    | error e => rfl
    | ok events =>
      exact @applyCallbackTaskEffects_runs { db with runs := db.runs.put (run.reported now payload), events } _ _ _ _ _ _
        _ _ hstatus hreports (db.runs.put (run.reported now payload'))

end Update

/-- The counts of the result payload are those of what is merged, where both ways store the same one. -/
theorem sameCounts_merged {own : Option Fields} (hown : DumpedFrom payload own)
    (hsame : SameResult stored payload (own.map .obj)) :
    SameCounts (own.map .obj) (mergeCallbackResultPayload payload) := by
  have hmerged : ∀ key ∈ ["pull_request", "usage"],
      resultField (mergeCallbackResultPayload payload) key = Json.lookup payload.ownFields key := by
    intro key hkey
    have hfield := resultField_merged none payload key
    rw [Option.or_none, lookup_metadata_other payload hkey, Option.none_or, callbackSource] at hfield
    rw [hfield]
    split
    · rename_i hempty
      rw [hempty.1]
      rfl
    · rfl
  have hpull := hmerged "pull_request" (by simp)
  have husage := hmerged "usage" (by simp)
  cases own with
  | none =>
    rw [hown.absent rfl, Json.lookup_nil] at hpull husage
    rw [SameCounts, extractPullRequestNumber, hpull, extractTotalTokens, totalTokensField, husage]
    exact ⟨rfl, rfl⟩
  | some fields =>
    by_cases hbrings : payload.BringsNoResult
    · -- the fields of the PATCH are null
      rw [hbrings.1, Json.lookup_nil] at hpull husage
      have hnull : ∀ key, resultField (some (.obj fields)) key = none ∨
          resultField (some (.obj fields)) key = some .null := by
        intro key
        cases hlookup : Json.lookup fields key with
        | none => exact .inl hlookup
        | some value =>
          obtain rfl : value = .null := hown.nulls fields rfl hbrings.1 _ (Json.mem_of_lookup hlookup)
          exact .inr hlookup
      rw [SameCounts, extractPullRequestNumber, hpull, extractTotalTokens, totalTokensField, husage]
      constructor
      · rw [Option.map_some, extractPullRequestNumber]
        rcases hnull "pull_request" with h | h
        · rw [h]
        · rw [h]
          rfl
      · rw [Option.map_some, extractTotalTokens, totalTokensField]
        rcases hnull "usage" with h | h
        · rw [h]
        · rw [h]
          rfl
    · obtain ⟨-, hothers⟩ : (_ ∧ _) := (if_neg hbrings).mp hsame
      have hapart : ∀ key ∈ ["pull_request", "usage"], key ∉ payload.metadata.map Prod.fst := by
        intro key hkey hmem
        have hsome := Json.isSome_lookup.mpr hmem
        rw [lookup_metadata_other payload hkey] at hsome
        cases hsome
      rw [hothers _ (hapart _ (by simp))] at hpull husage
      rw [SameCounts, extractPullRequestNumber, hpull, extractTotalTokens, totalTokensField, husage]
      exact ⟨rfl, rfl⟩

/-! ## Both ways -/

def callbackOf (reader : BodyReader) (body : Json) : Option TaskExecutionRunCallback :=
  (parseExecutionCallbackContract reader body).toOption.map (·.toCallback)

def updateOf (reader : BodyReader) (body : Json) : Option TaskExecutionRunUpdate :=
  (TaskExecutionRunUpdate.ofBody reader body).toOption

/-- The states a callback with a body commits. -/
def callbackCommits (env : Env) (reader : BodyReader) (db : Db) (now : Time) (runId : Uuid) (body : Json) : List Db :=
  match parseExecutionCallbackContract reader body with
  | .ok contract => (machine env).commits db { now, op := .callback runId contract }
  | .error _ => []

/-- The states a PATCH with a body commits. -/
def patchCommits (env : Env) (reader : BodyReader) (db : Db) (now : Time) (scope : RunScope) (runId : Uuid)
    (body : Json) : List Db :=
  match TaskExecutionRunUpdate.ofBody reader body with
  | .ok payload => (machine env).commits db { now, op := .updateRun scope runId payload }
  | .error _ => []

/-- A body leaves the same states as a callback and as the PATCH of an operator, up to the order of the keys of result
payloads, so that all that is read later is the same. -/
def ReportsAgree (env : Env) (reader : BodyReader) (db : Db) (now : Time) (userId : Uuid) (run : TaskExecutionRun)
    (body : Json) : Prop :=
  List.Forall₂ SameState (callbackCommits env reader db now run.id body)
    (patchCommits env reader db now
      { userId, organizationId := run.organizationId, boardId := run.boardId, taskId := run.taskId } run.id body)

theorem dumpedFrom_of_parse {reader : BodyReader} {contract : ExecutionCallbackContract} {own : Option Fields}
    (h : own.mapM (readResultPayload reader) = .ok contract.resultPayload) :
    DumpedFrom contract.toCallback.toRunReport own := by
  cases own with
  | none =>
    have hnone : contract.resultPayload = none := (pure_eq_ok.mp h).symm
    refine ⟨fun _ => ?_, fun _ hfields => absurd hfields (Option.not_mem_none _)⟩
    simp only [RunReport.ownFields, ExecutionCallbackContract.toCallback, hnone, Option.map_none]
  | some fields =>
    obtain ⟨read, hread, hsome⟩ := map_eq_ok.mp h
    refine ⟨fun hnone => absurd hnone (Option.some_ne_none fields), fun fields' hfields hnil => ?_⟩
    obtain rfl := Option.some.inj hfields
    refine eq_null_of_excludeNone hread ?_
    simpa only [RunReport.ownFields, ExecutionCallbackContract.toCallback, ← hsome, Option.map_some] using hnil

theorem commits_single_mapError (result : Except Failure Db) (f : Failure → Failure) :
    (Response.single (result.mapError f)).commits = result.toOption.toList := by
  cases result <;> rfl

theorem toList_toOption_eq_nil {result : Except Failure Db} :
    result.toOption.toList = [] ↔ ¬ ∃ t, result = .ok t := by
  cases result <;> simp [Except.toOption]

section Ways
variable {texts : Texts} {others : RunTexts} {siloSlug : Uuid → String} {reader : BodyReader} {db : Db} {now : Time}
  {userId : Uuid} {run : TaskExecutionRun} {board : Board} {task : Task} {silo : Silo} {body : Json}

theorem patchCommits_eq {payload : TaskExecutionRunUpdate} (hbody : TaskExecutionRunUpdate.ofBody reader body = .ok payload)
    (hscope : getBoardAndTask db userId run.organizationId run.boardId run.taskId = .ok (board, task)) :
    patchCommits (serviceEnv texts others siloSlug) reader db now
        { userId, organizationId := run.organizationId, boardId := run.boardId, taskId := run.taskId } run.id body =
      (updateRun (serviceTexts others siloSlug none) db now run.organizationId board task run.id
        payload).toOption.toList := by
  rw [← commits_single_mapError _ Failure.ofValueError, patchCommits, hbody]
  show (Response.single (onRun db _ _)).commits = _
  unfold onRun
  rw [hscope]
  rfl

/-- **A PATCH is refused** where its body is no PATCH, or it has a status and the result payload it leaves does not
fit. -/
theorem patchCommits_eq_nil_iff (hrun : db.runs.get? run.id = some run)
    (hscope : getBoardAndTask db userId run.organizationId run.boardId run.taskId = .ok (board, task))
    (hsilo : db.silos.get? run.siloId = some silo) :
    patchCommits (serviceEnv texts others siloSlug) reader db now
        { userId, organizationId := run.organizationId, boardId := run.boardId, taskId := run.taskId } run.id body = [] ↔
      ¬ ∃ update ∈ updateOf reader body,
        update.status.isSome = true → PayloadFits (update.resultPayload.or run.resultPayload) := by
  obtain ⟨-, hboardId, -, -, htaskId, -⟩ := getBoardAndTask_eq_ok hscope
  have hfind : findRun db run.organizationId board.id task.id run.id = some run := by
    rw [findRun, hrun, hboardId, htaskId]
    simp
  cases hbody : TaskExecutionRunUpdate.ofBody reader body with
  | error e => simp [patchCommits, updateOf, hbody, Except.toOption]
  | ok payload =>
    rw [patchCommits_eq hbody hscope, toList_toOption_eq_nil, updateRun_isOk_iff hfind hsilo, updateOf, hbody]
    simp [Except.toOption]

theorem callbackCommits_eq {contract : ExecutionCallbackContract}
    (hbody : parseExecutionCallbackContract reader body = .ok contract) (hrun : db.runs.get? run.id = some run)
    (hscope : getBoardAndTask db userId run.organizationId run.boardId run.taskId = .ok (board, task))
    (hsilo : db.silos.get? run.siloId = some silo) :
    callbackCommits (serviceEnv texts others siloSlug) reader db now run.id body =
      (updateRun (serviceTexts others siloSlug none) db now run.organizationId board task run.id
        contract.toCallback.toUpdate).toOption.toList := by
  obtain ⟨hboard, -, -, htask, -, -⟩ := getBoardAndTask_eq_ok hscope
  rw [callbackCommits, hbody, ← commits_single_mapError _ Failure.ofValueError]
  show (Response.single (Except.mapError _ (updateRunById _ db now run.id contract.toCallback))).commits = _
  unfold updateRunById
  rw [hrun]
  dsimp only [orFail, bind, Except.bind]
  rw [htask, hboard, hsilo]
  rfl

theorem sameState_reported {payload payload' : TaskExecutionRunUpdate} {t : Db}
    (hfind : findRun db run.organizationId board.id task.id run.id = some run)
    (h : updateRun (serviceTexts others siloSlug none) db now run.organizationId board task run.id payload = .ok t)
    (hsame : SameRun (run.reported now payload) (run.reported now payload')) :
    SameState t { t with runs := db.runs.put (run.reported now payload') } := by
  obtain ⟨found, tasks, events, hfound, -, rfl⟩ := updateRun_eq_ok h
  obtain rfl := Option.some.inj (hfind.symm.trans hfound)
  refine ⟨List.forall₂_map_left_iff.mpr (List.forall₂_map_right_iff.mpr (List.forall₂_same.mpr fun r _ => ?_)), rfl⟩
  show SameRun (if decide (r.id = run.id) then run.reported now payload else r)
    (if decide (r.id = run.id) then run.reported now payload' else r)
  cases decide (r.id = run.id) with
  | false => exact .refl r
  | true => exact hsame

/-- **A body that the contract accepts** is reported the same way by both where the same result payload is stored, or
where both refuse what they leave. -/
theorem reportsAgree_contract {contract : ExecutionCallbackContract} {own : Option Fields}
    (hbody : parseExecutionCallbackContract reader body = .ok contract)
    (hown : DumpedFrom contract.toCallback.toRunReport own)
    (hupdate : TaskExecutionRunUpdate.ofBody reader body = .ok
      { contract.toCallback.toRunReport with resultPayload := own.map .obj, status := some contract.status })
    (hrun : db.runs.get? run.id = some run)
    (hscope : getBoardAndTask db userId run.organizationId run.boardId run.taskId = .ok (board, task))
    (hsilo : db.silos.get? run.siloId = some silo) :
    ReportsAgree (serviceEnv texts others siloSlug) reader db now userId run body ↔
      SameResult run.resultPayload contract.toCallback.toRunReport (own.map .obj) ∨
        ¬ CallbackFits run.resultPayload contract.toCallback.toRunReport ∧
          ¬ PayloadFits ((own.map Json.obj).or run.resultPayload) := by
  obtain ⟨-, hboardId, -, -, htaskId, -⟩ := getBoardAndTask_eq_ok hscope
  have hfind : findRun db run.organizationId board.id task.id run.id = some run := by
    rw [findRun, hrun, hboardId, htaskId]
    simp
  set patch : TaskExecutionRunUpdate :=
    { contract.toCallback.toRunReport with resultPayload := own.map .obj, status := some contract.status } with hpatch
  have hmerged : (∃ t, updateRun (serviceTexts others siloSlug none) db now run.organizationId board task run.id
      contract.toCallback.toUpdate = .ok t) ↔ CallbackFits run.resultPayload contract.toCallback.toRunReport :=
    (updateRun_isOk_iff hfind hsilo).trans ((forall_prop_of_true rfl).trans callbackFits_iff)
  have hfits : (∃ t, updateRun (serviceTexts others siloSlug none) db now run.organizationId board task run.id
      patch = .ok t) ↔ PayloadFits ((own.map Json.obj).or run.resultPayload) :=
    (updateRun_isOk_iff hfind hsilo).trans (forall_prop_of_true rfl)
  have hcongr : SameResult run.resultPayload contract.toCallback.toRunReport (own.map .obj) →
      updateRun (serviceTexts others siloSlug none) db now run.organizationId board task run.id patch =
        (updateRun (serviceTexts others siloSlug none) db now run.organizationId board task run.id
          contract.toCallback.toUpdate).map fun t => { t with runs := db.runs.put (run.reported now patch) } :=
    fun hsame => updateRun_congr rfl hfind ((sameResult_iff hown).mpr hsame) (sameCounts_merged hown hsame)
  rw [ReportsAgree, callbackCommits_eq hbody hrun hscope hsilo, patchCommits_eq hupdate hscope]
  cases hcallback : updateRun (serviceTexts others siloSlug none) db now run.organizationId board task run.id
      contract.toCallback.toUpdate with
  | ok t =>
    have hfitsCallback := hmerged.mp ⟨t, hcallback⟩
    rw [or_iff_left fun hrefused => hrefused.1 hfitsCallback]
    constructor
    · intro hagree
      cases hpatched : updateRun (serviceTexts others siloSlug none) db now run.organizationId board task run.id
          patch with
      | error e =>
        rw [hpatched] at hagree
        cases hagree
      | ok t' =>
        rw [hpatched] at hagree
        obtain ⟨hstate, -⟩ := List.forall₂_cons.mp hagree
        obtain ⟨run', hrun', hsame⟩ := find?_sameRun hstate.runs (updateRun_run hfind hcallback)
        obtain rfl := Option.some.inj ((updateRun_run hfind hpatched).symm.trans hrun')
        exact (sameResult_iff hown).mp hsame.resultPayload
    · intro hsame
      rw [hcongr hsame, hcallback]
      exact .cons (sameState_reported hfind hcallback ⟨(sameResult_iff hown).mpr hsame, rfl⟩) .nil
  | error e =>
    have hrefused : ¬ CallbackFits run.resultPayload contract.toCallback.toRunReport := fun hfit => by
      obtain ⟨t, ht⟩ := hmerged.mpr hfit
      rw [hcallback] at ht
      cases ht
    show List.Forall₂ SameState [] _ ↔ _
    rw [List.forall₂_nil_left_iff, toList_toOption_eq_nil, hfits]
    constructor
    · exact fun hnone => .inr ⟨hrefused, hnone⟩
    · rintro (hsame | ⟨-, hnone⟩)
      · rw [← hfits, hcongr hsame, hcallback]
        rintro ⟨t, ht⟩
        cases ht
      · exact hnone

/-- **Both ways of reporting a run leave the same states** exactly when the contract accepts the report and its metadata
says nothing that is not in the result payload, or both refuse the report. -/
theorem reportsAgree_iff (hrun : db.runs.get? run.id = some run)
    (hscope : getBoardAndTask db userId run.organizationId run.boardId run.taskId = .ok (board, task))
    (hsilo : db.silos.get? run.siloId = some silo) :
    ReportsAgree (serviceEnv texts others siloSlug) reader db now userId run body ↔
      (∃ payload ∈ callbackOf reader body, ∃ update ∈ updateOf reader body,
        SameResult run.resultPayload payload.toRunReport update.resultPayload) ∨
      (¬ ∃ payload ∈ callbackOf reader body, CallbackFits run.resultPayload payload.toRunReport) ∧
        ¬ ∃ update ∈ updateOf reader body,
          update.status.isSome = true → PayloadFits (update.resultPayload.or run.resultPayload) := by
  cases hbody : parseExecutionCallbackContract reader body with
  | error e =>
    rw [ReportsAgree, callbackCommits, hbody]
    simp only [callbackOf, hbody, Except.toOption, Option.map_none, Option.not_mem_none, false_and, exists_false,
      false_or, not_false_eq_true, true_and, List.forall₂_nil_left_iff]
    exact patchCommits_eq_nil_iff hrun hscope hsilo
  | ok contract =>
    obtain ⟨own, hread, hupdate⟩ := ofBody_of_parse hbody
    rw [reportsAgree_contract hbody (dumpedFrom_of_parse hread) hupdate hrun hscope hsilo]
    simp [callbackOf, updateOf, hbody, hupdate, Except.toOption]

end Ways

/-! ## A completion only one way stores -/

namespace Sample

def underway : Db := { db with tasks := ⟨[task], Table.nodup_one task⟩, runs := ⟨[run .running], nodup_run .running⟩ }

def plainReader : BodyReader where
  int?
    | .int n => some n
    | _ => none
  repr _ := ""

def succeeded : Json := .obj [("status", .str "succeeded")]

def completed : Json := .obj [("status", .str "succeeded"), ("completion_kind", .str "success")]

theorem parse_succeeded :
    parseExecutionCallbackContract plainReader succeeded = .ok { status := .succeeded } :=
  parseExecutionCallbackContract_obj (by decide) rfl rfl

theorem parse_completed :
    parseExecutionCallbackContract plainReader completed =
      .ok { status := .succeeded, completionKind := some "success" } :=
  parseExecutionCallbackContract_obj (by decide) rfl rfl

end Sample

theorem reportsAgree_succeeded :
    ReportsAgree (serviceEnv Sample.env.texts Sample.env.runTexts fun _ => "forge") Sample.plainReader Sample.underway 1 1
      (Sample.run .running) Sample.succeeded := by
  refine (@reportsAgree_iff _ _ _ _ _ _ _ _ Sample.board Sample.task _ _ rfl rfl rfl).mpr (.inl ?_)
  refine ⟨{ status := .succeeded }, ?_, { status := some .succeeded }, rfl, .inl rfl⟩
  rw [callbackOf, Sample.parse_succeeded]
  rfl

/-- A callback stores how the run was completed, the PATCH of the same body does not. -/
theorem not_reportsAgree :
    ¬ ∀ (texts : Texts) (others : RunTexts) (siloSlug : Uuid → String) (reader : BodyReader) (db : Db) (now : Time)
      (userId : Uuid) (run : TaskExecutionRun) (board : Board) (task : Task) (silo : Silo) (body : Json),
      db.runs.get? run.id = some run →
        getBoardAndTask db userId run.organizationId run.boardId run.taskId = .ok (board, task) →
          db.silos.get? run.siloId = some silo →
            ReportsAgree (serviceEnv texts others siloSlug) reader db now userId run body := by
  intro h
  have hagree := h Sample.env.texts Sample.env.runTexts (fun _ => "forge") Sample.plainReader Sample.underway 1 1
    (Sample.run .running) Sample.board Sample.task _ Sample.completed rfl rfl rfl
  rw [ReportsAgree, callbackCommits, Sample.parse_completed] at hagree
  obtain ⟨hstate, -⟩ := List.forall₂_cons.mp hagree
  obtain ⟨run', hrun', hsame⟩ := @find?_sameRun _ _ hstate.runs 1 _ rfl
  have hnone : run'.resultPayload = none := by
    obtain rfl := Option.some.inj hrun'
    rfl
  have hrel := hsame.resultPayload
  rw [hnone] at hrel
  cases hrel

end SiloForge
