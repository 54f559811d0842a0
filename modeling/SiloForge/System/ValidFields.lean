import SiloForge.System.Commit
import SiloForge.Tasks.FieldDefinitions

/-!
# Stored values and their definitions

A value of a custom field is checked against its definition when a task is written. A definition may be changed
afterwards, with the values that are stored for it left as they are.

* `FieldsFit` : the invariant: besides, every default passes them too, and no organization has a key twice;
* `fieldMachine` : the requests for definitions and those of the system, one after the other;
* `KeepsValues` : an accepted update of a definition that the stored values pass;
* `valuesValid_iff` : the values stay valid in exactly the runs of such updates.
-/

namespace SiloForge

open Lib

/-! ## Values that are valid -/

def PassesDefinition (texts : Texts) (definition : TaskCustomFieldDefinition) (value : Json) : Prop :=
  validateCustomFieldValue texts definition.fieldType value definition.validationRegex = .ok ()

def ValuesValid (texts : Texts) (db : Db) : Prop :=
  ∀ v ∈ db.customFieldValues, ∃ definition, db.customFields.get? v.definitionId = some definition ∧
    PassesDefinition texts definition v.value

/-- The values are valid, the defaults are, and a field key names one definition of an organization. -/
structure FieldsFit (texts : Texts) (db : Db) : Prop where
  values : ValuesValid texts db
  defaults : ∀ d ∈ db.customFields, PassesDefinition texts d d.defaultValue
  keys : ∀ d ∈ db.customFields, ∀ d' ∈ db.customFields, d.organizationId = d'.organizationId →
    d.fieldKey = d'.fieldKey → d = d'

/-! ## What the requests for tasks store -/

section Stored
variable {texts : Texts} {db : Db} {now : Time} {boardId taskId : Uuid} {values : TaskCustomFieldValues}
  {definitions : List TaskCustomFieldDefinition} {table : Table TaskCustomFieldValue}

theorem passes_of_rejectInvalid {u : Unit} (h : rejectInvalidCustomFieldValues texts values definitions = .ok u)
    {fieldKey : String} {value : Json} (hmem : (fieldKey, value) ∈ values) {definition : TaskCustomFieldDefinition}
    (hfind : definitions.find? (·.fieldKey = fieldKey) = some definition) :
    PassesDefinition texts definition value := by
  have hchecked := forM_eq_ok.mp h _ hmem
  simp only [hfind] at hchecked
  exact mapError_eq_ok.mp hchecked

theorem definitionsForBoard_eq_ok (h : organizationCustomFieldDefinitionsForBoard db boardId = .ok definitions) :
    ∃ organizationId, ∀ d ∈ definitions, d ∈ db.customFields ∧ d.organizationId = organizationId := by
  simp only [organizationCustomFieldDefinitionsForBoard, bind_eq_ok, pure_eq_ok] at h
  obtain ⟨board, -, rfl⟩ := h
  refine ⟨board.organizationId, fun d hd => ?_⟩
  obtain ⟨hmem, hon⟩ := List.mem_filter.mp hd
  exact ⟨hmem, (of_decide_eq_true hon).1⟩

/-- A stored value was there, or passes the checks of a definition. -/
def StoredOrPasses (texts : Texts) (db : Db) (v : TaskCustomFieldValue) : Prop :=
  v ∈ db.customFieldValues ∨ ∃ d ∈ db.customFields, v.definitionId = d.id ∧ PassesDefinition texts d v.value

theorem mem_values_of_create (hdb : FieldsFit texts db)
    (h : setTaskCustomFieldValuesForCreate texts db now boardId taskId values = .ok table) :
    ∀ v ∈ table, StoredOrPasses texts db v := by
  simp only [setTaskCustomFieldValuesForCreate, bind_eq_ok, orFail_eq_ok] at h
  obtain ⟨definitions, hdefs, _, -, _, hvalid, _, -, hinsert⟩ := h
  obtain ⟨organizationId, hmem⟩ := definitionsForBoard_eq_ok hdefs
  intro v hv
  rcases (Table.mem_insertAll? hinsert v).mp hv with hold | hnew
  · exact .inl hold
  · obtain ⟨d, hd, hrow⟩ := List.mem_filterMap.mp hnew
    obtain ⟨hfield, hon⟩ := hmem d hd
    refine .inr ⟨d, hfield, ?_⟩
    have hpasses : PassesDefinition texts d ((lookupValue values d.fieldKey).getD d.defaultValue) := by
      cases hgiven : lookupValue values d.fieldKey with
      | none => exact hdb.defaults d hfield
      | some value =>
        obtain ⟨⟨k, x⟩, hfound, rfl⟩ := Option.map_eq_some_iff.mp hgiven
        obtain rfl : k = d.fieldKey := by simpa using List.find?_some hfound
        refine passes_of_rejectInvalid hvalid (List.mem_of_find?_eq_some hfound) ?_
        -- the key names one definition of the organization
        cases hfind : definitions.find? (·.fieldKey = d.fieldKey) with
        | none => simpa using List.find?_eq_none.mp hfind d hd
        | some d' =>
          obtain ⟨hfield', hon'⟩ := hmem d' (List.mem_of_find?_eq_some hfind)
          have hkey : d'.fieldKey = d.fieldKey := by simpa using List.find?_some hfind
          exact congrArg some (hdb.keys d' hfield' d hfield (hon'.trans hon.symm) hkey)
    split at hrow
    · cases hrow
    · obtain rfl := Option.some.inj hrow
      exact ⟨rfl, hpasses⟩

theorem mem_setCustomFieldValue {table table' : Table TaskCustomFieldValue} {definitionId : Uuid} {value : Json}
    (h : setCustomFieldValue table now taskId definitionId value = some table') :
    ∀ v ∈ table', v ∈ table ∨ v.definitionId = definitionId ∧ v.value = value := by
  intro v hv
  unfold setCustomFieldValue at h
  split at h
  · obtain rfl := Option.some.inj h
    exact .inl (Table.mem_deleteWhere.mp hv).1
  · split at h
    · obtain rfl := Option.some.inj h
      rcases Table.mem_put.mp hv with ⟨hold, -⟩ | ⟨rfl, -⟩
      · exact .inl hold
      · exact .inr ⟨rfl, rfl⟩
    · rcases (Table.mem_insert? h).mp hv with hold | rfl
      · exact .inl hold
      · exact .inr ⟨rfl, rfl⟩

theorem storedOrPasses_foldlM {u : Unit} (hmem : ∀ d ∈ definitions, d ∈ db.customFields)
    (hvalid : rejectInvalidCustomFieldValues texts values definitions = .ok u) (given : TaskCustomFieldValues)
    (hgiven : ∀ x ∈ given, x ∈ values) (before : Table TaskCustomFieldValue)
    (hbefore : ∀ v ∈ before, StoredOrPasses texts db v)
    (hstore : given.foldlM (fun table (fieldKey, value) =>
      match definitions.find? (·.fieldKey = fieldKey) with
      | none => some table
      | some definition => setCustomFieldValue table now taskId definition.id value) before = some table) :
    ∀ v ∈ table, StoredOrPasses texts db v := by
  -- the induction is on the values still to be stored
  induction given generalizing before with
  | nil =>
    obtain rfl := Option.some.inj hstore
    exact hbefore
  | cons x given ih =>
    obtain ⟨fieldKey, value⟩ := x
    rw [List.foldlM_cons] at hstore
    obtain ⟨after, hfirst, hrest⟩ := Option.bind_eq_some_iff.mp hstore
    refine ih (fun y hy => hgiven y (List.mem_cons_of_mem _ hy)) after (fun v hv => ?_) hrest
    cases hfind : definitions.find? (·.fieldKey = fieldKey) with
    | none =>
      simp only [hfind] at hfirst
      obtain rfl := Option.some.inj hfirst
      exact hbefore v hv
    | some d =>
      simp only [hfind] at hfirst
      rcases mem_setCustomFieldValue hfirst v hv with hold | ⟨hid, hvalue⟩
      · exact hbefore v hold
      · refine .inr ⟨d, hmem d (List.mem_of_find?_eq_some hfind), hid, ?_⟩
        rw [hvalue]
        exact passes_of_rejectInvalid hvalid (hgiven _ List.mem_cons_self) hfind

theorem mem_values_of_update (h : setTaskCustomFieldValuesForUpdate texts db now boardId taskId values = .ok table) :
    ∀ v ∈ table, StoredOrPasses texts db v := by
  simp only [setTaskCustomFieldValuesForUpdate, bind_eq_ok, orFail_eq_ok] at h
  obtain ⟨definitions, hdefs, _, -, _, hvalid, _, -, hstore⟩ := h
  obtain ⟨organizationId, hmem⟩ := definitionsForBoard_eq_ok hdefs
  exact storedOrPasses_foldlM (fun d hd => (hmem d hd).1) hvalid values (fun x hx => hx) db.customFieldValues
    (fun v hv => .inl hv) hstore

end Stored

/-! ## What a request does to the values -/

/-- The values in a state a request commits: as they were, without those of a task, or as a new task or a PATCH stores
them. -/
inductive ValuesChange (texts : Texts) (db t : Db) : Prop
  | kept (h : t.customFieldValues = db.customFieldValues)
  | deleted (taskId : Uuid) (h : t.customFieldValues = db.customFieldValues.deleteWhere fun v => v.taskId = taskId)
  | created (now : Time) (boardId taskId : Uuid) (values : TaskCustomFieldValues)
      (h : setTaskCustomFieldValuesForCreate texts db now boardId taskId values = .ok t.customFieldValues)
  | updated (now : Time) (boardId taskId : Uuid) (values : TaskCustomFieldValues)
      (h : setTaskCustomFieldValuesForUpdate texts db now boardId taskId values = .ok t.customFieldValues)

section Changes
variable {env : Env} {texts : Texts} {db t : Db} {request : Request}

theorem valuesChange_of_store {update : TaskUpdateInput}
    (h : storeCustomFieldValues texts db update = .ok t.customFieldValues) : ValuesChange texts db t := by
  unfold storeCustomFieldValues at h
  split at h
  · exact .kept (Except.ok.inj h).symm
  · exact .updated _ _ _ _ h

variable {commits : List Db} {now : Time}

theorem storedValues_of_finalize {update : TaskUpdateInput} {row : AdminUpdate} {agentId : Option Uuid}
    (h : finalizeUpdatedTask texts db update row agentId = .ok commits) (ht : t ∈ commits) :
    storeCustomFieldValues texts db update = .ok t.customFieldValues := by
  obtain ⟨stored, task', hstore, pre, events, rfl, hpre⟩ := finalizeUpdatedTask_eq_ok h
  obtain ⟨-, hvalues, -⟩ := storeUpdatedTask_parts hstore
  have hkept : t.customFieldValues = stored.customFieldValues := by
    rcases List.mem_append.mp ht with ht | ht
    · obtain ⟨events', rfl⟩ := hpre t ht
      rfl
    · obtain rfl := List.mem_singleton.mp ht
      rfl
  rwa [hkept]

theorem storedValues_of_updateTask {boardId taskId : Uuid} {actor : Actor} {payload : TaskUpdate}
    (h : updateTask texts db now boardId taskId actor payload = .ok commits) (ht : t ∈ commits) :
    ∃ task, task.id = taskId ∧
      storeCustomFieldValues texts db { task, boardId, now, updates := payload } = .ok t.customFieldValues := by
  simp only [updateTask, bind_eq_ok] at h
  obtain ⟨ctx, -, board, hboard, task, htask, h⟩ := h
  obtain ⟨-, rfl⟩ := getBoardForActor_eq_ok hboard
  refine ⟨task, (getTaskOr404_eq_ok htask).2.1, ?_⟩
  cases ctx with
  | user userId =>
    simp only [bind_eq_ok] at h
    obtain ⟨_, -, row, -, h⟩ := h
    exact storedValues_of_finalize h ht
  | agent agent =>
    dsimp only at h
    split at h
    · simp only [bind_eq_ok, pure_eq_ok] at h
      obtain ⟨db', hdb', rfl⟩ := h
      obtain rfl := List.mem_singleton.mp ht
      simp only [applyLeadTaskUpdate, bind_eq_ok, pure_eq_ok] at hdb'
      obtain ⟨_, -, _, -, _, -, _, -, _, -, _, -, _, -, _, -, values, hvalues, rfl⟩ := hdb'
      exact hvalues
    · simp only [bind_eq_ok] at h
      obtain ⟨row, -, h⟩ := h
      exact storedValues_of_finalize h ht

theorem valuesChange_of_updateTask {boardId taskId : Uuid} {actor : Actor} {payload : TaskUpdate}
    (h : updateTask texts db now boardId taskId actor payload = .ok commits) (ht : t ∈ commits) :
    ValuesChange texts db t := by
  obtain ⟨task, -, hstore⟩ := storedValues_of_updateTask h ht
  exact valuesChange_of_store hstore

theorem storeNewTask_values {board : Board} {task : Task} {payload : TaskCreate} {deps tagIds : List Uuid}
    {stored : Db} (h : storeNewTask texts db now board task payload deps tagIds = .ok stored) :
    setTaskCustomFieldValuesForCreate texts db now board.id task.id payload.customFieldValues =
      .ok stored.customFieldValues := by
  simp only [storeNewTask, bind_eq_ok, pure_eq_ok] at h
  obtain ⟨_, -, values, hvalues, _, -, _, -, rfl⟩ := h
  exact hvalues

theorem valuesChange_of_create {board : Board} {task : Task} {payload : TaskCreate} {deps tagIds : List Uuid}
    {stored : Db} (h : storeNewTask texts db now board task payload deps tagIds = .ok stored)
    (hkept : t.customFieldValues = stored.customFieldValues) : ValuesChange texts db t := by
  have hvalues := storeNewTask_values h
  rw [← hkept] at hvalues
  exact .created _ _ _ _ hvalues

theorem valuesChange_of_commit (h : Commit db request t) (hother : request.op.written? = none)
    (hdelete : ∀ boardId taskId actor, request.op ≠ .deleteTask boardId taskId actor) : ValuesChange texts db t := by
  cases h with
  | created _ _ _ _ _ _ _ _ _ hop =>
    rw [Operation.written?_of_creation? hop] at hother
    cases hother
  | patched _ _ _ _ _ _ _ _ _ _ hop | reconciled _ _ _ _ _ _ _ _ _ _ hop =>
    rw [hop] at hother
    cases hother
  | deleted _ _ _ _ _ _ hop => exact absurd hop (hdelete _ _ _)
  | _ => exact .kept rfl

/-- **What a request does to the values.** -/
theorem valuesChange_of_mem (h : t ∈ (machine env).commits db request) : ValuesChange env.texts db t := by
  obtain ⟨now, op⟩ := request
  cases op with
  | createTask boardId taskId userId payload =>
    obtain ⟨commits, hok, ht⟩ := Response.mem_ofExcept.mp h
    simp only [createTask, bind_eq_ok, pure_eq_ok] at hok
    obtain ⟨board, -, ⟨deps, tagIds⟩, -, stored, hstore, rfl⟩ := hok
    rcases List.mem_pair.mp ht with rfl | rfl <;> exact valuesChange_of_create hstore rfl
  | createTaskAsLead boardId taskId agentId payload =>
    obtain ⟨commits, hok, ht⟩ := Response.mem_ofExcept.mp h
    simp only [createTaskAsLead, bind_eq_ok, pure_eq_ok] at hok
    obtain ⟨lead, -, board, -, _, -, _, -, ⟨deps, tagIds⟩, -, _, -, stored, hstore, rfl⟩ := hok
    rcases List.mem_pair.mp ht with rfl | rfl <;> exact valuesChange_of_create hstore rfl
  | updateTask boardId taskId actor payload =>
    obtain ⟨commits, hok, ht⟩ := Response.mem_ofExcept.mp h
    exact valuesChange_of_updateTask hok ht
  | deleteTask boardId taskId actor =>
    have hok := Response.mem_single.mp h
    simp only [deleteTask, bind_eq_ok] at hok
    obtain ⟨ctx, -, board, -, task, -, hok⟩ := hok
    cases ctx <;>
    · simp only [bind_eq_ok, deleteTaskAndRelatedRecords, require_eq_ok, pure_eq_ok] at hok
      obtain ⟨_, -, _, -, _, -, rfl⟩ := hok
      exact .deleted task.id rfl
  | _ => exact valuesChange_of_commit (commit_of_mem h) rfl (by simp)

theorem ValuesChange.storedOrPasses (h : ValuesChange texts db t) (hdb : FieldsFit texts db) :
    ∀ v ∈ t.customFieldValues, StoredOrPasses texts db v := by
  cases h with
  | kept h => exact fun v hv => .inl (h ▸ hv)
  | deleted taskId h =>
    rw [h]
    exact fun v hv => .inl (Table.mem_deleteWhere.mp hv).1
  | created now boardId taskId values h => exact mem_values_of_create hdb h
  | updated now boardId taskId values h => exact mem_values_of_update h

theorem Commit.customFields (h : Commit db request t) : t.customFields = db.customFields := by cases h <;> rfl

end Changes

/-! ## Definitions and tasks -/

inductive FieldOperation where
  | create (userId organizationId definitionId : Uuid) (payload : TaskCustomFieldDefinitionCreate)
  | update (userId organizationId definitionId : Uuid) (payload : TaskCustomFieldDefinitionUpdate)
  | delete (userId organizationId definitionId : Uuid)
  | request (request : Request)

def fieldMachine (env : Env) : Machine Db FieldOperation where
  commits db
    | .create userId organizationId definitionId payload =>
      (Response.single (createOrgCustomField env.texts db userId organizationId definitionId payload)).commits
    | .update userId organizationId definitionId payload =>
      (Response.single (updateOrgCustomField env.texts db userId organizationId definitionId payload)).commits
    | .delete userId organizationId definitionId =>
      (Response.single (deleteOrgCustomField db userId organizationId definitionId)).commits
    | .request request => (machine env).commits db request

/-- The stored values pass the definition an accepted update makes. -/
def KeepsValues (texts : Texts) (db : Db) : FieldOperation → Prop
  | .update userId organizationId definitionId payload =>
    ∀ definition, UpdateAllowed texts db userId organizationId definitionId payload definition →
      ∀ v ∈ db.customFieldValues, v.definitionId = definitionId →
        PassesDefinition texts (definition.update payload) v.value
  | _ => True

section Steps
variable {env : Env} {texts : Texts} {db t : Db}

theorem FieldsFit.request (hdb : FieldsFit texts db) (hchange : ValuesChange texts db t)
    (hfields : t.customFields = db.customFields) : FieldsFit texts t := by
  refine ⟨fun v hv => ?_, hfields ▸ hdb.defaults, hfields ▸ hdb.keys⟩
  rw [hfields]
  rcases hchange.storedOrPasses hdb v hv with hold | ⟨d, hd, hid, hpasses⟩
  · exact hdb.values v hold
  · exact ⟨d, hid ▸ Table.get?_key hd, hpasses⟩

variable {organizationId definitionId : Uuid} {payload : TaskCustomFieldDefinitionUpdate}

theorem FieldsFit.create (hdb : FieldsFit texts db) {userId : Uuid} {payload : TaskCustomFieldDefinitionCreate}
    (h : createOrgCustomField texts db userId organizationId definitionId payload = .ok t) : FieldsFit texts t := by
  obtain ⟨definition, customFields, _, -, hkey, hdefault, hinsert, rfl⟩ := createOrgCustomField_eq_ok h
  have hrows : ∀ d, d ∈ customFields ↔ d ∈ db.customFields ∨ d = definition := fun d => Table.mem_insert? hinsert
  refine ⟨fun v hv => ?_, fun d hd => ?_, fun d hd d' hd' hon hsame => ?_⟩
  · obtain ⟨d, hget, hpasses⟩ := hdb.values v hv
    refine ⟨d, ?_, hpasses⟩
    rw [Table.get?_insert? hinsert, if_neg, hget]
    rintro heq
    rw [heq, (Table.insert?_eq_some hinsert).2] at hget
    cases hget
  · rcases (hrows d).mp hd with hold | rfl
    · exact hdb.defaults d hold
    · exact hdefault
  · rcases (hrows d).mp hd with hold | rfl <;> rcases (hrows d').mp hd' with hold' | rfl
    · exact hdb.keys d hold d' hold' hon hsame
    · exact absurd hsame (hkey d hold hon)
    · exact absurd hsame.symm (hkey d' hold' hon.symm)
    · rfl

theorem FieldsFit.delete (hdb : FieldsFit texts db) {userId : Uuid}
    (h : deleteOrgCustomField db userId organizationId definitionId = .ok t) : FieldsFit texts t := by
  obtain ⟨hnone, _, rfl⟩ := deleteOrgCustomField_eq_ok h
  refine ⟨fun v hv => ?_, fun d hd => hdb.defaults d (Table.mem_deleteWhere.mp hd).1, fun d hd d' hd' =>
    hdb.keys d (Table.mem_deleteWhere.mp hd).1 d' (Table.mem_deleteWhere.mp hd').1⟩
  obtain ⟨d, hget, hpasses⟩ := hdb.values v hv
  refine ⟨d, ?_, hpasses⟩
  have hid : d.id ≠ definitionId := fun heq => hnone v hv ((Table.key_of_get? hget).symm.trans heq)
  rw [Table.get?_deleteWhere, hget, Option.filter_some, if_pos (by simpa using hid)]

theorem FieldsFit.valid_update_iff (hdb : FieldsFit texts db) {definition : TaskCustomFieldDefinition} {bindings}
    (hfound : db.customFields.get? definition.id = some definition) :
    ValuesValid texts { db with customFields := db.customFields.put (definition.update payload)
                                boardCustomFields := bindings } ↔
      ∀ v ∈ db.customFieldValues, v.definitionId = definition.id →
        PassesDefinition texts (definition.update payload) v.value := by
  have hself : (db.customFields.put (definition.update payload)).get? definition.id =
      some (definition.update payload) := Table.get?_put_self hfound
  constructor
  · intro h v hv hid
    obtain ⟨d, hget, hpasses⟩ := h v hv
    rw [hid] at hget
    obtain rfl := Option.some.inj (hself.symm.trans hget)
    exact hpasses
  · intro h v hv
    by_cases hid : v.definitionId = definition.id
    · exact ⟨_, hid ▸ hself, h v hv hid⟩
    · obtain ⟨d, hget, hpasses⟩ := hdb.values v hv
      exact ⟨d, (Table.get?_put_ne hid).trans hget, hpasses⟩

theorem FieldsFit.update (hdb : FieldsFit texts db) {userId : Uuid}
    (h : updateOrgCustomField texts db userId organizationId definitionId payload = .ok t)
    (hkeeps : KeepsValues texts db (.update userId organizationId definitionId payload)) : FieldsFit texts t := by
  obtain ⟨definition, bindings, hallowed, rfl⟩ := updateOrgCustomField_eq_ok h
  obtain ⟨hget, rfl, -⟩ := getOrgDefinition_eq_ok hallowed.found
  have hrow : ∀ d ∈ db.customFields.put (definition.update payload),
      ∃ d₀ ∈ db.customFields, d₀.organizationId = d.organizationId ∧ d₀.fieldKey = d.fieldKey ∧ d₀.id = d.id ∧
        PassesDefinition texts d d.defaultValue := by
    intro d hd
    rcases Table.mem_put.mp hd with ⟨hold, -⟩ | ⟨rfl, -⟩
    · exact ⟨d, hold, rfl, rfl, rfl, hdb.defaults d hold⟩
    · exact ⟨definition, Table.mem_of_get? hget, rfl, rfl, rfl, validateCustomFieldDefinition_eq_ok hallowed.valid⟩
  refine ⟨(hdb.valid_update_iff hget).mpr (hkeeps definition hallowed), fun d hd => ?_,
    fun d hd d' hd' hon hsame => ?_⟩
  · obtain ⟨_, -, -, -, -, hpasses⟩ := hrow d hd
    exact hpasses
  · obtain ⟨d₀, hd₀, hon₀, hkey₀, hid₀, -⟩ := hrow d hd
    obtain ⟨d₁, hd₁, hon₁, hkey₁, hid₁, -⟩ := hrow d' hd'
    obtain rfl := hdb.keys d₀ hd₀ d₁ hd₁ (hon₀.trans (hon.trans hon₁.symm)) (hkey₀.trans (hsame.trans hkey₁.symm))
    exact Table.eq_of_key_eq hd hd' (hid₀.symm.trans hid₁)

theorem FieldsFit.step (hdb : FieldsFit env.texts db) {op : FieldOperation} (hkeeps : KeepsValues env.texts db op)
    (ht : t ∈ (fieldMachine env).commits db op) : FieldsFit env.texts t := by
  cases op with
  | create userId organizationId definitionId payload => exact hdb.create (Response.mem_single.mp ht)
  | update userId organizationId definitionId payload => exact hdb.update (Response.mem_single.mp ht) hkeeps
  | delete userId organizationId definitionId => exact hdb.delete (Response.mem_single.mp ht)
  | request request => exact hdb.request (valuesChange_of_mem ht) (commit_of_mem ht).customFields

/-- The steps that commit valid values only are those that keep them. -/
theorem FieldsFit.valid_step_iff (hdb : FieldsFit env.texts db) (op : FieldOperation) :
    (∀ t ∈ (fieldMachine env).commits db op, ValuesValid env.texts t) ↔ KeepsValues env.texts db op := by
  refine ⟨fun h => ?_, fun hkeeps t ht => (hdb.step hkeeps ht).values⟩
  cases op with
  | update userId organizationId definitionId payload =>
    intro definition hallowed
    obtain ⟨bindings, hok⟩ := exists_updateOrgCustomField hallowed
    obtain ⟨hget, rfl, -⟩ := getOrgDefinition_eq_ok hallowed.found
    exact (hdb.valid_update_iff hget).mp (h _ (Response.mem_single.mpr hok))
  | _ => exact trivial

def ValuesStayValid (env : Env) (db : Db) (ops : List FieldOperation) : Prop :=
  ∀ t ∈ (fieldMachine env).committed db ops, ValuesValid env.texts t

/-- **Stored values stay valid** in exactly the runs whose updates of definitions pass the values that are stored for
them. -/
theorem valuesValid_iff (hdb : FieldsFit env.texts db) (ops : List FieldOperation) :
    ValuesStayValid env db ops ↔ (fieldMachine env).Along (KeepsValues env.texts) db ops :=
  Machine.forall_committed_iff_along (FieldsFit env.texts) (fun _ _ hfit hkeeps _ ht => hfit.step hkeeps ht)
    (fun _ op hfit => hfit.valid_step_iff op) hdb

end Steps

namespace Sample

def sizeField : TaskCustomFieldDefinition := { id := 1, organizationId := 1, fieldKey := "size", fieldType := .text }

def sizeValue : TaskCustomFieldValue := { taskId := 1, definitionId := 1, value := .str "ten", updatedAt := 0 }

def sizedTask : Db :=
  { db with
    tasks := ⟨[task], Table.nodup_one task⟩
    customFields := ⟨[sizeField], by decide⟩
    boardCustomFields := ⟨[{ boardId := 1, definitionId := 1 }], by decide⟩
    customFieldValues := ⟨[sizeValue], by decide⟩ }

def retypes (fieldType : TaskCustomFieldType) : FieldOperation := .update 1 1 1 { fieldType := some fieldType }

theorem fieldsFit_sizedTask : FieldsFit env.texts sizedTask := by
  refine ⟨fun v hv => ?_, fun d hd => ?_, fun d hd d' hd' _ _ => ?_⟩
  · obtain rfl := List.mem_singleton.mp hv
    exact ⟨sizeField, rfl, rfl⟩
  · obtain rfl := List.mem_singleton.mp hd
    rfl
  · exact (List.mem_singleton.mp hd).trans (List.mem_singleton.mp hd').symm

end Sample

/-- Texts of any length pass a field that is made one of long texts. -/
theorem valuesValid_retyped : ValuesStayValid Sample.env Sample.sizedTask [Sample.retypes .textLong] := by
  refine (valuesValid_iff Sample.fieldsFit_sizedTask _).mpr ⟨fun definition hallowed v hv _ => ?_, trivial⟩
  obtain rfl := List.mem_singleton.mp hv
  obtain ⟨hget, -⟩ := getOrgDefinition_eq_ok hallowed.found
  obtain rfl := List.mem_singleton.mp (Table.mem_of_get? hget)
  rfl

/-- A text that is stored stays where its field is made one of integers. -/
theorem not_valuesValid :
    ¬ ∀ (env : Env) (db : Db) (ops : List FieldOperation), FieldsFit env.texts db → ValuesStayValid env db ops := by
  intro h
  have hvalid := h Sample.env Sample.sizedTask [Sample.retypes .integer] Sample.fieldsFit_sizedTask
  have hkeeps := (Sample.fieldsFit_sizedTask.valid_step_iff (Sample.retypes .integer)).mp fun t ht =>
    hvalid t (List.mem_append_left _ ht)
  have hallowed : UpdateAllowed Sample.env.texts Sample.sizedTask 1 1 1 { fieldType := some .integer }
      Sample.sizeField := ⟨rfl, rfl, ⟨none, rfl⟩, rfl⟩
  exact nomatch hkeeps _ hallowed _ (List.mem_singleton_self _) rfl


end SiloForge
