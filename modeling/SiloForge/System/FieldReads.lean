import SiloForge.Boards.TaskReads
import SiloForge.System.ValidFields

/-!
# Custom fields read back

The required fields of a request are checked on effective values: the one the request gives, or else the stored one, or
else the default. Null is stored as the absence of a row, which a read takes for the default.

* `effectiveValue` : what the check is applied to; `storedValues_of_mem` : the values a request stores;
* `FieldsReadBack` : the effective values are read back, and no required one is null;
* `ClearsToDefault` : the request sets a field to null whose default is another value;
* `fieldsReadBack_iff` : exactly the requests that do not are read back.
-/

namespace SiloForge

open Lib

/-- What the tables promise: an organization has a field key once, and values belong to tasks. -/
structure FieldRows (db : Db) : Prop where
  keys : ∀ d ∈ db.customFields, ∀ d' ∈ db.customFields, d.organizationId = d'.organizationId →
    d.fieldKey = d'.fieldKey → d = d'
  tasks : ∀ v ∈ db.customFieldValues, (db.tasks.get? v.taskId).isSome

def Operation.fieldValues? : Operation → Option (Uuid × Uuid × TaskCustomFieldValues)
  | .createTask boardId taskId _ payload | .createTaskAsLead boardId taskId _ payload =>
    some (boardId, taskId, payload.customFieldValues)
  | .updateTask boardId taskId _ payload => payload.customFieldValues.map fun values => (boardId, taskId, values)
  | _ => none

/-- The value of a field a request is checked for: its own, null included, or the stored one, or the default. -/
def effectiveValue (db : Db) (taskId : Uuid) (values : TaskCustomFieldValues)
    (definition : TaskCustomFieldDefinition) : Json :=
  match lookupValue values definition.fieldKey, taskValues db.customFieldValues taskId definition.id with
  | some value, _ => value
  | none, some value => value
  | none, none => definition.defaultValue

/-- The effective values are read back in `t`, and the required ones are not null. -/
def FieldsReadBack (db t : Db) (boardId taskId : Uuid) (values : TaskCustomFieldValues)
    (definitions : List TaskCustomFieldDefinition) : Prop :=
  ∀ taskIds : List Uuid, taskId ∈ taskIds → ∃ read, taskCustomFieldValuesByTaskId t boardId taskIds = .ok read ∧
    ∀ d ∈ definitions, lookupValue (read taskId) d.fieldKey = some (effectiveValue db taskId values d) ∧
      (d.required = true → lookupValue (read taskId) d.fieldKey ≠ some .null)

def ClearsToDefault (values : TaskCustomFieldValues) (definitions : List TaskCustomFieldDefinition) : Prop :=
  ∃ d ∈ definitions, lookupValue values d.fieldKey = some .null ∧ d.defaultValue ≠ .null

/-! ## What the requests store -/

section Stored
variable {env : Env} {texts : Texts} {db t : Db} {request : Request} {now : Time} {boardId taskId : Uuid}
  {values : TaskCustomFieldValues} {definitions : List TaskCustomFieldDefinition}
  {table : Table TaskCustomFieldValue}

theorem isNull_eq_true {value : Json} : isNull value = true ↔ value = .null := by
  cases value <;> simp [isNull]

theorem getD_storedValue {value default : Json} :
    (storedValue value).getD default = value ↔ (value = .null → default = .null) := by
  cases value <;> simp [storedValue]

structure KeyedDefinitions (definitions : List TaskCustomFieldDefinition) : Prop where
  keys : ∀ d ∈ definitions, ∀ d' ∈ definitions, d.fieldKey = d'.fieldKey → d = d'
  ids : ∀ d ∈ definitions, ∀ d' ∈ definitions, d.id = d'.id → d = d'

theorem FieldRows.keyed (hdb : FieldRows db)
    (h : organizationCustomFieldDefinitionsForBoard db boardId = .ok definitions) : KeyedDefinitions definitions := by
  obtain ⟨organizationId, hmem⟩ := definitionsForBoard_eq_ok h
  refine ⟨fun d hd d' hd' hkey => ?_, fun d hd d' hd' hid => ?_⟩
  · exact hdb.keys d (hmem d hd).1 d' (hmem d' hd').1 ((hmem d hd).2.trans (hmem d' hd').2.symm) hkey
  · exact Table.eq_of_key_eq (hmem d hd).1 (hmem d' hd').1 hid

variable {d : TaskCustomFieldDefinition}

theorem KeyedDefinitions.find? (h : KeyedDefinitions definitions) (hd : d ∈ definitions) :
    definitions.find? (·.fieldKey = d.fieldKey) = some d := by
  cases hfind : definitions.find? (·.fieldKey = d.fieldKey) with
  | none => simpa using List.find?_eq_none.mp hfind d hd
  | some d' =>
    have hkey : d'.fieldKey = d.fieldKey := by simpa using List.find?_some hfind
    exact congrArg some (h.keys d' (List.mem_of_find?_eq_some hfind) d hd hkey)

theorem KeyedDefinitions.lookupValue (h : KeyedDefinitions definitions) (hd : d ∈ definitions)
    (f : TaskCustomFieldDefinition → Json) :
    SiloForge.lookupValue (definitions.map fun d => (d.fieldKey, f d)) d.fieldKey = some (f d) := by
  have hfind := h.find? hd
  rw [SiloForge.lookupValue, List.find?_map]
  simp only [Function.comp_def]
  rw [hfind]
  rfl

theorem foldl_setValue (h : KeyedDefinitions definitions) (hkeys : (values.map Prod.fst).Nodup) (hd : d ∈ definitions)
    (f : Uuid → Option Json) : values.foldl (setValue definitions) f d.id
      = match lookupValue values d.fieldKey with
        | some value => storedValue value
        | none => f d.id := by
  induction values generalizing f with
  | nil => rfl
  | cons v values ih =>
    obtain ⟨fieldKey, value⟩ := v
    obtain ⟨hfresh, hkeys⟩ := List.nodup_cons.mp hkeys
    rw [List.foldl_cons, ih hkeys]
    unfold lookupValue
    rw [List.find?_cons]
    by_cases hkey : fieldKey = d.fieldKey
    · subst hkey
      -- the key comes once, so what is stored for it stays
      have hnone : values.find? (fun v => decide (v.1 = d.fieldKey)) = none :=
        List.find?_eq_none.mpr fun v hv hk => hfresh (List.mem_map.mpr ⟨v, hv, of_decide_eq_true hk⟩)
      rw [hnone, decide_eq_true rfl]
      simp only [Option.map_none, Option.map_some, setValue, h.find? hd, if_true]
    · rw [decide_eq_false hkey]
      have hother : setValue definitions f (fieldKey, value) d.id = f d.id := by
        unfold setValue
        cases hfind : definitions.find? (·.fieldKey = fieldKey) with
        | none => rfl
        | some d' =>
          refine if_neg fun hid => hkey ?_
          have hkey' : d'.fieldKey = fieldKey := by simpa using List.find?_some hfind
          rw [h.ids d hd d' (List.mem_of_find?_eq_some hfind) hid, hkey']
      rw [hother]

theorem taskValues_of_create (hdb : FieldRows db) (hnew : db.tasks.get? taskId = none)
    (hdefs : organizationCustomFieldDefinitionsForBoard db boardId = .ok definitions)
    (h : setTaskCustomFieldValuesForCreate texts db now boardId taskId values = .ok table) (hd : d ∈ definitions) :
    taskValues table taskId d.id = storedValue ((lookupValue values d.fieldKey).getD d.defaultValue) := by
  have hids := (hdb.keyed hdefs).ids
  simp only [setTaskCustomFieldValuesForCreate, bind_eq_ok, orFail_eq_ok, hdefs, Except.ok.injEq] at h
  obtain ⟨_, rfl, _, -, _, -, _, -, hinsert⟩ := h
  have hmem := Table.mem_insertAll? hinsert
  have hold : ∀ v ∈ db.customFieldValues, v.taskId ≠ taskId := by
    intro v hv hid
    have hsome := hdb.tasks v hv
    rw [hid, hnew] at hsome
    cases hsome
  unfold taskValues
  cases heffective : storedValue ((lookupValue values d.fieldKey).getD d.defaultValue) with
  | none =>
    rw [Option.map_eq_none_iff, Table.get?_eq_none]
    intro v hv hkey
    obtain ⟨htask, hdefinition⟩ := Prod.mk.inj hkey
    rcases (hmem v).mp hv with hv | hv
    · exact hold v hv htask
    · obtain ⟨d', hd', hrow⟩ := List.mem_filterMap.mp hv
      split at hrow
      · cases hrow
      · rename_i hvalue
        obtain rfl := Option.some.inj hrow
        obtain rfl := hids d' hd' d hd hdefinition
        generalize (lookupValue values d'.fieldKey).getD d'.defaultValue = value at heffective hvalue
        cases value <;> first | exact absurd rfl hvalue | cases heffective
  | some value =>
    refine Option.map_eq_some_iff.mpr ⟨{ taskId, definitionId := d.id, value, updatedAt := now }, ?_, rfl⟩
    refine Table.get?_eq_some.mpr ⟨(hmem _).mpr (.inr (List.mem_filterMap.mpr ⟨d, hd, ?_⟩)), rfl⟩
    generalize (lookupValue values d.fieldKey).getD d.defaultValue = effective at heffective
    cases effective <;> cases heffective <;> rfl

theorem effectiveValue_of_create (hdb : FieldRows db) (hnew : db.tasks.get? taskId = none)
    (values : TaskCustomFieldValues) (d : TaskCustomFieldDefinition) :
    effectiveValue db taskId values d = (lookupValue values d.fieldKey).getD d.defaultValue := by
  have hnone : taskValues db.customFieldValues taskId d.id = none := by
    refine Option.map_eq_none_iff.mpr (Table.get?_eq_none.mpr fun v hv hkey => ?_)
    have hsome := hdb.tasks v hv
    rw [(Prod.mk.inj hkey).1, hnew] at hsome
    cases hsome
  unfold effectiveValue
  rw [hnone]
  cases lookupValue values d.fieldKey <;> rfl

theorem ne_null_of_required {effective : TaskCustomFieldDefinition → Json} {u : Unit}
    (h : rejectMissingRequiredCustomFieldKeys effective definitions = .ok u) (hd : d ∈ definitions)
    (hrequired : d.required = true) : effective d ≠ .null := by
  have hmissing := require_eq_ok.mp h
  rw [List.map_eq_nil_iff, List.filter_eq_nil_iff] at hmissing
  have hnot := hmissing d hd
  rw [hrequired, Bool.true_and, isNull_eq_true] at hnot
  exact hnot

structure StoresEffective (db : Db) (taskId : Uuid) (values : TaskCustomFieldValues)
    (table : Table TaskCustomFieldValue) (d : TaskCustomFieldDefinition) : Prop where
  given : ∀ value, lookupValue values d.fieldKey = some value → taskValues table taskId d.id = storedValue value
  absent : lookupValue values d.fieldKey = none →
    (taskValues table taskId d.id).getD d.defaultValue = effectiveValue db taskId values d
  required : d.required = true → effectiveValue db taskId values d ≠ .null

theorem storesEffective_of_create (hdb : FieldRows db) (hnew : db.tasks.get? taskId = none)
    (hdefs : organizationCustomFieldDefinitionsForBoard db boardId = .ok definitions)
    (h : setTaskCustomFieldValuesForCreate texts db now boardId taskId values = .ok table) (hd : d ∈ definitions) :
    StoresEffective db taskId values table d := by
  have hstored := taskValues_of_create hdb hnew hdefs h hd
  have heffective := effectiveValue_of_create hdb hnew values d
  refine ⟨fun value hgiven => ?_, fun habsent => ?_, fun hrequired => ?_⟩
  · rw [hstored, hgiven, Option.getD_some]
  · rw [hstored, heffective, habsent, Option.getD_none]
    exact getD_storedValue.mpr id
  · simp only [setTaskCustomFieldValuesForCreate, bind_eq_ok, orFail_eq_ok, hdefs, Except.ok.injEq] at h
    obtain ⟨_, rfl, _, -, _, -, _, hmissing, -⟩ := h
    rw [heffective]
    exact ne_null_of_required hmissing hd hrequired

theorem storesEffective_of_update (hdb : FieldRows db) (hkeys : (values.map Prod.fst).Nodup)
    (hdefs : organizationCustomFieldDefinitionsForBoard db boardId = .ok definitions)
    (h : setTaskCustomFieldValuesForUpdate texts db now boardId taskId values = .ok table) (hd : d ∈ definitions) :
    StoresEffective db taskId values table d := by
  obtain ⟨definitions', hdefs', hfold⟩ := taskValues_of_update h
  obtain rfl := Except.ok.inj (hdefs.symm.trans hdefs')
  have hstored := foldl_setValue (hdb.keyed hdefs) hkeys hd (taskValues db.customFieldValues taskId)
  rw [← hfold] at hstored
  refine ⟨fun value hgiven => ?_, fun habsent => ?_, fun hrequired => ?_⟩
  · rw [hstored, hgiven]
  · rw [hstored, effectiveValue, habsent]
    cases taskValues db.customFieldValues taskId d.id <;> rfl
  · simp only [setTaskCustomFieldValuesForUpdate, bind_eq_ok, orFail_eq_ok, hdefs, Except.ok.injEq] at h
    obtain ⟨_, rfl, _, -, _, -, _, hmissing, -⟩ := h
    have hchecked := ne_null_of_required hmissing hd hrequired
    unfold effectiveValue taskValues
    cases hgiven : lookupValue values d.fieldKey with
    | some value =>
      simpa [hgiven] using hchecked
    | none =>
      cases hrow : db.customFieldValues.get? (taskId, d.id) with
      | none => simpa [hgiven, hrow] using hchecked
      | some row => simpa [hgiven, hrow] using hchecked

/-- **What a request that gives values stores**: the values of a new task, or those of a PATCH. -/
theorem storedValues_of_mem (ht : t ∈ (machine env).commits db request)
    (hop : request.op.fieldValues? = some (boardId, taskId, values)) :
    (db.tasks.get? taskId = none ∧
      setTaskCustomFieldValuesForCreate env.texts db request.now boardId taskId values = .ok t.customFieldValues) ∨
    setTaskCustomFieldValuesForUpdate env.texts db request.now boardId taskId values = .ok t.customFieldValues := by
  have hcreated : ∀ {board : Board} {task : Task} {payload : TaskCreate} {deps tagIds : List Uuid} {stored : Db},
      storeNewTask env.texts db request.now board task payload deps tagIds = .ok stored →
        t.customFieldValues = stored.customFieldValues → db.tasks.get? task.id = none ∧
          setTaskCustomFieldValuesForCreate env.texts db request.now board.id task.id payload.customFieldValues
            = .ok t.customFieldValues := by
    intro board task payload deps tagIds stored hstore hkept
    refine ⟨?_, hkept ▸ storeNewTask_values hstore⟩
    simp only [storeNewTask, insertTask, bind_eq_ok, orFail_eq_ok] at hstore
    obtain ⟨_, ⟨_, -, _, -, hinsert⟩, -⟩ := hstore
    exact (Table.insert?_eq_some hinsert).2
  obtain ⟨now, op⟩ := request
  cases op with
  | createTask boardId taskId userId payload =>
    obtain ⟨commits, hok, hmem⟩ := Response.mem_ofExcept.mp ht
    simp only [createTask, bind_eq_ok, pure_eq_ok] at hok
    obtain ⟨board, hboard, ⟨deps, tagIds⟩, -, stored, hstore, rfl⟩ := hok
    obtain ⟨-, rfl⟩ := getBoardForUserWrite_eq_ok hboard
    cases hop
    rcases List.mem_pair.mp hmem with rfl | rfl <;> exact .inl (hcreated hstore rfl)
  | createTaskAsLead boardId taskId agentId payload =>
    obtain ⟨commits, hok, hmem⟩ := Response.mem_ofExcept.mp ht
    simp only [createTaskAsLead, bind_eq_ok, pure_eq_ok] at hok
    obtain ⟨lead, -, board, hboard, _, -, _, -, ⟨deps, tagIds⟩, -, _, -, stored, hstore, rfl⟩ := hok
    obtain ⟨-, rfl⟩ := getBoardOr404_eq_ok hboard
    cases hop
    rcases List.mem_pair.mp hmem with rfl | rfl <;> exact .inl (hcreated hstore rfl)
  | updateTask boardId taskId actor payload =>
    obtain ⟨commits, hok, ht⟩ := Response.mem_ofExcept.mp ht
    obtain ⟨task, rfl, hstore⟩ := storedValues_of_updateTask hok ht
    obtain ⟨values', hvalues, heq⟩ := Option.map_eq_some_iff.mp hop
    cases heq
    simp only [storeCustomFieldValues, hvalues] at hstore
    exact .inr hstore
  | _ => cases hop

theorem storesEffective_of_mem (hdb : FieldRows db) (ht : t ∈ (machine env).commits db request)
    (hop : request.op.fieldValues? = some (boardId, taskId, values)) (hkeys : (values.map Prod.fst).Nodup)
    (hdefs : organizationCustomFieldDefinitionsForBoard db boardId = .ok definitions) (hd : d ∈ definitions) :
    StoresEffective db taskId values t.customFieldValues d := by
  rcases storedValues_of_mem ht hop with ⟨hnew, h⟩ | h
  · exact storesEffective_of_create hdb hnew hdefs h hd
  · exact storesEffective_of_update hdb hkeys hdefs h hd

/-! ## What is read -/

theorem Commit.boardFields (h : Commit db request t) :
    organizationCustomFieldDefinitionsForBoard t boardId = organizationCustomFieldDefinitionsForBoard db boardId := by
  cases h <;> rfl

theorem taskCustomFieldValuesByTaskId_of_mem {taskIds : List Uuid} (hid : taskId ∈ taskIds)
    (hdefs : organizationCustomFieldDefinitionsForBoard t boardId = .ok definitions) :
    ∃ read, taskCustomFieldValuesByTaskId t boardId taskIds = .ok read ∧
      read taskId = definitions.map fun d => (d.fieldKey, customFieldValue t taskId d) := by
  have hne : taskIds ≠ [] := List.ne_nil_of_mem hid
  unfold taskCustomFieldValuesByTaskId
  rw [if_neg hne, hdefs]
  exact ⟨_, rfl, if_pos hid⟩

theorem fieldsReadBack_iff_values (hdb : FieldRows db)
    (hdefs : organizationCustomFieldDefinitionsForBoard db boardId = .ok definitions)
    (hsame : organizationCustomFieldDefinitionsForBoard t boardId = .ok definitions) :
    FieldsReadBack db t boardId taskId values definitions ↔
      ∀ d ∈ definitions, customFieldValue t taskId d = effectiveValue db taskId values d ∧
        (d.required = true → customFieldValue t taskId d ≠ .null) := by
  have hkeyed := hdb.keyed hdefs
  have hread : ∀ {taskIds : List Uuid}, taskId ∈ taskIds → ∃ read,
      taskCustomFieldValuesByTaskId t boardId taskIds = .ok read ∧
        ∀ d ∈ definitions, lookupValue (read taskId) d.fieldKey = some (customFieldValue t taskId d) := by
    intro taskIds hid
    obtain ⟨read, hok, hdict⟩ := taskCustomFieldValuesByTaskId_of_mem hid hsame
    exact ⟨read, hok, fun d hd => hdict ▸ hkeyed.lookupValue hd _⟩
  constructor
  · intro h d hd
    obtain ⟨read, hok, hlookup⟩ := hread (List.mem_singleton_self taskId)
    obtain ⟨read', hok', hall⟩ := h [taskId] (List.mem_singleton_self taskId)
    obtain rfl := Except.ok.inj (hok.symm.trans hok')
    obtain ⟨heq, hrequired⟩ := hall d hd
    rw [hlookup d hd] at heq hrequired
    exact ⟨Option.some.inj heq, fun hr hnull => hrequired hr (congrArg some hnull)⟩
  · intro h taskIds hid
    obtain ⟨read, hok, hlookup⟩ := hread hid
    refine ⟨read, hok, fun d hd => ?_⟩
    rw [hlookup d hd]
    exact ⟨congrArg some (h d hd).1, fun hr hnull => (h d hd).2 hr (Option.some.inj hnull)⟩

theorem StoresEffective.customFieldValue_eq_iff (h : StoresEffective db taskId values t.customFieldValues d) :
    customFieldValue t taskId d = effectiveValue db taskId values d ↔
      (lookupValue values d.fieldKey = some .null → d.defaultValue = .null) := by
  show (taskValues t.customFieldValues taskId d.id).getD d.defaultValue = _ ↔ _
  cases hgiven : lookupValue values d.fieldKey with
  | none => simpa using h.absent hgiven
  | some value =>
    have heffective : effectiveValue db taskId values d = value := by
      unfold effectiveValue
      rw [hgiven]
    rw [h.given value hgiven, heffective, getD_storedValue, Option.some.injEq]

/-- **What was accepted is read back** exactly when the request sets no field to null whose default is not null. -/
theorem fieldsReadBack_iff (hdb : FieldRows db) (ht : t ∈ (machine env).commits db request)
    (hop : request.op.fieldValues? = some (boardId, taskId, values)) (hkeys : (values.map Prod.fst).Nodup)
    (hdefs : organizationCustomFieldDefinitionsForBoard db boardId = .ok definitions) :
    FieldsReadBack db t boardId taskId values definitions ↔ ¬ ClearsToDefault values definitions := by
  have hstores : ∀ d ∈ definitions, StoresEffective db taskId values t.customFieldValues d := fun d hd =>
    storesEffective_of_mem hdb ht hop hkeys hdefs hd
  rw [fieldsReadBack_iff_values hdb hdefs ((commit_of_mem ht).boardFields.trans hdefs)]
  constructor
  · rintro h ⟨d, hd, hnull, hdefault⟩
    exact hdefault ((hstores d hd).customFieldValue_eq_iff.mp (h d hd).1 hnull)
  · intro h d hd
    have hread := (hstores d hd).customFieldValue_eq_iff.mpr fun hnull =>
      by_contra fun hdefault => h ⟨d, hd, hnull, hdefault⟩
    exact ⟨hread, fun hrequired => hread ▸ (hstores d hd).required hrequired⟩

end Stored

namespace Sample

def fieldsOfTask : Db :=
  { db with
    tasks := ⟨[task], Table.nodup_one task⟩
    customFields := ⟨[{ id := 1, organizationId := 1, fieldKey := "size", fieldType := .text, required := true },
      { id := 2, organizationId := 1, fieldKey := "env", fieldType := .text, defaultValue := .str "prod" }], by decide⟩
    boardCustomFields := ⟨[{ boardId := 1, definitionId := 1 }, { boardId := 1, definitionId := 2 }], by decide⟩ }

def givesValues (values : TaskCustomFieldValues) : Request :=
  ⟨5, .updateTask 1 1 (.user 1) { customFieldValues := some values }⟩

theorem fieldRows_fieldsOfTask : FieldRows fieldsOfTask := by
  refine ⟨fun d hd d' hd' _ hkey => ?_, fun v hv => absurd hv List.not_mem_nil⟩
  rcases List.mem_pair.mp hd with rfl | rfl <;> rcases List.mem_pair.mp hd' with rfl | rfl <;>
    first | rfl | exact absurd hkey (by decide)

end Sample

theorem fieldsReadBack_given :
    ∃ t ∈ (machine Sample.env).commits Sample.fieldsOfTask (Sample.givesValues [("size", .str "ten")]),
      FieldsReadBack Sample.fieldsOfTask t 1 1 [("size", .str "ten")] Sample.fieldsOfTask.customFields.rows := by
  have hcommits : ∃ t, t ∈ (machine Sample.env).commits Sample.fieldsOfTask
      (Sample.givesValues [("size", .str "ten")]) := ⟨_, List.mem_cons_self⟩
  obtain ⟨t, ht⟩ := hcommits
  refine ⟨t, ht, (fieldsReadBack_iff Sample.fieldRows_fieldsOfTask ht rfl (by decide) rfl).mpr ?_⟩
  rintro ⟨d, hd, hnull, -⟩
  rcases List.mem_pair.mp hd with rfl | rfl <;> cases hnull

/-- A field that is set to null is read as its default. -/
theorem not_fieldsReadBack :
    ¬ ∀ (env : Env) (db t : Db) (request : Request) (boardId taskId : Uuid) (values : TaskCustomFieldValues)
      (definitions : List TaskCustomFieldDefinition), FieldRows db → t ∈ (machine env).commits db request →
      request.op.fieldValues? = some (boardId, taskId, values) → (values.map Prod.fst).Nodup →
      organizationCustomFieldDefinitionsForBoard db boardId = .ok definitions →
      FieldsReadBack db t boardId taskId values definitions := by
  intro h
  have hreads := h Sample.env Sample.fieldsOfTask _ (Sample.givesValues [("size", .str "ten"), ("env", .null)]) 1 1
    _ _ Sample.fieldRows_fieldsOfTask List.mem_cons_self rfl (by decide) rfl
  obtain ⟨read, hread, hall⟩ := hreads [1] List.mem_cons_self
  have hvalue := (hall _ (List.mem_cons_of_mem _ List.mem_cons_self)).1
  cases hread
  cases hvalue

end SiloForge
