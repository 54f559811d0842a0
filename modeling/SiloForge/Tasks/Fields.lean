import SiloForge.Tasks.Dependencies

/-!
# Tags and custom field values of a task

The tables beside a task's row. Each function returns the one table it writes.

* `Texts` : the questions about texts that Python's standard library answers;
* `validateTagIds`, `replaceTags` : the tags of a task;
* `validateCustomFieldValue` : whether a value suits a field type;
* `setTaskCustomFieldValuesForCreate`, `setTaskCustomFieldValuesForUpdate` : the values of a task;
* `taskValues_of_update` : the values of a task after a request, by those before it.
-/

namespace SiloForge

open Lib

/-- What the standard library says about texts: regular expressions, ISO dates, URLs and mention tokens; and how the search
for a cycle runs. -/
structure Texts where
  /-- Whether `re.compile(pattern).fullmatch(value)` finds a match, or why the pattern does not compile. -/
  fullmatch : String → String → Except String Bool
  isIsoDate : String → Bool
  isIsoDateTime : String → Bool
  isHttpUrl : String → Bool
  /-- Whether a comment mentions an agent. -/
  mentions : String → Agent → Bool
  search : CycleSearch

def validateTagIds (db : Db) (organizationId : Uuid) (tagIds : List Uuid) : Except Failure (List Uuid) := do
  let normalized := dedupeUuidList tagIds
  let existingIds := (db.tags.rows.filter fun t => t.organizationId = organizationId).map (·.id)
  let missing := normalized.filter (· ∉ existingIds)
  require (missing = []) (.http 404
    { message := "One or more tags do not exist in this organization."
      ids := [("missing_tag_ids", missing)] })
  return normalized

def replaceTags (tagAssignments : Table TagAssignment) (taskId : Uuid) (tagIds : List Uuid) :
    Except Failure (Table TagAssignment) :=
  orFail ((tagAssignments.deleteWhere fun a => a.taskId = taskId).insertAll?
    ((dedupeUuidList tagIds).map fun tagId => { taskId, tagId })) .integrityError

/-! ## Custom field values -/

/-- The values of a request: field keys with what they are set to. -/
abbrev TaskCustomFieldValues := List (String × Json)

namespace TaskCustomFieldType

def isStringType : TaskCustomFieldType → Bool
  | text | textLong | date | dateTime | url => true
  | _ => false

def name : TaskCustomFieldType → String
  | text => "text"
  | textLong => "text_long"
  | integer => "integer"
  | decimal => "decimal"
  | boolean => "boolean"
  | date => "date"
  | dateTime => "date_time"
  | url => "url"
  | json => "json"

/-- Whether a value that is not null suits a field type, and what is said when it does not. -/
def check (texts : Texts) : TaskCustomFieldType → Json → Except String Unit
  | text, .str _ | textLong, .str _ => .ok ()
  | text, _ | textLong, _ => .error "must be a string"
  | integer, .int _ => .ok ()
  | integer, _ => .error "must be an integer"
  | decimal, .int _ | decimal, .float _ => .ok ()
  | decimal, _ => .error "must be a decimal number"
  | boolean, .bool _ => .ok ()
  | boolean, _ => .error "must be true or false"
  | date, .str s => if texts.isIsoDate s then .ok () else .error "must be an ISO date string (YYYY-MM-DD)"
  | date, _ => .error "must be an ISO date string (YYYY-MM-DD)"
  | dateTime, .str s => if texts.isIsoDateTime s then .ok () else .error "must be an ISO datetime string"
  | dateTime, _ => .error "must be an ISO datetime string"
  | url, .str s => if texts.isHttpUrl s then .ok () else .error "must be a valid http/https URL"
  | url, _ => .error "must be a URL string"
  | json, .obj _ | json, .arr _ => .ok ()
  | json, _ => .error "must be a JSON object or array"

end TaskCustomFieldType

/-- Validate a custom field value against field type and optional regex. -/
def validateCustomFieldValue (texts : Texts) (fieldType : TaskCustomFieldType) (value : Json)
    (validationRegex : Option String) : Except String Unit :=
  match value with
  | .null => .ok ()
  | value => do
    fieldType.check texts value
    match validationRegex with
    | none => .ok ()
    | some pattern =>
      if fieldType.isStringType then
        match value with
        | .str s => match texts.fullmatch pattern s with
          | .error exc => .error ("validation_regex is invalid: " ++ exc)
          | .ok true => .ok ()
          | .ok false => .error "does not match validation_regex"
        | _ => .error "must be a string for regex validation"
      else .ok ()

/-- The custom fields bound to a board, within its organization. -/
def organizationCustomFieldDefinitionsForBoard (db : Db) (boardId : Uuid) :
    Except Failure (List TaskCustomFieldDefinition) := do
  let board ← orFail (db.boards.get? boardId) (.status 404)
  return db.customFields.rows.filter fun definition =>
    definition.organizationId = board.organizationId ∧
      (db.boardCustomFields.get? (boardId, definition.id)).isSome

def lookupValue (values : TaskCustomFieldValues) (fieldKey : String) : Option Json :=
  (values.find? (fun v => v.1 = fieldKey)).map Prod.snd

def isNull : Json → Bool
  | .null => true
  | _ => false

def rejectUnknownCustomFieldKeys (values : TaskCustomFieldValues) (definitions : List TaskCustomFieldDefinition) :
    Except Failure Unit :=
  let unknown := (values.map Prod.fst).filter fun k => definitions.all (·.fieldKey ≠ k)
  require (unknown = []) (.http 422
    { message := "Unknown custom field keys for this board.", keys := [("unknown_field_keys", unknown.mergeSort (· ≤ ·))] })

def rejectMissingRequiredCustomFieldKeys (effective : TaskCustomFieldDefinition → Json)
    (definitions : List TaskCustomFieldDefinition) : Except Failure Unit :=
  let missing := (definitions.filter fun definition => definition.required && isNull (effective definition)).map
    (·.fieldKey)
  require (missing = []) (.http 422
    { message := "Required custom fields must have values.", keys := [("missing_field_keys", missing.mergeSort (· ≤ ·))] })

def rejectInvalidCustomFieldValues (texts : Texts) (values : TaskCustomFieldValues)
    (definitions : List TaskCustomFieldDefinition) : Except Failure Unit :=
  values.forM fun (fieldKey, value) =>
    match definitions.find? (·.fieldKey = fieldKey) with
    | none => .ok ()
    | some definition =>
      (validateCustomFieldValue texts definition.fieldType value definition.validationRegex).mapError fun reason =>
        .http 422
          { message := "Invalid custom field value."
            keys := [("field_key", [fieldKey]), ("field_type", [definition.fieldType.name]), ("reason", [reason])] }

/-- The rows a new task starts with: the values given, the defaults of the fields left out. -/
def setTaskCustomFieldValuesForCreate (texts : Texts) (db : Db) (now : Time) (boardId taskId : Uuid)
    (values : TaskCustomFieldValues) : Except Failure (Table TaskCustomFieldValue) := do
  let definitions ← organizationCustomFieldDefinitionsForBoard db boardId
  rejectUnknownCustomFieldKeys values definitions
  rejectInvalidCustomFieldValues texts values definitions
  let effective := fun (definition : TaskCustomFieldDefinition) =>
    (lookupValue values definition.fieldKey).getD definition.defaultValue
  rejectMissingRequiredCustomFieldKeys effective definitions
  let rows := definitions.filterMap fun definition =>
    match effective definition with
    | .null => none
    | value => some { taskId, definitionId := definition.id, value, updatedAt := now }
  orFail (db.customFieldValues.insertAll? rows) .integrityError

/-- Store one value of a request: null deletes the row, another value rewrites or adds it. -/
def setCustomFieldValue (table : Table TaskCustomFieldValue) (now : Time) (taskId definitionId : Uuid) :
    Json → Option (Table TaskCustomFieldValue)
  | .null => some (table.deleteWhere fun v => v.taskId = taskId ∧ v.definitionId = definitionId)
  | value =>
    let row := { taskId, definitionId, value, updatedAt := now }
    if (table.get? (taskId, definitionId)).isSome then some (table.put row) else table.insert? row

/-- The rows of a task once the values of a request are stored. -/
def setTaskCustomFieldValuesForUpdate (texts : Texts) (db : Db) (now : Time) (boardId taskId : Uuid)
    (values : TaskCustomFieldValues) : Except Failure (Table TaskCustomFieldValue) := do
  let definitions ← organizationCustomFieldDefinitionsForBoard db boardId
  rejectUnknownCustomFieldKeys values definitions
  rejectInvalidCustomFieldValues texts values definitions
  let effective := fun (definition : TaskCustomFieldDefinition) =>
    match lookupValue values definition.fieldKey, db.customFieldValues.get? (taskId, definition.id) with
    | some value, _ => value
    | none, some row => row.value
    | none, none => definition.defaultValue
  rejectMissingRequiredCustomFieldKeys effective definitions
  orFail (values.foldlM (fun table (fieldKey, value) =>
    match definitions.find? (·.fieldKey = fieldKey) with
    | none => some table
    | some definition => setCustomFieldValue table now taskId definition.id value) db.customFieldValues)
    .integrityError

/-! ## Values before and after -/

/-- Steps that each leave the value of a key or overwrite it do the same one after the other. -/
theorem foldl_overwrites {κ α β : Type} {step : (κ → α) → β → κ → α}
    (hstep : ∀ b k, (∀ f, step f b k = f k) ∨ ∃ v, ∀ f, step f b k = v) (bs : List β) (k : κ) :
    (∀ f, bs.foldl step f k = f k) ∨ ∃ v, ∀ f, bs.foldl step f k = v := by
  induction bs with
  | nil => exact .inl fun f => rfl
  | cons b bs ih =>
    rcases ih with hleft | ⟨v, hover⟩
    · rcases hstep b k with hb | ⟨v, hb⟩
      · exact .inl fun f => (hleft (step f b)).trans (hb f)
      · exact .inr ⟨v, fun f => (hleft (step f b)).trans (hb f)⟩
    · exact .inr ⟨v, fun f => hover (step f b)⟩

theorem foldl_overwrites_again {κ α β : Type} {step : (κ → α) → β → κ → α}
    (hstep : ∀ b k, (∀ f, step f b k = f k) ∨ ∃ v, ∀ f, step f b k = v) (bs : List β) (f : κ → α) :
    bs.foldl step (bs.foldl step f) = bs.foldl step f := by
  funext k
  rcases foldl_overwrites hstep bs k with hleft | ⟨v, hover⟩
  · exact hleft _
  · exact (hover _).trans (hover _).symm

def taskValues (table : Table TaskCustomFieldValue) (taskId definitionId : Uuid) : Option Json :=
  (table.get? (taskId, definitionId)).map (·.value)

/-- What a value of a request leaves of a field. -/
def storedValue : Json → Option Json
  | .null => none
  | value => some value

variable {table' : Table TaskCustomFieldValue}

theorem taskValues_setCustomFieldValue {table : Table TaskCustomFieldValue} {now : Time} {taskId definitionId : Uuid}
    {value : Json} (h : setCustomFieldValue table now taskId definitionId value = some table') (d : Uuid) :
    taskValues table' taskId d = if d = definitionId then storedValue value else taskValues table taskId d := by
  unfold setCustomFieldValue at h
  unfold taskValues
  split at h
  · obtain rfl := Option.some.inj h
    rw [Table.get?_deleteWhere]
    cases hget : table.get? (taskId, d) with
    | none => simp [storedValue]
    | some row =>
      have htask : row.taskId = taskId := congrArg Prod.fst (Table.key_of_get? hget)
      have hdefinition : row.definitionId = d := congrArg Prod.snd (Table.key_of_get? hget)
      by_cases hd : d = definitionId <;> simp [Option.filter, htask, hdefinition, hd, storedValue]
  · rename_i hvalue
    have hstored : storedValue value = some value := by
      cases value with
      | null => exact absurd rfl hvalue
      | _ => rfl
    let written : TaskCustomFieldValue := { taskId, definitionId, value, updatedAt := now }
    have hkey : (taskId, d) = key written ↔ d = definitionId :=
      ⟨fun hk => (Prod.mk.inj hk).2, fun hd => congrArg (Prod.mk taskId) hd⟩
    rw [hstored]
    split at h
    · rename_i hsome
      obtain rfl := Option.some.inj h
      obtain ⟨row, hrow⟩ := Option.isSome_iff_exists.mp hsome
      rw [Table.get?_put (r := written)]
      by_cases hd : d = definitionId
      · rw [if_pos hd, if_pos (hkey.mpr hd), hd, hrow]
        rfl
      · rw [if_neg hd, if_neg (mt hkey.mp hd)]
    · rw [Table.get?_insert? (r := written) h]
      by_cases hd : d = definitionId
      · rw [if_pos hd, if_pos (hkey.mpr hd)]
        rfl
      · rw [if_neg hd, if_neg (mt hkey.mp hd)]

def setValue (definitions : List TaskCustomFieldDefinition) (f : Uuid → Option Json) (v : String × Json) (d : Uuid) :
    Option Json :=
  match definitions.find? (·.fieldKey = v.1) with
  | none => f d
  | some definition => if d = definition.id then storedValue v.2 else f d

theorem setValue_overwrites (definitions : List TaskCustomFieldDefinition) (v : String × Json) (d : Uuid) :
    (∀ f, setValue definitions f v d = f d) ∨ ∃ value, ∀ f, setValue definitions f v d = value := by
  unfold setValue
  cases definitions.find? (·.fieldKey = v.1) with
  | none => exact .inl fun f => rfl
  | some definition =>
    by_cases hd : d = definition.id
    · exact .inr ⟨storedValue v.2, fun f => if_pos hd⟩
    · exact .inl fun f => if_neg hd

theorem taskValues_of_update {texts : Texts} {db : Db} {now : Time} {boardId taskId : Uuid}
    {values : TaskCustomFieldValues}
    (h : setTaskCustomFieldValuesForUpdate texts db now boardId taskId values = .ok table') :
    ∃ definitions, organizationCustomFieldDefinitionsForBoard db boardId = .ok definitions ∧
      taskValues table' taskId = values.foldl (setValue definitions) (taskValues db.customFieldValues taskId) := by
  simp only [setTaskCustomFieldValuesForUpdate, bind_eq_ok, orFail_eq_ok] at h
  obtain ⟨definitions, hdefs, _, -, _, -, _, -, h⟩ := h
  refine ⟨definitions, hdefs, ?_⟩
  generalize db.customFieldValues = table at h ⊢
  induction values generalizing table with
  | nil =>
    obtain rfl := Option.some.inj h
    rfl
  | cons v values ih =>
    obtain ⟨fieldKey, value⟩ := v
    rw [List.foldlM_cons] at h
    obtain ⟨table₁, hfirst, hrest⟩ := Option.bind_eq_some_iff.mp h
    rw [ih table₁ hrest, List.foldl_cons]
    congr 1
    funext d
    unfold setValue
    cases hfind : definitions.find? (·.fieldKey = fieldKey) with
    | none =>
      simp only [hfind] at hfirst ⊢
      rw [Option.some.inj hfirst]
    | some definition =>
      simp only [hfind] at hfirst ⊢
      exact taskValues_setCustomFieldValue hfirst d

end SiloForge
