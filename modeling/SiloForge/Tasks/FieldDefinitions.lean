import SiloForge.Tasks.Fields

/-!
# Custom field definitions

The custom fields of an organization: their type, the pattern their values match, their default, and the boards they are
bound to. The checks of a request are about the definition; only a deletion looks at the values that are stored.

* `validateCustomFieldDefinition` : a definition's pattern suits its type, and its default passes both;
* `createOrgCustomField`, `updateOrgCustomField`, `deleteOrgCustomField` : the endpoints, with `_eq_ok` for what an
  accepted request went through;
* `exists_updateOrgCustomField` : the updates that are accepted.
-/

namespace SiloForge

open Lib

/-! ## Requests -/

structure TaskCustomFieldDefinitionCreate where
  fieldKey : String
  fieldType : TaskCustomFieldType := .text
  validationRegex : Option String := none
  required : Bool := false
  defaultValue : Json := .null
  boardIds : List Uuid

/-- The fields of a PATCH of a definition; one that was left out is `none`. -/
structure TaskCustomFieldDefinitionUpdate where
  fieldType : Option TaskCustomFieldType := none
  validationRegex : Option (Option String) := none
  required : Option Bool := none
  defaultValue : Option Json := none
  boardIds : Option (List Uuid) := none

def validateCustomFieldDefinition (texts : Texts) (fieldType : TaskCustomFieldType) (validationRegex : Option String)
    (defaultValue : Json) : Except String Unit := do
  require (validationRegex = none ∨ fieldType.isStringType = true)
    "validation_regex is only supported for string field types."
  validateCustomFieldValue texts fieldType defaultValue validationRegex

/-- The boards a request selects, all of the organization. -/
def validatedBoardIdsForOrg (db : Db) (organizationId : Uuid) (boardIds : List Uuid) : Except Failure (List Uuid) := do
  let normalized := dedupeUuidList boardIds
  require (normalized ≠ []) (.text 422 "At least one board must be selected.")
  let valid := (db.boards.rows.filter fun b => b.organizationId = organizationId).map (·.id)
  let missing := normalized.filter (· ∉ valid)
  require (missing = []) (.http 422
    { message := "Some selected boards are invalid for this organization."
      ids := [("invalid_board_ids", missing.mergeSort (· ≤ ·))] })
  return normalized

def getOrgDefinition (db : Db) (organizationId definitionId : Uuid) : Except Failure TaskCustomFieldDefinition := do
  let definition ← orFail (db.customFields.get? definitionId) (.status 404)
  require (definition.organizationId = organizationId) (.status 404)
  return definition

def bindingRows (definitionId : Uuid) (boardIds : List Uuid) : List BoardTaskCustomField :=
  boardIds.map fun boardId => { boardId, definitionId }

def fieldKeyTakenError : Failure := .text 409 "Field key already exists in this organization."

def createOrgCustomField (texts : Texts) (db : Db) (userId organizationId definitionId : Uuid)
    (payload : TaskCustomFieldDefinitionCreate) : Except Failure Db := do
  requireOrgAdmin db userId organizationId
  let boardIds ← validatedBoardIdsForOrg db organizationId payload.boardIds
  (validateCustomFieldDefinition texts payload.fieldType payload.validationRegex payload.defaultValue).mapError
    (.text 422)
  let definition : TaskCustomFieldDefinition :=
    { id := definitionId
      organizationId
      fieldKey := payload.fieldKey
      fieldType := payload.fieldType
      validationRegex := payload.validationRegex
      required := payload.required
      defaultValue := payload.defaultValue }
  -- the flush, in front of the handler of the unique constraint
  require (db.customFields.rows.all fun d => d.organizationId ≠ organizationId || d.fieldKey ≠ payload.fieldKey)
    .integrityError
  let customFields ← orFail (db.customFields.insert? definition) .integrityError
  let boardCustomFields ← orFail (db.boardCustomFields.insertAll? (bindingRows definitionId boardIds))
    fieldKeyTakenError
  return { db with customFields, boardCustomFields }

def TaskCustomFieldDefinition.update (definition : TaskCustomFieldDefinition)
    (payload : TaskCustomFieldDefinitionUpdate) : TaskCustomFieldDefinition :=
  { definition with
    fieldType := payload.fieldType.getD definition.fieldType
    validationRegex := payload.validationRegex.getD definition.validationRegex
    required := payload.required.getD definition.required
    defaultValue := payload.defaultValue.getD definition.defaultValue }

/-- Drop the bindings a request leaves out, and add those that are missing. -/
def bindDefinition (bindings : Table BoardTaskCustomField) (definitionId : Uuid) (boardIds : List Uuid) :
    Option (Table BoardTaskCustomField) :=
  (bindings.deleteWhere fun b => b.definitionId = definitionId ∧ b.boardId ∉ boardIds).insertAll?
    (bindingRows definitionId (boardIds.filter fun boardId => (bindings.get? (boardId, definitionId)).isNone))

def updatedBindings (bindings : Table BoardTaskCustomField) (definitionId : Uuid) :
    Option (List Uuid) → Except Failure (Table BoardTaskCustomField)
  | none => .ok bindings
  | some boardIds => orFail (bindDefinition bindings definitionId boardIds) fieldKeyTakenError

def validatedUpdateBoardIds (db : Db) (organizationId : Uuid) :
    Option (List Uuid) → Except Failure (Option (List Uuid))
  | none => .ok none
  | some boardIds => do
    let normalized ← validatedBoardIdsForOrg db organizationId boardIds
    return some normalized

/-- Update a definition; the values that are stored for it are not looked at. -/
def updateOrgCustomField (texts : Texts) (db : Db) (userId organizationId definitionId : Uuid)
    (payload : TaskCustomFieldDefinitionUpdate) : Except Failure Db := do
  requireOrgAdmin db userId organizationId
  let definition ← getOrgDefinition db organizationId definitionId
  let boardIds ← validatedUpdateBoardIds db organizationId payload.boardIds
  let updated := definition.update payload
  (validateCustomFieldDefinition texts updated.fieldType updated.validationRegex updated.defaultValue).mapError
    (.text 422)
  let boardCustomFields ← updatedBindings db.boardCustomFields definition.id boardIds
  return { db with customFields := db.customFields.put updated, boardCustomFields }

def deleteOrgCustomField (db : Db) (userId organizationId definitionId : Uuid) : Except Failure Db := do
  requireOrgAdmin db userId organizationId
  let definition ← getOrgDefinition db organizationId definitionId
  require (db.customFieldValues.rows.all fun v => v.definitionId ≠ definition.id)
    (.text 409 "Cannot delete a custom field definition while task values exist.")
  return { db with
    customFields := db.customFields.deleteWhere fun d => d.id = definition.id
    boardCustomFields := db.boardCustomFields.deleteWhere fun b => b.definitionId = definition.id }

/-! ## What an accepted request went through -/

section Accepted
variable {texts : Texts} {db t : Db} {userId organizationId definitionId : Uuid}

variable {definition : TaskCustomFieldDefinition} {payload : TaskCustomFieldDefinitionUpdate}

theorem getOrgDefinition_eq_ok (h : getOrgDefinition db organizationId definitionId = .ok definition) :
    db.customFields.get? definitionId = some definition ∧ definition.id = definitionId ∧
      definition.organizationId = organizationId := by
  simp only [getOrgDefinition, bind_eq_ok, orFail_eq_ok, require_eq_ok, pure_eq_ok] at h
  obtain ⟨_, hfound, _, hon, rfl⟩ := h
  exact ⟨hfound, Table.key_of_get? hfound, hon⟩

theorem validateCustomFieldDefinition_eq_ok {fieldType : TaskCustomFieldType} {validationRegex : Option String}
    {defaultValue : Json} {u : Unit}
    (h : validateCustomFieldDefinition texts fieldType validationRegex defaultValue = .ok u) :
    validateCustomFieldValue texts fieldType defaultValue validationRegex = .ok () := by
  simp only [validateCustomFieldDefinition, bind_eq_ok, require_eq_ok] at h
  obtain ⟨_, -, h⟩ := h
  exact h

/-- A new definition has a key of its own in its organization, and a default that passes its checks. -/
theorem createOrgCustomField_eq_ok {payload : TaskCustomFieldDefinitionCreate}
    (h : createOrgCustomField texts db userId organizationId definitionId payload = .ok t) :
    ∃ definition customFields boardCustomFields, definition.id = definitionId ∧
      (∀ d ∈ db.customFields, d.organizationId = definition.organizationId → d.fieldKey ≠ definition.fieldKey) ∧
      validateCustomFieldValue texts definition.fieldType definition.defaultValue definition.validationRegex = .ok () ∧
      db.customFields.insert? definition = some customFields ∧ t = { db with customFields, boardCustomFields } := by
  simp only [createOrgCustomField, bind_eq_ok, mapError_eq_ok, require_eq_ok, orFail_eq_ok, pure_eq_ok] at h
  obtain ⟨_, -, boardIds, -, _, hvalid, _, hkey, customFields, hinsert, boardCustomFields, -, rfl⟩ := h
  refine ⟨_, customFields, boardCustomFields, ?_, ?_, ?_, hinsert, rfl⟩
  · rfl
  · intro d hd hon hsame
    have hfree := List.all_eq_true.mp hkey d hd
    simp [show d.organizationId = organizationId from hon, show d.fieldKey = payload.fieldKey from hsame] at hfree
  · exact validateCustomFieldDefinition_eq_ok hvalid

/-- The checks of an update: of the user, of the definition, of the boards, and of the definition it makes. -/
structure UpdateAllowed (texts : Texts) (db : Db) (userId organizationId definitionId : Uuid)
    (payload : TaskCustomFieldDefinitionUpdate) (definition : TaskCustomFieldDefinition) : Prop where
  admin : requireOrgAdmin db userId organizationId = .ok ()
  found : getOrgDefinition db organizationId definitionId = .ok definition
  boards : ∃ boardIds, validatedUpdateBoardIds db organizationId payload.boardIds = .ok boardIds
  valid : validateCustomFieldDefinition texts (definition.update payload).fieldType
    (definition.update payload).validationRegex (definition.update payload).defaultValue = .ok ()

theorem updateOrgCustomField_eq_ok
    (h : updateOrgCustomField texts db userId organizationId definitionId payload = .ok t) :
    ∃ definition boardCustomFields, UpdateAllowed texts db userId organizationId definitionId payload definition ∧
      t = { db with customFields := db.customFields.put (definition.update payload), boardCustomFields } := by
  simp only [updateOrgCustomField, bind_eq_ok, mapError_eq_ok, pure_eq_ok] at h
  obtain ⟨_, hadmin, definition, hfound, boardIds, hboards, _, hvalid, boardCustomFields, -, rfl⟩ := h
  exact ⟨definition, boardCustomFields, ⟨hadmin, hfound, ⟨boardIds, hboards⟩, hvalid⟩, rfl⟩

theorem exists_bindDefinition {bindings : Table BoardTaskCustomField} {boardIds : List Uuid} (hnodup : boardIds.Nodup) :
    ∃ bindings', bindDefinition bindings definitionId boardIds = some bindings' := by
  refine Table.exists_insertAll?.mpr ⟨fun r hr => ?_, ?_⟩
  · obtain ⟨boardId, hboard, rfl⟩ := List.mem_map.mp hr
    have hfree : bindings.get? (boardId, definitionId) = none :=
      Option.isNone_iff_eq_none.mp (List.mem_filter.mp hboard).2
    rw [Table.get?_deleteWhere]
    show (bindings.get? (boardId, definitionId)).filter _ = none
    rw [hfree, Option.filter_none]
  · unfold bindingRows
    rw [List.map_map]
    exact (hnodup.filter _).map fun a b hab => (Prod.mk.inj hab).1

theorem nodup_of_validatedUpdateBoardIds {requested : Option (List Uuid)} {boardIds : List Uuid}
    (h : validatedUpdateBoardIds db organizationId requested = .ok (some boardIds)) : boardIds.Nodup := by
  cases requested with
  | none => cases h
  | some ids =>
    simp only [validatedUpdateBoardIds, validatedBoardIdsForOrg, bind_eq_ok, require_eq_ok, pure_eq_ok] at h
    obtain ⟨_, ⟨_, -, _, -, rfl⟩, heq⟩ := h
    exact Option.some.inj heq ▸ nodup_dedupeUuidList ids

theorem exists_updateOrgCustomField (h : UpdateAllowed texts db userId organizationId definitionId payload definition) :
    ∃ boardCustomFields, updateOrgCustomField texts db userId organizationId definitionId payload =
      .ok { db with customFields := db.customFields.put (definition.update payload), boardCustomFields } := by
  obtain ⟨hadmin, hfound, ⟨boardIds, hboards⟩, hvalid⟩ := h
  have hbound : ∃ bindings, updatedBindings db.boardCustomFields definition.id boardIds = .ok bindings := by
    cases boardIds with
    | none => exact ⟨_, rfl⟩
    | some boardIds =>
      obtain ⟨bindings, hbindings⟩ := exists_bindDefinition (nodup_of_validatedUpdateBoardIds hboards)
      exact ⟨bindings, orFail_eq_ok.mpr hbindings⟩
  obtain ⟨bindings, hbound⟩ := hbound
  exact ⟨bindings, bind_eq_ok.mpr ⟨(), hadmin, bind_eq_ok.mpr ⟨definition, hfound, bind_eq_ok.mpr ⟨boardIds, hboards,
    bind_eq_ok.mpr ⟨(), mapError_eq_ok.mpr hvalid, bind_eq_ok.mpr ⟨bindings, hbound, rfl⟩⟩⟩⟩⟩⟩

theorem deleteOrgCustomField_eq_ok (h : deleteOrgCustomField db userId organizationId definitionId = .ok t) :
    (∀ v ∈ db.customFieldValues, v.definitionId ≠ definitionId) ∧ ∃ boardCustomFields,
      t = { db with customFields := db.customFields.deleteWhere fun d => d.id = definitionId, boardCustomFields } := by
  simp only [deleteOrgCustomField, bind_eq_ok, require_eq_ok, pure_eq_ok] at h
  obtain ⟨_, -, definition, hfound, _, hnone, rfl⟩ := h
  obtain ⟨-, rfl, -⟩ := getOrgDefinition_eq_ok hfound
  exact ⟨fun v hv => of_decide_eq_true (List.all_eq_true.mp hnone v hv), _, rfl⟩

end Accepted

end SiloForge
