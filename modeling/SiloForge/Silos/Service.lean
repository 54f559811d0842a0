import SiloForge.Openclaw.Gateway
import SiloForge.Silos.Blueprints

/-!
# Silos

A silo is created from a blueprint and the gateways its roles are assigned to, and changed by patches of its toggles
and assignments. It is stored twice: as one row a role, and as a document, its desired state.

* `SiloDb` : the tables of silos;
* `buildPreview`, `createSilo`, `updateSilo` : the operations, with `openSilo` and `storeSilo` the reads and the writes
  of a creation;
* `openSilo_eq_ok`, `storeSilo_eq_ok`, `updateSilo_eq_ok` : what an accepted one does.
-/

namespace SiloForge

open Lib

/-! ## Tables -/

structure SiloGateway where
  id : Uuid
  organizationId : Uuid
  name : String
  url : String := ""
  token : Option String := none
  allowInsecureTls : Bool := false
  deriving DecidableEq

instance : Keyed SiloGateway Uuid := ⟨SiloGateway.id⟩

/-- A silo with its desired state; the document is written when the silo is created. -/
structure SiloRecord where
  id : Uuid
  organizationId : Uuid
  slug : String
  name : String
  blueprintSlug : String
  blueprintVersion : String
  ownerDisplayName : Option String := none
  status : String := "draft"
  enableSymphony : Bool
  enableTelemetry : Bool
  desiredState : SiloPreview
  createdAt : Time
  updatedAt : Time
  deriving DecidableEq

instance : Keyed SiloRecord Uuid := ⟨SiloRecord.id⟩

structure SiloRoleRecord where
  siloId : Uuid
  slug : String
  displayName : String
  roleType : RoleType
  runtimeKind : RuntimeKind
  hostKind : HostKind
  defaultModel : Option String := none
  fallbackModel : Option String := none
  channelName : Option String := none
  gatewayId : Option Uuid := none
  gatewayName : Option String := none
  workspaceRoot : Option String := none
  secretBindings : List SiloSecretBinding := []
  createdAt : Time
  updatedAt : Time
  deriving DecidableEq

instance : Keyed SiloRoleRecord (Uuid × String) := ⟨fun r => (r.siloId, r.slug)⟩

inductive SpawnRequestStatus where
  | requested | planned | spawning | running | materialized | failed | cancelled
  deriving DecidableEq

structure SpawnRequestRecord where
  id : Uuid
  organizationId : Uuid
  slug : String
  status : SpawnRequestStatus := .requested
  priority : String := "normal"
  summary : Option String := none
  desiredState : Option Json := none
  sourceTaskTitle : Option String := none
  sourceTaskStatus : Option String := none
  sourceTaskPriority : Option String := none
  materializedSiloId : Option Uuid := none
  materializedSiloSlug : Option String := none
  materializedAt : Option Time := none
  updatedAt : Time := 0
  deriving DecidableEq

instance : Keyed SpawnRequestRecord Uuid := ⟨SpawnRequestRecord.id⟩

structure SiloDb where
  gateways : Table SiloGateway := ∅
  silos : Table SiloRecord := ∅
  roles : Table SiloRoleRecord := ∅
  spawnRequests : Table SpawnRequestRecord := ∅

namespace SiloDb

def siloBySlug (db : SiloDb) (organizationId : Uuid) (slug : String) : Option SiloRecord :=
  db.silos.rows.find? fun s => s.organizationId = organizationId ∧ s.slug = slug

def rolesOf (db : SiloDb) (siloId : Uuid) : List SiloRoleRecord := db.roles.rows.filter fun r => r.siloId = siloId

/-- The silos as the runs of tasks see them. -/
def db (s : SiloDb) : Db where
  silos := s.silos.view (fun r => { id := r.id, organizationId := r.organizationId, slug := r.slug,
                                    enableSymphony := r.enableSymphony }) fun _ => rfl
  siloRoles := s.roles.view (fun r => { siloId := r.siloId, slug := r.slug, runtimeKind := r.runtimeKind.text,
                                        createdAt := r.createdAt }) fun _ => rfl

end SiloDb

/-! ## Payloads -/

structure SiloGatewayAssignment where
  roleSlug : String
  gatewayId : Option String := none
  workspaceRoot : Option String := none
  deriving DecidableEq

structure SiloCreate where
  name : String
  blueprintSlug : String
  spawnRequestId : Option String := none
  blueprintVersion : Option String := none
  ownerDisplayName : Option String := none
  enableSymphony : Bool := false
  enableTelemetry : Bool := false
  gatewayAssignments : List SiloGatewayAssignment := []
  deriving DecidableEq

structure SiloUpdate where
  enableSymphony : Option Bool := none
  enableTelemetry : Option Bool := none
  gatewayAssignments : List SiloGatewayAssignment := []
  deriving DecidableEq

/-- `value or None`. -/
def orNone (text : Option String) : Option String := text.filter (· ≠ "")

/-- The uuid of an optional text: of an empty one, none. -/
def uuidOrNone (text : Option String) : Except Failure (Option Uuid) :=
  match orNone text with
  | none => .ok none
  | some t => (orFail (Uuid.ofString? t) (.valueError "badly formed hexadecimal UUID string")).map some

/-- The assignments read so far, and the ones to come. -/
def addAssignments (mapping : List SiloGatewayAssignment) :
    List SiloGatewayAssignment → Except Failure (List SiloGatewayAssignment)
  | [] => .ok mapping
  | a :: rest => do
    require (∀ b ∈ mapping, b.roleSlug ≠ a.roleSlug)
      (.valueError ("Duplicate gateway assignment for role: " ++ a.roleSlug))
    addAssignments (mapping ++ [a]) rest

/-- `_assignment_map`: no role is assigned twice. -/
def assignmentMap (assignments : List SiloGatewayAssignment) : Except Failure (List SiloGatewayAssignment) :=
  addAssignments [] assignments

variable {assignments result : List SiloGatewayAssignment} {text : Option String} {db : SiloDb} {now : Time}
  {siloId organizationId : Uuid} {roles : List SiloRoleDesiredState}

theorem addAssignments_eq_ok {mapping : List SiloGatewayAssignment} (hmapping : (mapping.map (·.roleSlug)).Nodup) :
    addAssignments mapping assignments = .ok result ↔
      result = mapping ++ assignments ∧ ((mapping ++ assignments).map (·.roleSlug)).Nodup := by
  induction assignments generalizing mapping with
  | nil => simp [addAssignments, hmapping, eq_comm]
  | cons a rest ih =>
    have hsnoc : (∀ b ∈ mapping, b.roleSlug ≠ a.roleSlug) ↔ ((mapping ++ [a]).map (·.roleSlug)).Nodup := by
      simp [List.nodup_append, hmapping]
    rw [addAssignments, bind_eq_ok]
    constructor
    · rintro ⟨_, hfresh, hrest⟩
      have hnodup := hsnoc.mp (require_eq_ok.mp hfresh)
      obtain ⟨rfl, hall⟩ := (ih hnodup).mp hrest
      rw [List.append_assoc, List.singleton_append] at hall ⊢
      exact ⟨rfl, hall⟩
    · rintro ⟨rfl, hall⟩
      have hnodup : ((mapping ++ [a]).map (·.roleSlug)).Nodup := by
        refine hall.sublist (List.Sublist.map _ ?_)
        exact List.Sublist.append_left (List.singleton_sublist.mpr List.mem_cons_self) _
      refine ⟨(), require_eq_ok.mpr (hsnoc.mpr hnodup), (ih hnodup).mpr ⟨?_, ?_⟩⟩
      · rw [List.append_assoc, List.singleton_append]
      · rw [List.append_assoc, List.singleton_append]
        exact hall

theorem assignmentMap_eq_ok :
    assignmentMap assignments = .ok result ↔ result = assignments ∧ (assignments.map (·.roleSlug)).Nodup :=
  addAssignments_eq_ok List.nodup_nil

/-! ## The preview -/

def assignmentOf (assignments : List SiloGatewayAssignment) (roleSlug : String) : Option SiloGatewayAssignment :=
  assignments.find? fun a => a.roleSlug = roleSlug

def desiredRole (blueprint : SiloBlueprint) (assignments : List SiloGatewayAssignment) (role : SiloRoleBlueprint) :
    SiloRoleDesiredState :=
  let target := blueprint.targetOf role.slug
  let assignment := assignmentOf assignments role.slug
  { slug := role.slug
    displayName := role.displayName
    roleType := role.roleType
    runtimeKind := role.runtimeKind
    hostKind := role.hostKind
    defaultModel := role.defaultModel
    fallbackModel := role.fallbackModel
    channelName := role.channelName
    gatewayId := assignment.bind (·.gatewayId)
    gatewayName := target.map (·.gatewayName)
    workspaceRoot := (assignment.bind fun a => orNone a.workspaceRoot).or (target.map (·.workspaceRoot))
    secretBindings := role.secretBindings }

/-- `_slugify`, over `str.lower`. -/
def siloSlug (lower : String → String) (name : String) : String :=
  let dashed := KeyTexts.slugChars false (lower (strip name)).toList
  let slug := ((dashed.dropWhile (· = '-')).reverse.dropWhile (· = '-')).reverse
  if slug = [] then "silo" else String.ofList slug

def previewWarnings (blueprint : SiloBlueprint) (payload : SiloCreate) : List String :=
  let enableSymphony := payload.enableSymphony && blueprint.supportsSymphony
  (if payload.enableSymphony && !blueprint.supportsSymphony then
    ["Blueprint " ++ blueprint.slug ++ " does not support Symphony; ignoring enable_symphony."] else []) ++
  (if payload.enableTelemetry && !blueprint.supportsTelemetry then
    ["Blueprint " ++ blueprint.slug ++ " does not support telemetry; ignoring enable_telemetry."] else []) ++
  (blueprint.roles.filter fun r => r.runtimeKind = .symphony && !enableSymphony).map fun r =>
    "Skipping optional role " ++ r.slug ++ " because Symphony is disabled."

def previewOf (lower : String → String) (blueprint : SiloBlueprint) (payload : SiloCreate)
    (assignments : List SiloGatewayAssignment) : SiloPreview :=
  let enableSymphony := payload.enableSymphony && blueprint.supportsSymphony
  { slug := siloSlug lower payload.name
    name := payload.name
    blueprintSlug := blueprint.slug
    blueprintVersion := ((orNone payload.blueprintVersion)).getD blueprint.version
    enableSymphony
    enableTelemetry := payload.enableTelemetry && blueprint.supportsTelemetry
    roles := (blueprint.rolesFor enableSymphony).map (desiredRole blueprint assignments)
    sharedSecretBindings := blueprint.sharedSecretBindings
    warnings := previewWarnings blueprint payload }

def buildPreview (lower : String → String) (payload : SiloCreate) : Except Failure SiloPreview := do
  let blueprint ← orFail (getBuiltinBlueprint payload.blueprintSlug)
    (.valueError ("Unknown blueprint: " ++ payload.blueprintSlug))
  let assignments ← assignmentMap payload.gatewayAssignments
  return previewOf lower blueprint payload assignments

/-! ## Creation -/

/-- A creation that has read what it needs. -/
structure OpenSilo where
  organizationId : Uuid
  payload : SiloCreate
  preview : SiloPreview
  spawnRequest : Option SpawnRequestRecord

/-- The spawn request a creation names, one of the organization. -/
def namedSpawnRequest (db : SiloDb) (organizationId : Uuid) (text : Option String) :
    Except Failure (Option SpawnRequestRecord) :=
  match orNone text with
  | none => .ok none
  | some text => do
    let id ← orFail (Uuid.ofString? text) (.valueError "badly formed hexadecimal UUID string")
    let request ← orFail ((db.spawnRequests.get? id).filter (·.organizationId = organizationId))
      (.valueError "Silo spawn request not found")
    return some request

/-- The reads of a creation: the slug is free, and the spawn request is there. -/
def openSilo (lower : String → String) (db : SiloDb) (organizationId : Uuid) (payload : SiloCreate) :
    Except Failure OpenSilo := do
  let preview ← buildPreview lower payload
  require (db.siloBySlug organizationId preview.slug = none) (.valueError ("Silo already exists: " ++ preview.slug))
  let spawnRequest ← namedSpawnRequest db organizationId payload.spawnRequestId
  return { organizationId, payload, preview, spawnRequest }

/-- The gateway a text names, with its name; without a text, no gateway and the default name. -/
def resolveGateway (db : SiloDb) (roleSlug : String) (text default : Option String) :
    Except Failure (Option Uuid × Option String) := do
  let gatewayId ← uuidOrNone text
  match gatewayId with
  | none => return (none, default)
  | some id =>
    let gateway ← orFail (db.gateways.get? id)
      (.valueError ("Unknown gateway id for role " ++ roleSlug ++ ": " ++ Uuid.format id))
    return (some id, some gateway.name)

def SiloRoleDesiredState.row (role : SiloRoleDesiredState) (now : Time) (siloId : Uuid)
    (gateway : Option Uuid × Option String) : SiloRoleRecord where
  siloId
  slug := role.slug
  displayName := role.displayName
  roleType := role.roleType
  runtimeKind := role.runtimeKind
  hostKind := role.hostKind
  defaultModel := role.defaultModel
  fallbackModel := role.fallbackModel
  channelName := role.channelName
  gatewayId := gateway.1
  gatewayName := gateway.2
  workspaceRoot := role.workspaceRoot
  secretBindings := role.secretBindings
  createdAt := now
  updatedAt := now

def roleRows (db : SiloDb) (now : Time) (siloId : Uuid) :
    List SiloRoleDesiredState → Except Failure (List SiloRoleRecord)
  | [] => .ok []
  | role :: rest => do
    let gateway ← resolveGateway db role.slug role.gatewayId role.gatewayName
    let rows ← roleRows db now siloId rest
    return role.row now siloId gateway :: rows

/-- The request once a silo is made for it. -/
def SpawnRequestRecord.materialize (request : SpawnRequestRecord) (silo : SiloRecord) (now : Time) :
    SpawnRequestRecord :=
  { request with
    status := .materialized
    materializedSiloId := some silo.id
    materializedSiloSlug := some silo.slug
    materializedAt := some now
    updatedAt := now }

/-- The columns of a request that were set, over the row as it is. -/
def SpawnRequestRecord.writeOver (loaded new current : SpawnRequestRecord) : SpawnRequestRecord :=
  { current with
    status := writtenColumn loaded.status new.status current.status
    priority := writtenColumn loaded.priority new.priority current.priority
    summary := writtenColumn loaded.summary new.summary current.summary
    desiredState := writtenColumn loaded.desiredState new.desiredState current.desiredState
    sourceTaskTitle := writtenColumn loaded.sourceTaskTitle new.sourceTaskTitle current.sourceTaskTitle
    sourceTaskStatus := writtenColumn loaded.sourceTaskStatus new.sourceTaskStatus current.sourceTaskStatus
    sourceTaskPriority := writtenColumn loaded.sourceTaskPriority new.sourceTaskPriority current.sourceTaskPriority
    materializedSiloId := writtenColumn loaded.materializedSiloId new.materializedSiloId current.materializedSiloId
    materializedSiloSlug :=
      writtenColumn loaded.materializedSiloSlug new.materializedSiloSlug current.materializedSiloSlug
    materializedAt := writtenColumn loaded.materializedAt new.materializedAt current.materializedAt
    updatedAt := writtenColumn loaded.updatedAt new.updatedAt current.updatedAt }

/-- `UPDATE` of a request that was read before. -/
def writeSpawnRequest (requests : Table SpawnRequestRecord) (loaded new : SpawnRequestRecord) :
    Table SpawnRequestRecord :=
  requests.updateWhere (fun r => r.id = loaded.id) (fun r => loaded.writeOver new r)
    fun r _ => show key (loaded.writeOver new r) = key r from rfl

def OpenSilo.silo (o : OpenSilo) (now : Time) (siloId : Uuid) : SiloRecord where
  id := siloId
  organizationId := o.organizationId
  slug := o.preview.slug
  name := o.preview.name
  blueprintSlug := o.preview.blueprintSlug
  blueprintVersion := o.preview.blueprintVersion
  ownerDisplayName := o.payload.ownerDisplayName
  enableSymphony := o.preview.enableSymphony
  enableTelemetry := o.preview.enableTelemetry
  desiredState := o.preview
  createdAt := now
  updatedAt := now

/-- The writes of a creation. A silo with the slug that came in between is refused by its constraint. -/
def storeSilo (db : SiloDb) (now : Time) (siloId : Uuid) (o : OpenSilo) : Except Failure SiloDb := do
  let silo := o.silo now siloId
  require (db.siloBySlug silo.organizationId silo.slug = none) .integrityError
  let silos ← orFail (db.silos.insert? silo) .integrityError
  let rows ← roleRows db now siloId o.preview.roles
  let roles ← orFail (db.roles.insertAll? rows) .integrityError
  return { db with
    silos
    roles
    spawnRequests := match o.spawnRequest with
      | none => db.spawnRequests
      | some r => writeSpawnRequest db.spawnRequests r (r.materialize silo now) }

def createSilo (lower : String → String) (db : SiloDb) (now : Time) (organizationId siloId : Uuid)
    (payload : SiloCreate) : Except Failure SiloDb := do
  let o ← openSilo lower db organizationId payload
  storeSilo db now siloId o

/-! ## Updates -/

/-- The workspace of a role: a given one, where an empty text clears it. -/
def patchWorkspace (given old : Option String) : Option String :=
  match given with
  | none => old
  | some _ => orNone given

def SiloRoleRecord.assign (row : SiloRoleRecord) (now : Time) (gatewayId : Option Uuid) (gatewayName : Option String)
    (workspaceRoot : Option String) : SiloRoleRecord :=
  { row with gatewayId, gatewayName, workspaceRoot := patchWorkspace workspaceRoot row.workspaceRoot, updatedAt := now }

/-- The entry of a role in the desired state with its assignment. -/
def SiloRoleDesiredState.assign (entry : SiloRoleDesiredState) (gatewayId : Option Uuid) (gatewayName : Option String)
    (workspaceRoot : Option String) : SiloRoleDesiredState :=
  { entry with
    gatewayId := gatewayId.map Uuid.format
    gatewayName
    workspaceRoot := patchWorkspace workspaceRoot entry.workspaceRoot }

def updateFirst {α : Type} (p : α → Bool) (f : α → α) : List α → List α
  | [] => []
  | a :: as => if p a then f a :: as else a :: updateFirst p f as

def assignRole (db : SiloDb) (now : Time) (siloId : Uuid) (assignment : SiloGatewayAssignment)
    (entries : List SiloRoleDesiredState) : Except Failure (SiloDb × List SiloRoleDesiredState) := do
  let row ← orFail (db.roles.get? (siloId, assignment.roleSlug))
    (.valueError ("Unknown silo role: " ++ assignment.roleSlug))
  let gateway ← resolveGateway db assignment.roleSlug assignment.gatewayId none
  return ({ db with roles := db.roles.put (row.assign now gateway.1 gateway.2 assignment.workspaceRoot) },
    updateFirst (fun e => e.slug = assignment.roleSlug)
      (fun e => e.assign gateway.1 gateway.2 assignment.workspaceRoot) entries)

def assignRoles (db : SiloDb) (now : Time) (siloId : Uuid) (entries : List SiloRoleDesiredState) :
    List SiloGatewayAssignment → Except Failure (SiloDb × List SiloRoleDesiredState)
  | [] => .ok (db, entries)
  | assignment :: rest => do
    let done ← assignRole db now siloId assignment entries
    assignRoles done.1 now siloId done.2 rest

def SiloRecord.toggle (silo : SiloRecord) (now : Time) (payload : SiloUpdate) (roles : List SiloRoleDesiredState) :
    SiloRecord :=
  { silo with
    enableSymphony := payload.enableSymphony.getD silo.enableSymphony
    enableTelemetry := payload.enableTelemetry.getD silo.enableTelemetry
    desiredState :=
      { silo.desiredState with
        enableSymphony := payload.enableSymphony.getD silo.desiredState.enableSymphony
        enableTelemetry := payload.enableTelemetry.getD silo.desiredState.enableTelemetry
        roles }
    updatedAt := now }

def updateSilo (db : SiloDb) (now : Time) (organizationId : Uuid) (slug : String) (payload : SiloUpdate) :
    Except Failure SiloDb := do
  let silo ← orFail (db.siloBySlug organizationId slug) (.valueError "Silo not found")
  let assignments ← assignmentMap payload.gatewayAssignments
  let done ← assignRoles db now silo.id silo.desiredState.roles assignments
  return { done.1 with silos := done.1.silos.put (silo.toggle now payload done.2) }

/-! ## What an accepted operation does -/

def spelledUuid (text : Option String) : Option Uuid := (orNone text).bind Uuid.ofString?

theorem uuidOrNone_eq_ok {r : Option Uuid} (h : uuidOrNone text = .ok r) : spelledUuid text = r := by
  unfold uuidOrNone at h
  unfold spelledUuid
  cases htext : orNone text with
  | none =>
    rw [htext] at h
    exact Except.ok.inj h
  | some t =>
    rw [htext] at h
    rw [Option.bind_some]
    dsimp only at h
    cases hid : Uuid.ofString? t with
    | none =>
      rw [hid] at h
      cases h
    | some id =>
      rw [hid] at h
      exact Except.ok.inj h

theorem spelledUuid_lt {id : Uuid} (h : spelledUuid text = some id) : id < 2 ^ 128 := by
  obtain ⟨t, -, hid⟩ := Option.bind_eq_some_iff.mp h
  exact Uuid.ofString?_lt hid

theorem format_ne_empty {id : Uuid} (h : id < 2 ^ 128) : Uuid.format id ≠ "" := by
  intro he
  have hread := Uuid.ofString?_format h
  rw [he] at hread
  have hempty : Uuid.ofString? "" = none := by decide
  rw [hempty] at hread
  cases hread

theorem spelledUuid_format {id : Uuid} (h : id < 2 ^ 128) : spelledUuid (some (Uuid.format id)) = some id := by
  unfold spelledUuid orNone
  rw [Option.filter_some, if_pos (decide_eq_true (format_ne_empty h)), Option.bind_some]
  exact Uuid.ofString?_format h

theorem resolveGateway_eq_ok {roleSlug : String} {default : Option String} {g : Option Uuid × Option String}
    (h : resolveGateway db roleSlug text default = .ok g) :
    spelledUuid text = none ∧ g = (none, default) ∨
      ∃ id gateway, spelledUuid text = some id ∧ db.gateways.get? id = some gateway ∧
        g = (some id, some gateway.name) := by
  obtain ⟨gatewayId, huuid, h⟩ := bind_eq_ok.mp h
  have hid := uuidOrNone_eq_ok huuid
  cases gatewayId with
  | none => exact .inl ⟨hid, (pure_eq_ok.mp h).symm⟩
  | some id =>
    obtain ⟨gateway, hget, h⟩ := bind_eq_ok.mp h
    exact .inr ⟨id, gateway, hid, orFail_eq_ok.mp hget, (pure_eq_ok.mp h).symm⟩

theorem roleRows_eq_ok {rows : List SiloRoleRecord} (h : roleRows db now siloId roles = .ok rows) :
    List.Forall₂ (fun role row => ∃ gateway,
      resolveGateway db role.slug role.gatewayId role.gatewayName = .ok gateway ∧ row = role.row now siloId gateway)
      roles rows := by
  induction roles generalizing rows with
  | nil =>
    obtain rfl := Except.ok.inj h
    exact .nil
  | cons role rest ih =>
    obtain ⟨gateway, hgateway, h⟩ := bind_eq_ok.mp h
    obtain ⟨rows', hrest, h⟩ := bind_eq_ok.mp h
    obtain rfl := pure_eq_ok.mp h
    exact .cons ⟨gateway, hgateway, rfl⟩ (ih hrest)

theorem siloId_roleRows {rows : List SiloRoleRecord} (h : roleRows db now siloId roles = .ok rows) :
    ∀ row ∈ rows, row.siloId = siloId := by
  induction roles generalizing rows with
  | nil =>
    obtain rfl := Except.ok.inj h
    exact fun row hrow => absurd hrow List.not_mem_nil
  | cons role rest ih =>
    obtain ⟨gateway, -, h⟩ := bind_eq_ok.mp h
    obtain ⟨rows', hrest, h⟩ := bind_eq_ok.mp h
    obtain rfl := pure_eq_ok.mp h
    exact List.forall_mem_cons.mpr ⟨rfl, ih hrest⟩

theorem buildPreview_eq_ok {lower : String → String} {payload : SiloCreate} {preview : SiloPreview}
    (h : buildPreview lower payload = .ok preview) :
    ∃ blueprint, getBuiltinBlueprint payload.blueprintSlug = some blueprint ∧
      (payload.gatewayAssignments.map (·.roleSlug)).Nodup ∧
      preview = previewOf lower blueprint payload payload.gatewayAssignments := by
  obtain ⟨blueprint, hblueprint, h⟩ := bind_eq_ok.mp h
  obtain ⟨assignments, hassign, h⟩ := bind_eq_ok.mp h
  obtain ⟨rfl, hnodup⟩ := assignmentMap_eq_ok.mp hassign
  exact ⟨blueprint, orFail_eq_ok.mp hblueprint, hnodup, (pure_eq_ok.mp h).symm⟩

theorem namedSpawnRequest_eq_ok {r : SpawnRequestRecord} (h : namedSpawnRequest db organizationId text = .ok (some r)) :
    db.spawnRequests.get? r.id = some r ∧ spelledUuid text = some r.id := by
  unfold namedSpawnRequest at h
  unfold spelledUuid
  cases htext : orNone text with
  | none =>
    rw [htext] at h
    cases h
  | some t =>
    rw [htext] at h
    obtain ⟨id, hid, h⟩ := bind_eq_ok.mp h
    obtain ⟨r', hget, h⟩ := bind_eq_ok.mp h
    obtain rfl := Option.some.inj (pure_eq_ok.mp h)
    obtain ⟨hget, -⟩ := Option.filter_eq_some_iff.mp (orFail_eq_ok.mp hget)
    have hkey : r'.id = id := Table.key_of_get? hget
    rw [hkey]
    exact ⟨hget, orFail_eq_ok.mp hid⟩

theorem openSilo_eq_ok {lower : String → String} {payload : SiloCreate} {o : OpenSilo}
    (h : openSilo lower db organizationId payload = .ok o) :
    buildPreview lower payload = .ok o.preview ∧ o.organizationId = organizationId ∧ o.payload = payload ∧
      namedSpawnRequest db organizationId payload.spawnRequestId = .ok o.spawnRequest := by
  obtain ⟨preview, hpreview, h⟩ := bind_eq_ok.mp h
  obtain ⟨_, -, h⟩ := bind_eq_ok.mp h
  obtain ⟨spawnRequest, hspawn, h⟩ := bind_eq_ok.mp h
  obtain rfl := pure_eq_ok.mp h
  exact ⟨hpreview, rfl, rfl, hspawn⟩

theorem storeSilo_eq_ok {db' : SiloDb} {o : OpenSilo} (h : storeSilo db now siloId o = .ok db') :
    db.siloBySlug o.organizationId o.preview.slug = none ∧
      db.silos.insert? (o.silo now siloId) = some db'.silos ∧
      (∃ rows, roleRows db now siloId o.preview.roles = .ok rows ∧ db.roles.insertAll? rows = some db'.roles) ∧
      db'.gateways = db.gateways ∧
      db'.spawnRequests = match o.spawnRequest with
        | none => db.spawnRequests
        | some r => writeSpawnRequest db.spawnRequests r (r.materialize (o.silo now siloId) now) := by
  obtain ⟨_, hslug, h⟩ := bind_eq_ok.mp h
  obtain ⟨silos, hsilos, h⟩ := bind_eq_ok.mp h
  obtain ⟨rows, hrows, h⟩ := bind_eq_ok.mp h
  obtain ⟨roles, hroles, h⟩ := bind_eq_ok.mp h
  obtain rfl := pure_eq_ok.mp h
  exact ⟨require_eq_ok.mp hslug, orFail_eq_ok.mp hsilos, ⟨rows, hrows, orFail_eq_ok.mp hroles⟩, rfl, rfl⟩

theorem assignRole_eq_ok {assignment : SiloGatewayAssignment} {entries : List SiloRoleDesiredState}
    {done : SiloDb × List SiloRoleDesiredState} (h : assignRole db now siloId assignment entries = .ok done) :
    ∃ row gateway, db.roles.get? (siloId, assignment.roleSlug) = some row ∧
      resolveGateway db assignment.roleSlug assignment.gatewayId none = .ok gateway ∧
      done = ({ db with roles := db.roles.put (row.assign now gateway.1 gateway.2 assignment.workspaceRoot) },
        updateFirst (fun e => e.slug = assignment.roleSlug)
          (fun e => e.assign gateway.1 gateway.2 assignment.workspaceRoot) entries) := by
  obtain ⟨row, hrow, h⟩ := bind_eq_ok.mp h
  obtain ⟨gateway, hgateway, h⟩ := bind_eq_ok.mp h
  exact ⟨row, gateway, orFail_eq_ok.mp hrow, hgateway, (pure_eq_ok.mp h).symm⟩

theorem updateSilo_eq_ok {db' : SiloDb} {slug : String} {payload : SiloUpdate}
    (h : updateSilo db now organizationId slug payload = .ok db') :
    ∃ silo done, db.siloBySlug organizationId slug = some silo ∧
      (payload.gatewayAssignments.map (·.roleSlug)).Nodup ∧
      assignRoles db now silo.id silo.desiredState.roles payload.gatewayAssignments = .ok done ∧
      db' = { done.1 with silos := done.1.silos.put (silo.toggle now payload done.2) } := by
  obtain ⟨silo, hsilo, h⟩ := bind_eq_ok.mp h
  obtain ⟨assignments, hassign, h⟩ := bind_eq_ok.mp h
  obtain ⟨rfl, hnodup⟩ := assignmentMap_eq_ok.mp hassign
  obtain ⟨done, hdone, h⟩ := bind_eq_ok.mp h
  exact ⟨silo, done, orFail_eq_ok.mp hsilo, hnodup, hdone, (Except.ok.inj h).symm⟩

end SiloForge
