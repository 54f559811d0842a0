import SiloForge.Runs.Service
import SiloForge.Silos.DesiredState
import Mathlib.Data.List.Find

/-!
# Updates as creations

A silo that was created and then patched is compared with one created in one step from the merged payload. A creation
derives the roles from the blueprint and the toggles; a patch changes toggles and assignments in place, and leaves the
roles as they are.

* `SiloCreate.merge` : the payload of a silo with a patch;
* `UpdatesLikeCreation` : the patched silo is the one created so, and can be dispatched to where Symphony is enabled;
* `PatchesByName` : patches that leave Symphony as it is and assign gateways under the names of the blueprint;
* `updates_like_creation` : after such patches the silo is the one created so.
-/

namespace SiloForge

open Lib

/-! ## Merged payloads -/

/-- Assignments with one more, in the place of an earlier one for the role. -/
def mergeAssignment (a : SiloGatewayAssignment) : List SiloGatewayAssignment → List SiloGatewayAssignment
  | [] => [a]
  | b :: rest =>
    if b.roleSlug = a.roleSlug then { a with workspaceRoot := a.workspaceRoot.or b.workspaceRoot } :: rest
    else b :: mergeAssignment a rest

/-- The payload of a silo with a patch. -/
def SiloCreate.merge (payload : SiloCreate) (update : SiloUpdate) : SiloCreate :=
  { payload with
    enableSymphony := update.enableSymphony.getD payload.enableSymphony
    enableTelemetry := update.enableTelemetry.getD payload.enableTelemetry
    gatewayAssignments := update.gatewayAssignments.foldl (fun as a => mergeAssignment a as) payload.gatewayAssignments }

def SiloCreate.mergeAll (payload : SiloCreate) (updates : List (Time × SiloUpdate)) : SiloCreate :=
  updates.foldl (fun p u => p.merge u.2) payload

theorem assignmentOf_cons (b : SiloGatewayAssignment) (rest : List SiloGatewayAssignment) (slug : String) :
    assignmentOf (b :: rest) slug = if b.roleSlug = slug then some b else assignmentOf rest slug := by
  unfold assignmentOf
  rw [List.find?_cons]
  by_cases h : b.roleSlug = slug
  · rw [decide_eq_true h, if_pos h]
  · rw [decide_eq_false h, if_neg h]

theorem assignmentOf_mergeAssignment (a : SiloGatewayAssignment) (slug : String) (assignments : List SiloGatewayAssignment) :
    assignmentOf (mergeAssignment a assignments) slug =
      if slug = a.roleSlug then
        some { a with workspaceRoot := a.workspaceRoot.or ((assignmentOf assignments slug).bind (·.workspaceRoot)) }
      else assignmentOf assignments slug := by
  induction assignments with
  | nil =>
    rw [mergeAssignment, assignmentOf_cons]
    by_cases h : slug = a.roleSlug
    · rw [if_pos h.symm, if_pos h]
      show some a = some { a with workspaceRoot := a.workspaceRoot.or none }
      rw [Option.or_none]
    · rw [if_neg fun e => h e.symm, if_neg h]
  | cons b rest ih =>
    rw [mergeAssignment]
    by_cases hb : b.roleSlug = a.roleSlug
    · rw [if_pos hb, assignmentOf_cons, assignmentOf_cons]
      by_cases h : slug = a.roleSlug
      · rw [if_pos h.symm, if_pos h, if_pos (hb.trans h.symm)]
        rfl
      · rw [if_neg fun e => h e.symm, if_neg h, if_neg fun e => h (e.symm.trans hb)]
    · rw [if_neg hb, assignmentOf_cons, assignmentOf_cons, ih]
      by_cases h : b.roleSlug = slug
      · rw [if_pos h, if_pos h, if_neg fun e => hb (h.trans e)]
      · rw [if_neg h, if_neg h]

theorem slugs_mergeAssignment (a : SiloGatewayAssignment) (assignments : List SiloGatewayAssignment) :
    (mergeAssignment a assignments).map (·.roleSlug) =
      if a.roleSlug ∈ assignments.map (·.roleSlug) then assignments.map (·.roleSlug)
      else assignments.map (·.roleSlug) ++ [a.roleSlug] := by
  induction assignments with
  | nil => rfl
  | cons b rest ih =>
    rw [mergeAssignment]
    by_cases hb : b.roleSlug = a.roleSlug
    · rw [if_pos hb, if_pos (by simp [hb]), List.map_cons, List.map_cons, hb]
    · have hne : ¬ a.roleSlug = b.roleSlug := fun e => hb e.symm
      rw [if_neg hb, List.map_cons, ih, List.map_cons]
      by_cases hmem : a.roleSlug ∈ rest.map (·.roleSlug)
      · rw [if_pos hmem, if_pos (List.mem_cons_of_mem _ hmem)]
      · rw [if_neg hmem, if_neg (by simpa [hne] using hmem)]
        rfl

variable {assignments updates : List SiloGatewayAssignment} {db₀ db db' : SiloDb} {siloId organizationId : Uuid}
  {blueprint : SiloBlueprint} {payload : SiloCreate} {slug : String} {silo : SiloRecord} {now : Time}
  {a : SiloGatewayAssignment} {g : Option Uuid × Option String} {roles : List SiloRoleBlueprint}
  {done : SiloDb × List SiloRoleDesiredState}

theorem nodup_mergeAssignment (a : SiloGatewayAssignment) (h : (assignments.map (·.roleSlug)).Nodup) :
    ((mergeAssignment a assignments).map (·.roleSlug)).Nodup := by
  rw [slugs_mergeAssignment]
  split
  · exact h
  · rename_i hmem
    exact List.nodup_append.mpr ⟨h, List.nodup_singleton _, fun x hx y hy => by
      obtain rfl := List.mem_singleton.mp hy
      rintro rfl
      exact hmem hx⟩

/-! ## What is compared -/

def updateAll (db : SiloDb) (organizationId : Uuid) (slug : String) : List (Time × SiloUpdate) → Except Failure SiloDb
  | [] => .ok db
  | (now, payload) :: rest => do
    let db' ← updateSilo db now organizationId slug payload
    updateAll db' organizationId slug rest

/-- A role's row without its times. -/
def SiloRoleRecord.content (row : SiloRoleRecord) : SiloRoleRecord := { row with createdAt := 0, updatedAt := 0 }

/-- Two silos of two databases have the same flags, rows and desired roles. -/
structure SameSilo (db : SiloDb) (silo : SiloRecord) (db' : SiloDb) (silo' : SiloRecord) : Prop where
  symphony : silo.enableSymphony = silo'.enableSymphony
  telemetry : silo.enableTelemetry = silo'.enableTelemetry
  rows : ∀ slug, (db.roles.get? (silo.id, slug)).map (·.content) = (db'.roles.get? (silo'.id, slug)).map (·.content)
  roles : silo.desiredState.roles = silo'.desiredState.roles

/-- Symphony is enabled where the blueprint supports it and the silo has its role, and then runs can be dispatched. -/
structure SymphonyFits (db : SiloDb) (silo : SiloRecord) : Prop where
  enabled : silo.enableSymphony = true ↔
    (∃ blueprint, getBuiltinBlueprint silo.blueprintSlug = some blueprint ∧ blueprint.supportsSymphony = true) ∧
      ∃ row ∈ db.roles, row.siloId = silo.id ∧ row.runtimeKind = .symphony
  dispatched : silo.enableSymphony = true → ∃ role, resolveRole db.db silo.id none = .ok role

/-- A silo that is created and patched is the one created from the merged payload. -/
def UpdatesLikeCreation (lower : String → String) (db : SiloDb) (now : Time) (organizationId siloId : Uuid)
    (payload : SiloCreate) (updates : List (Time × SiloUpdate)) : Prop :=
  ∀ db₁ db₂, createSilo lower db now organizationId siloId payload = .ok db₁ →
    updateAll db₁ organizationId (siloSlug lower payload.name) updates = .ok db₂ →
      ∃ db' silo silo', createSilo lower db now organizationId siloId (payload.mergeAll updates) = .ok db' ∧
        db₂.silos.get? siloId = some silo ∧ db'.silos.get? siloId = some silo' ∧
          SameSilo db₂ silo db' silo' ∧ SymphonyFits db₂ silo

/-- An assignment a creation would make the same of: a gateway under the blueprint's name, its id as `str` writes it, and
no blank workspace. -/
def AssignsLikeCreation (db : SiloDb) (blueprint : SiloBlueprint) (a : SiloGatewayAssignment) : Prop :=
  a.workspaceRoot ≠ some "" ∧ ∃ id gateway, a.gatewayId = some (Uuid.format id) ∧ spelledUuid a.gatewayId = some id ∧
    db.gateways.get? id = some gateway ∧ (blueprint.targetOf a.roleSlug).map (·.gatewayName) = some gateway.name

/-- A patch leaves Symphony as the silo was created and assigns as a creation would. -/
def PatchesByName (db : SiloDb) (payload : SiloCreate) (update : SiloUpdate) : Prop :=
  ∀ blueprint, getBuiltinBlueprint payload.blueprintSlug = some blueprint →
    (∀ b, update.enableSymphony = some b → b = (payload.enableSymphony && blueprint.supportsSymphony)) ∧
      ∀ a ∈ update.gatewayAssignments, AssignsLikeCreation db blueprint a

/-! ## Silos that are as created -/

/-- Entry and row of a role are those of a creation. -/
def RoleLike (db₀ : SiloDb) (siloId : Uuid) (entry : Option SiloRoleDesiredState) (row : Option SiloRoleRecord) : Prop :=
  entry = none ∧ row = none ∨ ∃ role g, entry = some role ∧
    resolveGateway db₀ role.slug role.gatewayId role.gatewayName = .ok g ∧
      row.map (·.content) = some (role.row 0 siloId g)

def rolesOfPayload (blueprint : SiloBlueprint) (payload : SiloCreate) : List SiloRoleDesiredState :=
  (blueprint.rolesFor (payload.enableSymphony && blueprint.supportsSymphony)).map
    (desiredRole blueprint payload.gatewayAssignments)

/-- The silo of a slug is as a creation from the payload makes it. -/
structure LikeCreated (db₀ : SiloDb) (blueprint : SiloBlueprint) (payload : SiloCreate) (slug : String)
    (db : SiloDb) (silo : SiloRecord) : Prop where
  gateways : db.gateways = db₀.gateways
  found : db.siloBySlug silo.organizationId slug = some silo
  blueprintSlug : silo.blueprintSlug = blueprint.slug
  symphony : silo.enableSymphony = (payload.enableSymphony && blueprint.supportsSymphony)
  telemetry : silo.enableTelemetry = (payload.enableTelemetry && blueprint.supportsTelemetry)
  nodup : (payload.gatewayAssignments.map (·.roleSlug)).Nodup
  roles : silo.desiredState.roles = rolesOfPayload blueprint payload
  rows : ∀ slug, RoleLike db₀ silo.id (entryOf silo.desiredState.roles slug) (db.roles.get? (silo.id, slug))

theorem RoleLike.unique {entry : Option SiloRoleDesiredState} {row row' : Option SiloRoleRecord}
    (h : RoleLike db₀ siloId entry row) (h' : RoleLike db₀ siloId entry row') :
    row.map (·.content) = row'.map (·.content) := by
  rcases h with ⟨hnone, rfl⟩ | ⟨role, g, hrole, hg, hrow⟩
  · rcases h' with ⟨-, rfl⟩ | ⟨role, g, hrole, -, -⟩
    · rfl
    · rw [hnone] at hrole
      cases hrole
  · rcases h' with ⟨hnone, -⟩ | ⟨role', g', hrole', hg', hrow'⟩
    · rw [hnone] at hrole
      cases hrole
    · obtain rfl := Option.some.inj (hrole.symm.trans hrole')
      obtain rfl := Except.ok.inj (hg.symm.trans hg')
      rw [hrow, hrow']

/-- **Two silos created alike** are the same. -/
theorem LikeCreated.same {silo' : SiloRecord} (h : LikeCreated db₀ blueprint payload slug db silo)
    (h' : LikeCreated db₀ blueprint payload slug db' silo') (hid : silo.id = silo'.id) :
    SameSilo db silo db' silo' where
  symphony := h.symphony.trans h'.symphony.symm
  telemetry := h.telemetry.trans h'.telemetry.symm
  rows slug := by
    have hroles : silo.desiredState.roles = silo'.desiredState.roles := h.roles.trans h'.roles.symm
    have hrow := h.rows slug
    rw [hroles, hid] at hrow
    rw [hid]
    exact hrow.unique (h'.rows slug)
  roles := h.roles.trans h'.roles.symm

theorem LikeCreated.mem (h : LikeCreated db₀ blueprint payload slug db silo) : silo ∈ db.silos :=
  (siloBySlug_eq_some h.found).1

theorem LikeCreated.symphonyFits (hblueprint : blueprint.WellFormed)
    (hfound : getBuiltinBlueprint blueprint.slug = some blueprint) (h : LikeCreated db₀ blueprint payload slug db silo) :
    SymphonyFits db silo := by
  have hslugs : (silo.desiredState.roles.map (·.slug)).Nodup := by
    rw [h.roles, rolesOfPayload, List.map_map]
    exact SiloBlueprint.slugs_rolesFor hblueprint _
  have hrole : silo.enableSymphony = true → ∃ row ∈ db.roles, row.siloId = silo.id ∧ row.runtimeKind = .symphony := by
    intro henabled
    rw [h.symphony] at henabled
    have hsupports := (Bool.and_eq_true_iff.mp henabled).2
    obtain ⟨role, hrole, hkind⟩ := hblueprint.symphony hsupports
    have hmem : desiredRole blueprint payload.gatewayAssignments role ∈ silo.desiredState.roles := by
      rw [h.roles]
      exact List.mem_map_of_mem (SiloBlueprint.mem_rolesFor.mpr ⟨hrole, fun _ => henabled⟩)
    rcases h.rows role.slug with ⟨hnone, -⟩ | ⟨role', g, hentry, -, hrow⟩
    · rw [show role.slug = (desiredRole blueprint payload.gatewayAssignments role).slug from rfl,
        entryOf_of_mem hslugs hmem] at hnone
      cases hnone
    · obtain rfl := Option.some.inj ((entryOf_of_mem hslugs hmem).symm.trans hentry)
      obtain ⟨row, hget, hcontent⟩ := Option.map_eq_some_iff.mp hrow
      obtain ⟨hmemRow, hkey⟩ := Table.get?_eq_some.mp hget
      have hkindRow : row.runtimeKind = role.runtimeKind := congrArg SiloRoleRecord.runtimeKind hcontent
      exact ⟨row, hmemRow, congrArg Prod.fst hkey, hkindRow.trans hkind⟩
  refine ⟨⟨fun henabled => ⟨⟨blueprint, ?_, ?_⟩, hrole henabled⟩, ?_⟩, fun henabled => ?_⟩
  · rw [h.blueprintSlug, hfound]
  · rw [h.symphony] at henabled
    exact (Bool.and_eq_true_iff.mp henabled).2
  · rintro ⟨-, row, hrow, hsilo, hkind⟩
    have hget : db.roles.get? (silo.id, row.slug) = some row := Table.get?_eq_some.mpr ⟨hrow, Prod.ext hsilo rfl⟩
    rcases h.rows row.slug with ⟨-, hnone⟩ | ⟨role, g, hentry, -, hcontent⟩
    · rw [hget] at hnone
      cases hnone
    · rw [hget] at hcontent
      have hkindRole : row.runtimeKind = role.runtimeKind :=
        congrArg SiloRoleRecord.runtimeKind (Option.some.inj hcontent)
      obtain ⟨hmem, -⟩ := mem_of_entryOf hentry
      rw [h.roles] at hmem
      obtain ⟨role', hrole', rfl⟩ := List.mem_map.mp hmem
      rw [h.symphony]
      exact (SiloBlueprint.mem_rolesFor.mp hrole').2 (hkindRole.symm.trans hkind)
  · obtain ⟨row, hrow, hsilo, hkind⟩ := hrole henabled
    have hview : ({ siloId := row.siloId, slug := row.slug, runtimeKind := row.runtimeKind.text,
                    createdAt := row.createdAt } : SiloRole) ∈ db.db.siloRoles.rows.filter
        fun r => r.siloId = silo.id ∧ r.runtimeKind = symphonyRuntime := by
      refine List.mem_filter.mpr ⟨List.mem_map.mpr ⟨row, hrow, rfl⟩, decide_eq_true ⟨hsilo, ?_⟩⟩
      rw [hkind]
      rfl
    cases hfirst : firstBy (fun a b => a.createdAt < b.createdAt)
        (db.db.siloRoles.rows.filter fun r => r.siloId = silo.id ∧ r.runtimeKind = symphonyRuntime) with
    | none =>
      rw [firstBy_eq_none.mp hfirst] at hview
      cases hview
    | some role =>
      have hsymphony := (of_decide_eq_true (List.mem_filter.mp (mem_of_firstBy hfirst)).2).2
      refine ⟨role, ?_⟩
      unfold resolveRole
      rw [bind_eq_ok]
      refine ⟨role, ?_, bind_eq_ok.mpr ⟨(), require_eq_ok.mpr hsymphony, rfl⟩⟩
      exact orFail_eq_ok.mpr hfirst

/-! ## Creation -/

variable {lower : String → String}

theorem likeCreated_createSilo (hstored : RolesStored db)
    (h : createSilo lower db now organizationId siloId payload = .ok db') :
    ∃ blueprint silo, getBuiltinBlueprint payload.blueprintSlug = some blueprint ∧ silo.id = siloId ∧
      silo.organizationId = organizationId ∧
      LikeCreated db blueprint payload (siloSlug lower payload.name) db' silo := by
  obtain ⟨o, hopen, hstore⟩ := bind_eq_ok.mp h
  obtain ⟨hpreview, rfl, -, -⟩ := openSilo_eq_ok hopen
  obtain ⟨blueprint, hfound, hnodup, hpreview⟩ := buildPreview_eq_ok hpreview
  obtain ⟨hfree, hsilos, ⟨rows, hrows, hinsert⟩, hgateways, -⟩ := storeSilo_eq_ok hstore
  have hfresh : ∀ silo ∈ db.silos, silo.id ≠ siloId := Table.get?_eq_none.mp (Table.insert?_eq_some hsilos).2
  have hnew : ∀ row ∈ db.roles, row.siloId ≠ siloId := by
    intro row hrow he
    obtain ⟨silo, hsilo, hid⟩ := hstored row hrow
    exact hfresh silo hsilo (hid.trans he)
  refine ⟨blueprint, o.silo now siloId, hfound, rfl, rfl, ?_⟩
  refine
    { gateways := hgateways
      found := ?_
      blueprintSlug := congrArg SiloPreview.blueprintSlug hpreview
      symphony := congrArg SiloPreview.enableSymphony hpreview
      telemetry := congrArg SiloPreview.enableTelemetry hpreview
      nodup := hnodup
      roles := congrArg SiloPreview.roles hpreview
      rows := fun slug => ?_ }
  · have hslug : o.preview.slug = siloSlug lower payload.name := congrArg SiloPreview.slug hpreview
    unfold SiloDb.siloBySlug at hfree ⊢
    rw [(Table.insert?_eq_some hsilos).1, List.find?_append, ← hslug]
    rw [show (o.silo now siloId).organizationId = o.organizationId from rfl, hfree, Option.none_or]
    exact List.find?_cons_of_pos (decide_eq_true ⟨rfl, rfl⟩)
  · rcases get?_newRoles hrows hinsert hnew slug with hnone | ⟨role, g, hentry, hg, hget⟩
    · exact .inl hnone
    · exact .inr ⟨role, g, hentry, hg, by rw [show (o.silo now siloId).id = siloId from rfl, hget]; rfl⟩

theorem exists_roleRows {roles : List SiloRoleDesiredState}
    (h : ∀ role ∈ roles, ∃ g, resolveGateway db role.slug role.gatewayId role.gatewayName = .ok g) :
    ∃ rows, roleRows db now siloId roles = .ok rows ∧ rows.map key = roles.map fun role => (siloId, role.slug) := by
  induction roles with
  | nil => exact ⟨[], rfl, rfl⟩
  | cons role rest ih =>
    obtain ⟨g, hg⟩ := h role List.mem_cons_self
    obtain ⟨rows, hrows, hkeys⟩ := ih fun role hrole => h role (List.mem_cons_of_mem _ hrole)
    refine ⟨role.row now siloId g :: rows, bind_eq_ok.mpr ⟨g, hg, bind_eq_ok.mpr ⟨rows, hrows, rfl⟩⟩, ?_⟩
    rw [List.map_cons, List.map_cons, hkeys]
    rfl

theorem createSilo_of_roles {payload' : SiloCreate} (hblueprint : blueprint.WellFormed)
    (hstored : RolesStored db) (h : createSilo lower db now organizationId siloId payload = .ok db')
    (hfound : getBuiltinBlueprint payload'.blueprintSlug = some blueprint) (hname : payload'.name = payload.name)
    (hspawn : payload'.spawnRequestId = payload.spawnRequestId)
    (hnodup : (payload'.gatewayAssignments.map (·.roleSlug)).Nodup)
    (hroles : ∀ role ∈ rolesOfPayload blueprint payload',
      ∃ g, resolveGateway db role.slug role.gatewayId role.gatewayName = .ok g) :
    ∃ db'', createSilo lower db now organizationId siloId payload' = .ok db'' := by
  obtain ⟨o, hopen, hstore⟩ := bind_eq_ok.mp h
  obtain ⟨hpreview, rfl, -, hnamed⟩ := openSilo_eq_ok hopen
  obtain ⟨blueprint₀, -, -, hpreview⟩ := buildPreview_eq_ok hpreview
  obtain ⟨hfree, hsilos, -, -, -⟩ := storeSilo_eq_ok hstore
  have hslug : o.preview.slug = siloSlug lower payload'.name := hname ▸ congrArg SiloPreview.slug hpreview
  rw [hslug] at hfree
  have hopen' : openSilo lower db o.organizationId payload' = .ok
      { organizationId := o.organizationId, payload := payload'
        preview := previewOf lower blueprint payload' payload'.gatewayAssignments, spawnRequest := o.spawnRequest } := by
    refine bind_eq_ok.mpr ⟨_, bind_eq_ok.mpr ⟨blueprint, orFail_eq_ok.mpr hfound, bind_eq_ok.mpr
      ⟨_, assignmentMap_eq_ok.mpr ⟨rfl, hnodup⟩, rfl⟩⟩, ?_⟩
    refine bind_eq_ok.mpr ⟨(), require_eq_ok.mpr hfree, bind_eq_ok.mpr ⟨o.spawnRequest, ?_, rfl⟩⟩
    rw [hspawn]
    exact hnamed
  obtain ⟨rows, hrows, hkeys⟩ : ∃ rows, roleRows db now siloId (rolesOfPayload blueprint payload') = .ok rows ∧
      rows.map key = (rolesOfPayload blueprint payload').map fun role => (siloId, role.slug) := exists_roleRows hroles
  have hfresh : ∀ silo ∈ db.silos, silo.id ≠ siloId := Table.get?_eq_none.mp (Table.insert?_eq_some hsilos).2
  have hinsert : ∃ roles', db.roles.insertAll? rows = some roles' := by
    refine Table.exists_insertAll?.mpr ⟨fun row hrow => ?_, ?_⟩
    · refine Table.get?_eq_none.mpr fun row' hrow' hk => ?_
      obtain ⟨silo, hsilo, hid⟩ := hstored row' hrow'
      have hsame : row'.siloId = row.siloId := congrArg Prod.fst hk
      exact hfresh silo hsilo (hid.trans (hsame.trans (siloId_roleRows hrows row hrow)))
    · rw [hkeys, rolesOfPayload, List.map_map]
      have hslugs := SiloBlueprint.slugs_rolesFor hblueprint (payload'.enableSymphony && blueprint.supportsSymphony)
      have hpair := hslugs.map (f := fun slug => (siloId, slug)) fun a b hab => congrArg Prod.snd hab
      rw [List.map_map] at hpair
      exact hpair
  obtain ⟨roles', hinsert⟩ := hinsert
  have hsilos' : ∃ silos', db.silos.insert? (OpenSilo.silo
      { organizationId := o.organizationId, payload := payload'
        preview := previewOf lower blueprint payload' payload'.gatewayAssignments, spawnRequest := o.spawnRequest }
      now siloId) = some silos' := Table.exists_insert?.mpr (Table.get?_eq_none.mpr hfresh)
  obtain ⟨silos', hsilos'⟩ := hsilos'
  refine ⟨_, bind_eq_ok.mpr ⟨_, hopen', bind_eq_ok.mpr ⟨(), require_eq_ok.mpr hfree, bind_eq_ok.mpr
    ⟨silos', orFail_eq_ok.mpr hsilos', bind_eq_ok.mpr ⟨rows, hrows, bind_eq_ok.mpr
      ⟨roles', orFail_eq_ok.mpr hinsert, rfl⟩⟩⟩⟩⟩⟩

/-! ## Patches -/

theorem siloBySlug_put {silo' : SiloRecord} (h : db.siloBySlug organizationId slug = some silo)
    (hid : silo'.id = silo.id) (horg : silo'.organizationId = silo.organizationId) (hslug : silo'.slug = silo.slug)
    (db' : SiloDb) (hsilos : db'.silos = db.silos.put silo') : db'.siloBySlug organizationId slug = some silo' := by
  obtain ⟨hmem, -, -⟩ := siloBySlug_eq_some h
  unfold SiloDb.siloBySlug at h ⊢
  rw [hsilos]
  show (db.silos.rows.map _).find? _ = some silo'
  rw [List.find?_map]
  have hsame : ∀ r ∈ db.silos.rows, key r = key silo' → r = silo :=
    fun r hr hk => Table.eq_of_key_eq hr hmem (hk.trans hid)
  have hfind : db.silos.rows.find? ((fun s : SiloRecord => decide (s.organizationId = organizationId ∧ s.slug = slug)) ∘
      fun r' => if (decide (key r' = key silo')) = true then silo' else r') = some silo := by
    rw [← h]
    refine List.find?_congr fun r hr => ?_
    refine decide_eq_decide.mpr ?_
    by_cases hk : key r = key silo'
    · dsimp only
      rw [if_pos (decide_eq_true hk), hsame r hr hk, horg, hslug]
    · dsimp only
      rw [if_neg (by simpa using hk)]
  rw [hfind, Option.map_some]
  exact congrArg some (if_pos (decide_eq_true hid.symm))

theorem assign_desiredRole {role : SiloRoleBlueprint} (hrole : role.slug = a.roleSlug)
    (hlike : AssignsLikeCreation db blueprint a) (hg : resolveGateway db a.roleSlug a.gatewayId none = .ok g) :
    (desiredRole blueprint assignments role).assign g.1 g.2 a.workspaceRoot =
      desiredRole blueprint (mergeAssignment a assignments) role := by
  obtain ⟨hroot, id, gateway, htext, hspelled, hget, htarget⟩ := hlike
  have hgateway : g = (some id, some gateway.name) := by
    rcases resolveGateway_eq_ok hg with ⟨hnone, -⟩ | ⟨id', gateway', hspelled', hget', rfl⟩
    · rw [hnone] at hspelled
      cases hspelled
    · obtain rfl := Option.some.inj (hspelled.symm.trans hspelled')
      obtain rfl := Option.some.inj (hget.symm.trans hget')
      rfl
  have hassigned := assignmentOf_mergeAssignment a role.slug assignments
  rw [if_pos hrole] at hassigned
  have hworkspace : patchWorkspace a.workspaceRoot (desiredRole blueprint assignments role).workspaceRoot =
      (desiredRole blueprint (mergeAssignment a assignments) role).workspaceRoot := by
    unfold desiredRole
    dsimp only
    rw [hassigned, Option.bind_some]
    cases hgiven : a.workspaceRoot with
    | none =>
      rw [patchWorkspace, Option.none_or]
      cases assignmentOf assignments role.slug <;> rfl
    | some w =>
      have hw : w ≠ "" := fun h => hroot (hgiven.trans (congrArg some h))
      have hgivenRoot : orNone (some w) = some w := Option.filter_some_pos (decide_eq_true hw)
      rw [patchWorkspace, Option.some_or, hgivenRoot, Option.some_or]
  unfold SiloRoleDesiredState.assign
  rw [hworkspace, hgateway, ← hrole] at *
  unfold desiredRole
  dsimp only
  rw [hassigned, Option.bind_some, htext, htarget]
  rfl

theorem resolveGateway_congr (h : db.gateways = db'.gateways) (roleSlug : String) (text default : Option String) :
    resolveGateway db roleSlug text default = resolveGateway db' roleSlug text default := by
  unfold resolveGateway
  rw [h]

theorem resolveGateway_default {roleSlug : String} {text default : Option String} {id : Uuid}
    (hspelled : spelledUuid text = some id) (h : resolveGateway db roleSlug text default = .ok g)
    (default' : Option String) :
    resolveGateway db roleSlug text default' = .ok g := by
  obtain ⟨gatewayId, huuid, h⟩ := bind_eq_ok.mp h
  obtain rfl := (uuidOrNone_eq_ok huuid).symm.trans hspelled
  exact bind_eq_ok.mpr ⟨_, huuid, h⟩

theorem desiredRole_congr {assignments' : List SiloGatewayAssignment} {role : SiloRoleBlueprint}
    (h : assignmentOf assignments role.slug = assignmentOf assignments' role.slug) :
    desiredRole blueprint assignments role = desiredRole blueprint assignments' role := by
  unfold desiredRole
  rw [h]

theorem updateFirst_desiredRole (hlike : AssignsLikeCreation db blueprint a)
    (hg : resolveGateway db a.roleSlug a.gatewayId none = .ok g) (hslugs : (roles.map (·.slug)).Nodup) :
    updateFirst (fun e => e.slug = a.roleSlug) (fun e => e.assign g.1 g.2 a.workspaceRoot)
        (roles.map (desiredRole blueprint assignments)) =
      roles.map (desiredRole blueprint (mergeAssignment a assignments)) := by
  have hother : ∀ role : SiloRoleBlueprint, role.slug ≠ a.roleSlug →
      desiredRole blueprint assignments role = desiredRole blueprint (mergeAssignment a assignments) role := by
    intro role hne
    refine desiredRole_congr ?_
    rw [assignmentOf_mergeAssignment, if_neg hne]
  induction roles with
  | nil => rfl
  | cons role rest ih =>
    obtain ⟨hfresh, hrest⟩ := List.nodup_cons.mp hslugs
    rw [List.map_cons, updateFirst, List.map_cons]
    have hslug : (desiredRole blueprint assignments role).slug = role.slug := rfl
    by_cases hrole : role.slug = a.roleSlug
    · rw [if_pos (decide_eq_true (hslug.trans hrole)), assign_desiredRole hrole hlike hg]
      refine congrArg _ (List.map_congr_left fun role' hrole' => hother role' fun he => hfresh ?_)
      exact List.mem_map.mpr ⟨role', hrole', he.trans hrole.symm⟩
    · have hneg : ¬ decide ((desiredRole blueprint assignments role).slug = a.roleSlug) = true :=
        fun h => hrole (hslug.symm.trans (of_decide_eq_true h))
      rw [if_neg hneg, ih hrest, hother role hrole]

theorem roleLike_assignRole (hgateways : db.gateways = db₀.gateways)
    (hslugs : (roles.map (·.slug)).Nodup) (hlike : AssignsLikeCreation db₀ blueprint a)
    (h : assignRole db now siloId a (roles.map (desiredRole blueprint assignments)) = .ok done)
    (hrows : ∀ slug, RoleLike db₀ siloId (entryOf (roles.map (desiredRole blueprint assignments)) slug)
      (db.roles.get? (siloId, slug))) :
    done.1.gateways = db₀.gateways ∧ done.2 = roles.map (desiredRole blueprint (mergeAssignment a assignments)) ∧
      ∀ slug, RoleLike db₀ siloId (entryOf done.2 slug) (done.1.roles.get? (siloId, slug)) := by
  obtain ⟨row, g, hrow, hg, rfl⟩ := assignRole_eq_ok h
  rw [resolveGateway_congr hgateways] at hg
  refine ⟨hgateways, updateFirst_desiredRole hlike hg hslugs, fun slug => ?_⟩
  dsimp only
  have hassign : ∀ e : SiloRoleDesiredState, (e.assign g.1 g.2 a.workspaceRoot).slug = e.slug := fun _ => rfl
  rw [entryOf_updateFirst hassign, get?_assignRole hrow g]
  by_cases hslug : slug = a.roleSlug
  · subst hslug
    rw [if_pos rfl, if_pos rfl]
    rcases hrows a.roleSlug with ⟨-, hnone⟩ | ⟨role, g₀, hentry, -, hcontent⟩
    · rw [hrow] at hnone
      cases hnone
    · rw [hrow, Option.map_some] at hcontent
      have hcontent := Option.some.inj hcontent
      obtain ⟨-, hname⟩ := mem_of_entryOf hentry
      refine .inr ⟨role.assign g.1 g.2 a.workspaceRoot, g, by rw [hentry, Option.map_some], ?_, ?_⟩
      · obtain ⟨-, id, gateway, htext, hspelled, hget, -⟩ := hlike
        have htexts : g.1.map Uuid.format = a.gatewayId := by
          rcases resolveGateway_eq_ok hg with ⟨hnone, -⟩ | ⟨id', gateway', hspelled', -, rfl⟩
          · rw [hnone] at hspelled
            cases hspelled
          · obtain rfl := Option.some.inj (hspelled.symm.trans hspelled')
            exact htext.symm
        show resolveGateway db₀ role.slug (g.1.map Uuid.format) g.2 = .ok g
        rw [htexts, hname]
        exact resolveGateway_default hspelled hg _
      · have hroot : row.workspaceRoot = role.workspaceRoot := congrArg SiloRoleRecord.workspaceRoot hcontent
        have hparts : (row.assign now g.1 g.2 a.workspaceRoot).content =
            { row.content with gatewayId := g.1, gatewayName := g.2
                               workspaceRoot := patchWorkspace a.workspaceRoot row.workspaceRoot } := rfl
        rw [Option.map_some, hparts, hcontent, hroot]
        rfl
  · rw [if_neg hslug, if_neg fun hk => hslug (congrArg Prod.snd hk)]
    exact hrows slug

theorem roleLike_assignRoles (hslugs : (roles.map (·.slug)).Nodup)
    (hlike : ∀ a ∈ updates, AssignsLikeCreation db₀ blueprint a) (hgateways : db.gateways = db₀.gateways)
    (h : assignRoles db now siloId (roles.map (desiredRole blueprint assignments)) updates = .ok done)
    (hrows : ∀ slug, RoleLike db₀ siloId (entryOf (roles.map (desiredRole blueprint assignments)) slug)
      (db.roles.get? (siloId, slug))) :
    done.2 = roles.map (desiredRole blueprint (updates.foldl (fun as a => mergeAssignment a as) assignments)) ∧
      ∀ slug, RoleLike db₀ siloId (entryOf done.2 slug) (done.1.roles.get? (siloId, slug)) := by
  induction updates generalizing db assignments with
  | nil =>
    obtain rfl := Except.ok.inj h
    exact ⟨rfl, hrows⟩
  | cons a rest ih =>
    obtain ⟨ha, hrest⟩ := List.forall_mem_cons.mp hlike
    obtain ⟨mid, hmid, h⟩ := bind_eq_ok.mp h
    obtain ⟨hgateways', hentries, hrows'⟩ := roleLike_assignRole hgateways hslugs ha hmid hrows
    rw [hentries] at h hrows'
    exact ih hrest hgateways' h hrows'

theorem nodup_foldl_mergeAssignment (h : (assignments.map (·.roleSlug)).Nodup) :
    ((updates.foldl (fun as a => mergeAssignment a as) assignments).map (·.roleSlug)).Nodup := by
  induction updates generalizing assignments with
  | nil => exact h
  | cons a rest ih => exact ih (nodup_mergeAssignment a h)

theorem merge_enableSymphony {update : SiloUpdate}
    (h : ∀ b, update.enableSymphony = some b → b = (payload.enableSymphony && blueprint.supportsSymphony)) :
    ((payload.merge update).enableSymphony && blueprint.supportsSymphony) =
      (payload.enableSymphony && blueprint.supportsSymphony) := by
  show (update.enableSymphony.getD payload.enableSymphony && blueprint.supportsSymphony) = _
  cases hgiven : update.enableSymphony with
  | none => rfl
  | some b => rw [Option.getD_some, h b hgiven, Bool.and_assoc, Bool.and_self]

/-- **A patch by name** keeps a silo as created, from the merged payload. -/
theorem likeCreated_updateSilo {update : SiloUpdate} (hblueprint : blueprint.WellFormed)
    (htelemetry : blueprint.supportsTelemetry = true) (hlike : LikeCreated db₀ blueprint payload slug db silo)
    (hsymphony : ∀ b, update.enableSymphony = some b → b = (payload.enableSymphony && blueprint.supportsSymphony))
    (hassigns : ∀ a ∈ update.gatewayAssignments, AssignsLikeCreation db₀ blueprint a)
    (h : updateSilo db now silo.organizationId slug update = .ok db') :
    ∃ silo', silo'.id = silo.id ∧ silo'.organizationId = silo.organizationId ∧
      LikeCreated db₀ blueprint (payload.merge update) slug db' silo' := by
  obtain ⟨silo₁, done, hfound, -, hdone, rfl⟩ := updateSilo_eq_ok h
  obtain rfl := Option.some.inj (hlike.found.symm.trans hfound)
  obtain ⟨hgateways, hsilos, -, -, -⟩ := assignRoles_rest hdone
  have hrows := hlike.rows
  rw [hlike.roles, rolesOfPayload] at hdone hrows
  have hslugs := SiloBlueprint.slugs_rolesFor hblueprint (payload.enableSymphony && blueprint.supportsSymphony)
  obtain ⟨hentries, hrows'⟩ := roleLike_assignRoles hslugs hassigns hlike.gateways hdone hrows
  have henabled := merge_enableSymphony hsymphony
  have hput : ∀ db' : SiloDb, db'.silos = db.silos.put (silo.toggle now update done.2) →
      db'.siloBySlug silo.organizationId slug = some (silo.toggle now update done.2) :=
    siloBySlug_put hfound rfl rfl rfl
  refine ⟨silo.toggle now update done.2, rfl, rfl, ?_⟩
  refine
    { gateways := hgateways.trans hlike.gateways
      found := hput _ (congrArg (·.put (silo.toggle now update done.2)) hsilos)
      blueprintSlug := hlike.blueprintSlug
      symphony := ?_
      telemetry := ?_
      nodup := nodup_foldl_mergeAssignment hlike.nodup
      roles := ?_
      rows := hrows' }
  · rw [henabled]
    show update.enableSymphony.getD silo.enableSymphony = _
    cases hgiven : update.enableSymphony with
    | none => exact hlike.symphony
    | some b => exact hsymphony b hgiven
  · have hflag := hlike.telemetry
    rw [htelemetry, Bool.and_true] at hflag
    rw [htelemetry, Bool.and_true]
    show update.enableTelemetry.getD silo.enableTelemetry = update.enableTelemetry.getD payload.enableTelemetry
    rw [hflag]
  · rw [rolesOfPayload, henabled]
    exact hentries

theorem likeCreated_updateAll (hblueprint : blueprint.WellFormed) (htelemetry : blueprint.supportsTelemetry = true)
    {updates : List (Time × SiloUpdate)} (hlike : LikeCreated db₀ blueprint payload slug db silo)
    (hpatches : ∀ u ∈ updates,
      (∀ b, u.2.enableSymphony = some b → b = (payload.enableSymphony && blueprint.supportsSymphony)) ∧
        ∀ a ∈ u.2.gatewayAssignments, AssignsLikeCreation db₀ blueprint a)
    (h : updateAll db silo.organizationId slug updates = .ok db') :
    ∃ silo', silo'.id = silo.id ∧ LikeCreated db₀ blueprint (payload.mergeAll updates) slug db' silo' := by
  induction updates generalizing db payload silo with
  | nil =>
    obtain rfl := Except.ok.inj h
    exact ⟨silo, rfl, hlike⟩
  | cons u rest ih =>
    obtain ⟨⟨hsymphony, hassigns⟩, hrest⟩ := List.forall_mem_cons.mp hpatches
    obtain ⟨db₁, hupdate, h⟩ := bind_eq_ok.mp h
    obtain ⟨silo₁, hid, horg, hlike₁⟩ :=
      likeCreated_updateSilo hblueprint htelemetry hlike hsymphony hassigns hupdate
    rw [← horg] at h
    have hsame := merge_enableSymphony hsymphony
    obtain ⟨silo', hid', hlike'⟩ := ih hlike₁ (fun v hv => ⟨hsame ▸ (hrest v hv).1, (hrest v hv).2⟩) h
    exact ⟨silo', hid'.trans hid, hlike'⟩

theorem mergeAll_same (updates : List (Time × SiloUpdate)) (payload : SiloCreate) :
    (payload.mergeAll updates).name = payload.name ∧
      (payload.mergeAll updates).blueprintSlug = payload.blueprintSlug ∧
      (payload.mergeAll updates).spawnRequestId = payload.spawnRequestId := by
  induction updates generalizing payload with
  | nil => exact ⟨rfl, rfl, rfl⟩
  | cons u rest ih => exact ih (payload.merge u.2)

/-- **Updating a silo is like creating it that way**, for patches by name. -/
theorem updates_like_creation {db : SiloDb} {now : Time} {organizationId siloId : Uuid}
    {payload : SiloCreate} {updates : List (Time × SiloUpdate)} (hstored : RolesStored db)
    (hpatches : ∀ u ∈ updates, PatchesByName db payload u.2) :
    UpdatesLikeCreation lower db now organizationId siloId payload updates := by
  intro db₁ db₂ hcreate hupdate
  obtain ⟨blueprint, silo₁, hfound, rfl, rfl, hlike₁⟩ := likeCreated_createSilo hstored hcreate
  obtain rfl := mem_builtin hfound
  have hpatches' := fun u hu => hpatches u hu _ hfound
  obtain ⟨silo₂, hid₂, hlike₂⟩ := likeCreated_updateAll wellFormed_default rfl hlike₁ hpatches' hupdate
  obtain ⟨hname, hblueprint, hspawn⟩ := mergeAll_same updates payload
  have hfound' : getBuiltinBlueprint (payload.mergeAll updates).blueprintSlug = some defaultFourAgentBlueprint := by
    rw [hblueprint, hfound]
  have hroles : ∀ role ∈ rolesOfPayload defaultFourAgentBlueprint (payload.mergeAll updates),
      ∃ g, resolveGateway db role.slug role.gatewayId role.gatewayName = .ok g := by
    intro role hrole
    have hslugs : ((rolesOfPayload defaultFourAgentBlueprint (payload.mergeAll updates)).map (·.slug)).Nodup := by
      rw [rolesOfPayload, List.map_map]
      exact SiloBlueprint.slugs_rolesFor wellFormed_default _
    have hentry := entryOf_of_mem hslugs hrole
    rcases hlike₂.rows role.slug with ⟨hnone, -⟩ | ⟨role', g, hentry', hg, -⟩
    · rw [hlike₂.roles, hentry] at hnone
      cases hnone
    · rw [hlike₂.roles] at hentry'
      obtain rfl := Option.some.inj (hentry.symm.trans hentry')
      exact ⟨g, hg⟩
  obtain ⟨db', hcreate'⟩ := createSilo_of_roles wellFormed_default hstored hcreate hfound' hname hspawn hlike₂.nodup hroles
  obtain ⟨blueprint', silo', hfound'', hid', -, hlike'⟩ := likeCreated_createSilo hstored hcreate'
  obtain rfl := mem_builtin hfound''
  rw [hname] at hlike'
  have hstored₂ : db₂.silos.get? silo₁.id = some silo₂ := hid₂ ▸ Table.get?_key hlike₂.mem
  have hstored' : db'.silos.get? silo₁.id = some silo' := hid' ▸ Table.get?_key hlike'.mem
  refine ⟨db', silo₂, silo', hcreate', hstored₂, hstored', hlike₂.same hlike' (hid₂.trans hid'.symm), ?_⟩
  exact hlike₂.symphonyFits wellFormed_default (by decide)

namespace Sample

def foxGateway : SiloGateway := { id := 9, organizationId := 1, name := "fox-gateway" }

def namedGateways : SiloDb where
  gateways := ⟨[foxGateway], by decide⟩

def plainSilo : SiloCreate := { name := "Demo Silo", blueprintSlug := "default-four-agent" }

def assignFox : List (Time × SiloUpdate) :=
  [(2, { gatewayAssignments := [{ roleSlug := "fox", gatewayId := some "00000000-0000-0000-0000-000000000009"
                                  workspaceRoot := some "/srv/fox" }] })]

def enableLater : List (Time × SiloUpdate) := [(2, { enableSymphony := some true })]

/-- The flag of silo 5 and whether it has a Symphony role, after patches. -/
def symphonyAfter (updates : List (Time × SiloUpdate)) : Except Failure (Option Bool × Bool) := do
  let db₁ ← createSilo id namedGateways 1 1 5 plainSilo
  let db₂ ← updateAll db₁ 1 (siloSlug id plainSilo.name) updates
  return ((db₂.silos.get? 5).map (·.enableSymphony), db₂.roles.rows.any fun r => r.runtimeKind = .symphony)

end Sample

theorem rolesStored_namedGateways : RolesStored Sample.namedGateways := fun _ h => absurd h List.not_mem_nil

theorem updates_like_creation_assignFox :
    UpdatesLikeCreation id Sample.namedGateways 1 1 5 Sample.plainSilo Sample.assignFox := by
  refine updates_like_creation rolesStored_namedGateways fun u hu blueprint hfound => ?_
  obtain rfl := mem_builtin hfound
  obtain rfl := List.mem_singleton.mp hu
  refine ⟨fun b hb => (by cases hb), fun a ha => ?_⟩
  obtain rfl := List.mem_singleton.mp ha
  refine ⟨by decide, 9, Sample.foxGateway, by decide, by decide +kernel, rfl, by decide⟩

/-- Symphony enabled by a patch: the silo has no role for it, so nothing can be dispatched to it. -/
theorem not_updates_like_creation : ¬ ∀ (lower : String → String) (db : SiloDb) (now : Time)
    (organizationId siloId : Uuid) (payload : SiloCreate) (updates : List (Time × SiloUpdate)), RolesStored db →
      UpdatesLikeCreation lower db now organizationId siloId payload updates := by
  intro h
  have hlike := h id Sample.namedGateways 1 1 5 Sample.plainSilo Sample.enableLater rolesStored_namedGateways
  have hafter : Sample.symphonyAfter Sample.enableLater = .ok (some true, false) := by decide
  obtain ⟨db₁, hcreate, hafter⟩ := bind_eq_ok.mp hafter
  obtain ⟨db₂, hupdate, hafter⟩ := bind_eq_ok.mp hafter
  obtain ⟨hflag, hroles⟩ := Prod.mk.inj (pure_eq_ok.mp hafter)
  obtain ⟨db', silo, silo', -, hget, -, -, hfits⟩ := hlike db₁ db₂ hcreate hupdate
  rw [hget, Option.map_some] at hflag
  obtain ⟨-, row, hrow, -, hkind⟩ := hfits.enabled.mp (Option.some.inj hflag)
  rw [List.any_eq_false] at hroles
  exact hroles row hrow (decide_eq_true hkind)

end SiloForge
