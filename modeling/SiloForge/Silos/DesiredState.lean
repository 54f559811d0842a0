import SiloForge.Lib.Machine
import SiloForge.Silos.Service

/-!
# Desired state and rows

The place of a role is stored twice: in the silo's desired state, and in the role's row. A creation takes the name of
the gateway from the blueprint for the one and from the gateway for the other, and neither operation asks whose
gateway it is.

* `InStep` : a silo's desired state and its rows have each role in one place, on a gateway of its organization;
* `PlacesByName`, `OwnGateways` : assignments of own gateways, for a creation under the names of the blueprint;
* `createSilo_inStep_iff`, `updateSilo_inStep_iff` : these keep every silo in step, and no others do;
* `committed_inStep_iff` : over runs of creations and updates.
-/

namespace SiloForge

open Lib

structure Placement where
  gatewayId : Option Uuid
  gatewayName : Option String
  workspaceRoot : Option String
  deriving DecidableEq

def SiloRoleRecord.placement (row : SiloRoleRecord) : Placement := ⟨row.gatewayId, row.gatewayName, row.workspaceRoot⟩

def SiloRoleDesiredState.placement (entry : SiloRoleDesiredState) : Placement :=
  ⟨spelledUuid entry.gatewayId, entry.gatewayName, entry.workspaceRoot⟩

def entryOf (entries : List SiloRoleDesiredState) (slug : String) : Option SiloRoleDesiredState :=
  entries.find? fun e => e.slug = slug

/-- Entries and rows have each role in one place. -/
def RolesAgree (db : SiloDb) (siloId : Uuid) (entries : List SiloRoleDesiredState) : Prop :=
  ∀ slug, (entryOf entries slug).map (·.placement) = (db.roles.get? (siloId, slug)).map (·.placement)

/-- A gateway, where one is named, is of the organization. -/
def Owned (db : SiloDb) (organizationId : Uuid) (p : Placement) : Prop :=
  ∀ id, p.gatewayId = some id → ∃ gateway, db.gateways.get? id = some gateway ∧ gateway.organizationId = organizationId

/-- A silo's desired state and its rows agree, on gateways of its organization. -/
structure InStep (db : SiloDb) (silo : SiloRecord) : Prop where
  agree : RolesAgree db silo.id silo.desiredState.roles
  ownEntries : ∀ slug entry, entryOf silo.desiredState.roles slug = some entry →
    Owned db silo.organizationId entry.placement
  ownRows : ∀ slug row, db.roles.get? (silo.id, slug) = some row → Owned db silo.organizationId row.placement

/-! ## Agreement -/

theorem entryOf_cons (e : SiloRoleDesiredState) (rest : List SiloRoleDesiredState) (slug : String) :
    entryOf (e :: rest) slug = if e.slug = slug then some e else entryOf rest slug := by
  unfold entryOf
  rw [List.find?_cons]
  by_cases h : e.slug = slug
  · rw [decide_eq_true h, if_pos h]
  · rw [decide_eq_false h, if_neg h]

theorem entryOf_updateFirst {f : SiloRoleDesiredState → SiloRoleDesiredState} (hf : ∀ e, (f e).slug = e.slug)
    (roleSlug slug : String) (entries : List SiloRoleDesiredState) :
    entryOf (updateFirst (fun e => e.slug = roleSlug) f entries) slug =
      if slug = roleSlug then (entryOf entries slug).map f else entryOf entries slug := by
  induction entries with
  | nil => exact (ite_self none).symm
  | cons e rest ih =>
    rw [updateFirst, entryOf_cons]
    by_cases he : e.slug = roleSlug
    · rw [if_pos (decide_eq_true he), entryOf_cons, hf]
      by_cases hs : slug = roleSlug
      · rw [if_pos hs, if_pos (he.trans hs.symm), if_pos (he.trans hs.symm), Option.map_some]
      · have hne : ¬ e.slug = slug := fun h => hs (h.symm.trans he)
        rw [if_neg hs, if_neg hne, if_neg hne]
    · rw [if_neg (by simpa using he), entryOf_cons, ih]
      by_cases hslug : e.slug = slug
      · rw [if_pos hslug, if_pos hslug, if_neg fun h => he (hslug.trans h)]
      · rw [if_neg hslug, if_neg hslug]

variable {db db' : SiloDb} {silo : SiloRecord} {g : Option Uuid × Option String} {entry : SiloRoleDesiredState}
  {organizationId siloId : Uuid} {now : Time} {entries : List SiloRoleDesiredState}
  {done : SiloDb × List SiloRoleDesiredState} {assignments : List SiloGatewayAssignment} {slug : String}
  {lower : String → String} {payload : SiloCreate}

theorem InStep.of_rows (agree : RolesAgree db silo.id silo.desiredState.roles)
    (ownRows : ∀ slug row, db.roles.get? (silo.id, slug) = some row → Owned db silo.organizationId row.placement) :
    InStep db silo where
  agree
  ownRows
  ownEntries := by
    intro slug entry hentry
    have hplace := agree slug
    rw [hentry, Option.map_some] at hplace
    obtain ⟨row, hrow, hsame⟩ := Option.map_eq_some_iff.mp hplace.symm
    rw [← hsame]
    exact ownRows slug row hrow

theorem inStep_congr (hgateways : db'.gateways = db.gateways)
    (hroles : ∀ slug, db'.roles.get? (silo.id, slug) = db.roles.get? (silo.id, slug)) :
    InStep db' silo ↔ InStep db silo := by
  have howned : ∀ p, Owned db' silo.organizationId p ↔ Owned db silo.organizationId p := by
    intro p
    unfold Owned
    rw [hgateways]
  have hagree : RolesAgree db' silo.id silo.desiredState.roles ↔ RolesAgree db silo.id silo.desiredState.roles :=
    forall_congr' fun slug => by rw [hroles]
  constructor
  · intro h
    exact ⟨hagree.mp h.agree, fun slug e he => (howned _).mp (h.ownEntries slug e he),
      fun slug row hrow => (howned _).mp (h.ownRows slug row ((hroles slug).trans hrow))⟩
  · intro h
    exact ⟨hagree.mpr h.agree, fun slug e he => (howned _).mpr (h.ownEntries slug e he),
      fun slug row hrow => (howned _).mpr (h.ownRows slug row ((hroles slug).symm.trans hrow))⟩

/-! ## Updates -/

/-- A gateway the text names is of the organization. -/
def OwnGateway (db : SiloDb) (organizationId : Uuid) (text : Option String) : Prop :=
  ∀ id gateway, spelledUuid text = some id → db.gateways.get? id = some gateway →
    gateway.organizationId = organizationId

/-- The assignments of an update name gateways of the organization. -/
def OwnGateways (db : SiloDb) (organizationId : Uuid) (payload : SiloUpdate) : Prop :=
  ∀ a ∈ payload.gatewayAssignments, OwnGateway db organizationId a.gatewayId

theorem placement_assign {roleSlug : String} {text workspaceRoot : Option String}
    (hg : resolveGateway db roleSlug text none = .ok g) (now : Time) {row : SiloRoleRecord}
    (hsame : entry.placement = row.placement) :
    (entry.assign g.1 g.2 workspaceRoot).placement = (row.assign now g.1 g.2 workspaceRoot).placement := by
  have hroot : entry.workspaceRoot = row.workspaceRoot := congrArg Placement.workspaceRoot hsame
  have hid : spelledUuid (g.1.map Uuid.format) = g.1 := by
    rcases resolveGateway_eq_ok hg with ⟨-, rfl⟩ | ⟨id, gateway, hspelled, -, rfl⟩
    · rfl
    · exact spelledUuid_format (spelledUuid_lt hspelled)
  unfold SiloRoleDesiredState.placement SiloRoleRecord.placement SiloRoleDesiredState.assign SiloRoleRecord.assign
  dsimp only
  rw [hid, hroot]

/-- The place of a resolved gateway is of the organization exactly where the text names none of another one. -/
theorem owned_resolved {place : Placement} {roleSlug : String} {text name? : Option String}
    (hg : resolveGateway db roleSlug text name? = .ok g) (hplace : place.gatewayId = g.1) :
    Owned db organizationId place ↔ OwnGateway db organizationId text := by
  unfold Owned OwnGateway
  rw [hplace]
  rcases resolveGateway_eq_ok hg with ⟨hnone, rfl⟩ | ⟨id, gateway, hspelled, hget, rfl⟩
  · rw [hnone]
    exact iff_of_true (fun id hid => by cases hid) (fun id gateway hid => by cases hid)
  · rw [hspelled]
    constructor
    · intro h id' gateway' hid' hget'
      obtain rfl := Option.some.inj hid'
      obtain ⟨gateway'', hget'', horg⟩ := h id rfl
      obtain rfl := Option.some.inj (hget'.symm.trans hget'')
      exact horg
    · intro h id' hid'
      obtain rfl := Option.some.inj hid'
      exact ⟨gateway, hget, h id gateway rfl hget⟩

theorem owned_assign {roleSlug : String} {text workspaceRoot : Option String}
    (hg : resolveGateway db roleSlug text none = .ok g) (now : Time) (row : SiloRoleRecord) :
    Owned db organizationId (row.assign now g.1 g.2 workspaceRoot).placement ↔ OwnGateway db organizationId text :=
  owned_resolved hg rfl

theorem get?_assignRole {a : SiloGatewayAssignment} {row : SiloRoleRecord}
    (hrow : db.roles.get? (siloId, a.roleSlug) = some row) (g : Option Uuid × Option String) (k : Uuid × String) :
    (db.roles.put (row.assign now g.1 g.2 a.workspaceRoot)).get? k =
      if k = (siloId, a.roleSlug) then some (row.assign now g.1 g.2 a.workspaceRoot) else db.roles.get? k := by
  have hkey : key (row.assign now g.1 g.2 a.workspaceRoot) = (siloId, a.roleSlug) :=
    (show key row = (siloId, a.roleSlug) from Table.key_of_get? hrow)
  rw [Table.get?_put, hkey]
  split
  · rename_i hk
    rw [hk, hrow, Option.map_some]
  · rfl

theorem rolesAgree_assignRole {a : SiloGatewayAssignment} (h : assignRole db now siloId a entries = .ok done)
    (hagree : RolesAgree db siloId entries) :
    RolesAgree done.1 siloId done.2 := by
  obtain ⟨row, g, hrow, hg, rfl⟩ := assignRole_eq_ok h
  intro slug
  dsimp only
  have hslugs : ∀ e : SiloRoleDesiredState, (e.assign g.1 g.2 a.workspaceRoot).slug = e.slug := fun _ => rfl
  rw [entryOf_updateFirst hslugs, get?_assignRole hrow g]
  by_cases hslug : slug = a.roleSlug
  · subst hslug
    rw [if_pos rfl, if_pos rfl, Option.map_map, Option.map_some]
    have hplace := hagree a.roleSlug
    rw [hrow, Option.map_some] at hplace
    obtain ⟨entry, hentry, hsame⟩ := Option.map_eq_some_iff.mp hplace
    rw [hentry, Option.map_some]
    exact congrArg some (placement_assign hg now hsame)
  · rw [if_neg hslug, if_neg fun hk => hslug (congrArg Prod.snd hk)]
    exact hagree slug

theorem assignRoles_rest (h : assignRoles db now siloId entries assignments = .ok done) :
    done.1.gateways = db.gateways ∧ done.1.silos = db.silos ∧ done.1.spawnRequests = db.spawnRequests ∧
      (∀ k, k.1 ≠ siloId → done.1.roles.get? k = db.roles.get? k) ∧
      done.1.roles.rows.map key = db.roles.rows.map key := by
  induction assignments generalizing db entries with
  | nil =>
    obtain rfl := Except.ok.inj h
    exact ⟨rfl, rfl, rfl, fun _ _ => rfl, rfl⟩
  | cons a rest ih =>
    obtain ⟨mid, hmid, h⟩ := bind_eq_ok.mp h
    obtain ⟨row, g, hrow, -, rfl⟩ := assignRole_eq_ok hmid
    obtain ⟨hgateways, hsilos, hspawn, hroles, hkeys⟩ := ih h
    refine ⟨hgateways, hsilos, hspawn, fun k hk => ?_, hkeys.trans (Table.map_key_put _ _)⟩
    rw [hroles k hk, get?_assignRole hrow, if_neg fun he => hk (congrArg Prod.fst he)]

theorem rolesAgree_assignRoles (h : assignRoles db now siloId entries assignments = .ok done)
    (hagree : RolesAgree db siloId entries) :
    RolesAgree done.1 siloId done.2 := by
  induction assignments generalizing db entries with
  | nil =>
    obtain rfl := Except.ok.inj h
    exact hagree
  | cons a rest ih =>
    obtain ⟨mid, hmid, h⟩ := bind_eq_ok.mp h
    exact ih h (rolesAgree_assignRole hmid hagree)

theorem owned_assignRoles (hnodup : (assignments.map (·.roleSlug)).Nodup)
    (h : assignRoles db now siloId entries assignments = .ok done) :
    (∀ slug row, done.1.roles.get? (siloId, slug) = some row → Owned db organizationId row.placement) ↔
      (∀ slug row, slug ∉ assignments.map (·.roleSlug) → db.roles.get? (siloId, slug) = some row →
        Owned db organizationId row.placement) ∧
      ∀ a ∈ assignments, OwnGateway db organizationId a.gatewayId := by
  induction assignments generalizing db entries with
  | nil =>
    obtain rfl := Except.ok.inj h
    simp
  | cons a rest ih =>
    obtain ⟨hfresh, hrest⟩ := List.nodup_cons.mp hnodup
    obtain ⟨mid, hmid, h⟩ := bind_eq_ok.mp h
    obtain ⟨row, g, hrow, hg, rfl⟩ := assignRole_eq_ok hmid
    -- the role is assigned once, so its row is the one after this assignment
    refine (ih hrest h).trans ?_
    have hsplit : (∀ slug row', slug ∉ rest.map (·.roleSlug) →
          (db.roles.put (row.assign now g.1 g.2 a.workspaceRoot)).get? (siloId, slug) = some row' →
            Owned db organizationId row'.placement) ↔
        (∀ slug row', slug ∉ (a :: rest).map (·.roleSlug) → db.roles.get? (siloId, slug) = some row' →
          Owned db organizationId row'.placement) ∧ OwnGateway db organizationId a.gatewayId := by
      have hassigned : Owned db organizationId (row.assign now g.1 g.2 a.workspaceRoot).placement ↔
          OwnGateway db organizationId a.gatewayId := owned_assign hg now row
      rw [← hassigned]
      constructor
      · intro hall
        refine ⟨fun slug row' hslug hrow' => ?_, hall a.roleSlug _ hfresh ?_⟩
        · obtain ⟨hne, hslug⟩ := not_or.mp (mt List.mem_cons.mpr hslug)
          refine hall slug row' hslug ?_
          rw [get?_assignRole hrow, if_neg fun he => hne (congrArg Prod.snd he)]
          exact hrow'
        · rw [get?_assignRole hrow, if_pos rfl]
      · rintro ⟨hother, hown⟩ slug row' hslug hrow'
        rw [get?_assignRole hrow] at hrow'
        split at hrow'
        · obtain rfl := Option.some.inj hrow'
          exact hown
        · rename_i hne
          refine hother slug row' ?_ hrow'
          rintro hmem
          rcases List.mem_cons.mp hmem with he | hmem
          · exact hne (Prod.ext rfl he)
          · exact hslug hmem
    rw [List.forall_mem_cons, ← and_assoc]
    exact and_congr_left' hsplit

/-! ## Creation -/

/-- A creation assigns gateways of the organization that have the names the blueprint gives them. -/
def PlacesByName (db : SiloDb) (organizationId : Uuid) (payload : SiloCreate) : Prop :=
  ∀ blueprint, getBuiltinBlueprint payload.blueprintSlug = some blueprint →
    ∀ role ∈ blueprint.rolesFor (payload.enableSymphony && blueprint.supportsSymphony),
      ∀ id gateway, spelledUuid ((assignmentOf payload.gatewayAssignments role.slug).bind (·.gatewayId)) = some id →
        db.gateways.get? id = some gateway →
          gateway.organizationId = organizationId ∧
            (blueprint.targetOf role.slug).map (·.gatewayName) = some gateway.name

theorem entryOf_of_mem (hnodup : (entries.map (·.slug)).Nodup) (h : entry ∈ entries) :
    entryOf entries entry.slug = some entry := by
  induction entries with
  | nil => cases h
  | cons e rest ih =>
    obtain ⟨hfresh, hrest⟩ := List.nodup_cons.mp hnodup
    rw [entryOf_cons]
    rcases List.mem_cons.mp h with rfl | h
    · exact if_pos rfl
    · have hne : ¬ e.slug = entry.slug := by
        intro he
        exact hfresh (List.mem_map.mpr ⟨entry, h, he.symm⟩)
      rw [if_neg hne, ih hrest h]

theorem mem_of_entryOf (h : entryOf entries slug = some entry) : entry ∈ entries ∧ entry.slug = slug :=
  ⟨List.mem_of_find?_eq_some h, by simpa using List.find?_some h⟩

theorem find?_forall₂ {α β : Type} {R : α → β → Prop} {p : α → Bool} {q : β → Bool} (hpq : ∀ a b, R a b → p a = q b)
    {as : List α} {bs : List β} (h : List.Forall₂ R as bs) :
    as.find? p = none ∧ bs.find? q = none ∨ ∃ a b, as.find? p = some a ∧ bs.find? q = some b ∧ R a b := by
  induction h with
  | nil => exact .inl ⟨rfl, rfl⟩
  | @cons a b as bs hab _ ih =>
    rw [List.find?_cons, List.find?_cons, ← hpq a b hab]
    cases p a with
    | true => exact .inr ⟨a, b, rfl, rfl, hab⟩
    | false => exact ih

theorem get?_newRoles {roles : List SiloRoleDesiredState} {rows : List SiloRoleRecord}
    (hrows : roleRows db now siloId roles = .ok rows) (hinsert : db.roles.insertAll? rows = some db'.roles)
    (hnew : ∀ row ∈ db.roles, row.siloId ≠ siloId) (slug : String) :
    entryOf roles slug = none ∧ db'.roles.get? (siloId, slug) = none ∨
      ∃ role gateway, entryOf roles slug = some role ∧
        resolveGateway db role.slug role.gatewayId role.gatewayName = .ok gateway ∧
        db'.roles.get? (siloId, slug) = some (role.row now siloId gateway) := by
  have hnone : db.roles.get? (siloId, slug) = none :=
    Table.get?_eq_none.mpr fun row hrow hk => hnew row hrow (congrArg Prod.fst hk)
  have hget := Table.get?_insertAll? hinsert (siloId, slug)
  rw [hnone, Option.none_or] at hget
  have hkeys : ∀ role row, (∃ gateway, resolveGateway db role.slug role.gatewayId role.gatewayName = .ok gateway ∧
      row = SiloRoleDesiredState.row role now siloId gateway) →
      decide (role.slug = slug) = decide (key row = (siloId, slug)) := by
    rintro role _ ⟨gateway, -, rfl⟩
    exact decide_eq_decide.mpr ⟨fun h => Prod.ext rfl h, fun h => congrArg Prod.snd h⟩
  rcases find?_forall₂ hkeys (roleRows_eq_ok hrows) with ⟨hrole, hrow⟩ | ⟨role, _, hrole, hrow, gateway, hgateway, rfl⟩
  · exact .inl ⟨hrole, hget.trans hrow⟩
  · exact .inr ⟨role, gateway, hrole, hgateway, hget.trans hrow⟩

theorem placement_row {role : SiloRoleDesiredState}
    (hg : resolveGateway db role.slug role.gatewayId role.gatewayName = .ok g) (now : Time) (siloId : Uuid) :
    role.placement = (role.row now siloId g).placement ↔
      ∀ id gateway, spelledUuid role.gatewayId = some id → db.gateways.get? id = some gateway →
        role.gatewayName = some gateway.name := by
  unfold SiloRoleDesiredState.placement SiloRoleRecord.placement SiloRoleDesiredState.row
  rw [Placement.mk.injEq]
  rcases resolveGateway_eq_ok hg with ⟨hnone, rfl⟩ | ⟨id, gateway, hspelled, hget, rfl⟩
  · rw [hnone]
    exact iff_of_true ⟨rfl, rfl, rfl⟩ (fun id gateway hid => by cases hid)
  · rw [hspelled]
    constructor
    · rintro ⟨-, hname, -⟩ id' gateway' hid' hget'
      obtain rfl := Option.some.inj hid'
      obtain rfl := Option.some.inj (hget.symm.trans hget')
      exact hname
    · intro h
      exact ⟨rfl, h id gateway rfl hget, rfl⟩

theorem owned_row {role : SiloRoleDesiredState}
    (hg : resolveGateway db role.slug role.gatewayId role.gatewayName = .ok g) (now : Time) (siloId : Uuid) :
    Owned db organizationId (role.row now siloId g).placement ↔ OwnGateway db organizationId role.gatewayId :=
  owned_resolved hg rfl

def SilosInStep (db : SiloDb) : Prop := ∀ silo ∈ db.silos, InStep db silo

/-- Every role is a silo's. -/
def RolesStored (db : SiloDb) : Prop := ∀ row ∈ db.roles, ∃ silo ∈ db.silos, silo.id = row.siloId

theorem createSilo_rolesStored (hstored : RolesStored db)
    (h : createSilo lower db now organizationId siloId payload = .ok db') : RolesStored db' := by
  obtain ⟨o, -, hstore⟩ := bind_eq_ok.mp h
  obtain ⟨-, hsilos, ⟨rows, hrows, hinsert⟩, -, -⟩ := storeSilo_eq_ok hstore
  intro row hrow
  rcases (Table.mem_insertAll? hinsert row).mp hrow with hrow | hrow
  · obtain ⟨silo, hsilo, hid⟩ := hstored row hrow
    exact ⟨silo, (Table.mem_insert? hsilos).mpr (.inl hsilo), hid⟩
  · exact ⟨_, (Table.mem_insert? hsilos).mpr (.inr rfl), (siloId_roleRows hrows row hrow).symm⟩

theorem inStep_new_iff {blueprint : SiloBlueprint} {rows : List SiloRoleRecord} (hblueprint : blueprint.WellFormed)
    (hfound : getBuiltinBlueprint payload.blueprintSlug = some blueprint)
    (hroles : silo.desiredState.roles = (blueprint.rolesFor (payload.enableSymphony && blueprint.supportsSymphony)).map
      (desiredRole blueprint payload.gatewayAssignments))
    (hrows : roleRows db now silo.id silo.desiredState.roles = .ok rows)
    (hinsert : db.roles.insertAll? rows = some db'.roles) (hnew : ∀ row ∈ db.roles, row.siloId ≠ silo.id)
    (hgateways : db'.gateways = db.gateways) :
    InStep db' silo ↔ PlacesByName db silo.organizationId payload := by
  have hslugs : (silo.desiredState.roles.map (·.slug)).Nodup := by
    rw [hroles, List.map_map]
    exact SiloBlueprint.slugs_rolesFor hblueprint _
  have howned : ∀ p, Owned db' silo.organizationId p ↔ Owned db silo.organizationId p := by
    intro p
    unfold Owned
    rw [hgateways]
  have hrow := get?_newRoles hrows hinsert hnew
  constructor
  · rintro hin blueprint' hfound' role hrole id gateway hid hget
    obtain rfl := Option.some.inj (hfound.symm.trans hfound')
    have hmem : desiredRole blueprint payload.gatewayAssignments role ∈ silo.desiredState.roles := by
      rw [hroles]
      exact List.mem_map_of_mem hrole
    have hentry := entryOf_of_mem hslugs hmem
    rcases hrow role.slug with ⟨hnone, -⟩ | ⟨role', g, hrole', hg, hstored⟩
    · rw [show role.slug = (desiredRole blueprint payload.gatewayAssignments role).slug from rfl, hentry] at hnone
      cases hnone
    · obtain rfl := Option.some.inj (hentry.symm.trans hrole')
      have hplace := hin.agree role.slug
      rw [hrole', hstored, Option.map_some, Option.map_some] at hplace
      have hown := (owned_row hg now silo.id).mp ((howned _).mp (hin.ownRows _ _ hstored))
      exact ⟨hown id gateway hid hget, (placement_row hg now silo.id).mp (Option.some.inj hplace) id gateway hid hget⟩
  · intro hplaces
    have hrole : ∀ slug role, entryOf silo.desiredState.roles slug = some role → ∀ id gateway,
        spelledUuid role.gatewayId = some id → db.gateways.get? id = some gateway →
          gateway.organizationId = silo.organizationId ∧ role.gatewayName = some gateway.name := by
      intro slug role hrole
      obtain ⟨hmem, -⟩ := mem_of_entryOf hrole
      rw [hroles] at hmem
      obtain ⟨role', hrole', rfl⟩ := List.mem_map.mp hmem
      exact fun id gateway hid hget => hplaces blueprint hfound role' hrole' id gateway hid hget
    refine InStep.of_rows (fun slug => ?_) (fun slug row hget => ?_)
    · rcases hrow slug with ⟨hnone, hnone'⟩ | ⟨role, g, hentry, hg, hstored⟩
      · rw [hnone, hnone']
        rfl
      · rw [hentry, hstored, Option.map_some, Option.map_some]
        exact congrArg some ((placement_row hg now silo.id).mpr
          fun id gateway hid hget => (hrole slug role hentry id gateway hid hget).2)
    · rcases hrow slug with ⟨-, hnone'⟩ | ⟨role, g, hentry, hg, hstored⟩
      · rw [hnone'] at hget
        cases hget
      · obtain rfl := Option.some.inj (hstored.symm.trans hget)
        exact (howned _).mpr ((owned_row hg now silo.id).mpr
          fun id gateway hid hget => (hrole slug role hentry id gateway hid hget).1)

/-- **A creation** keeps the silos in step exactly when it assigns by name. -/
theorem createSilo_inStep_iff (hin : SilosInStep db) (hstored : RolesStored db)
    (h : createSilo lower db now organizationId siloId payload = .ok db') :
    SilosInStep db' ↔ PlacesByName db organizationId payload := by
  obtain ⟨o, hopen, hstore⟩ := bind_eq_ok.mp h
  obtain ⟨hpreview, rfl, -, -⟩ := openSilo_eq_ok hopen
  obtain ⟨blueprint, hfound, -, hpreview⟩ := buildPreview_eq_ok hpreview
  obtain ⟨-, hsilos, ⟨rows, hrows, hinsert⟩, hgateways, -⟩ := storeSilo_eq_ok hstore
  have hblueprint : blueprint.WellFormed := mem_builtin hfound ▸ wellFormed_default
  have hfresh : ∀ silo ∈ db.silos, silo.id ≠ siloId := Table.get?_eq_none.mp (Table.insert?_eq_some hsilos).2
  have hnew : ∀ row ∈ db.roles, row.siloId ≠ siloId := by
    intro row hrow he
    obtain ⟨silo, hsilo, hid⟩ := hstored row hrow
    exact hfresh silo hsilo (hid.trans he)
  have hothers : ∀ silo ∈ db.silos, InStep db' silo := by
    intro silo hsilo
    refine (inStep_congr hgateways fun slug => ?_).mpr (hin silo hsilo)
    refine Table.get?_insertAll?_ne hinsert fun row hrow he => ?_
    have hid : row.siloId = silo.id := congrArg Prod.fst he
    exact hfresh silo hsilo (hid.symm.trans (siloId_roleRows hrows row hrow))
  have hroles : (o.silo now siloId).desiredState.roles =
      (blueprint.rolesFor (payload.enableSymphony && blueprint.supportsSymphony)).map
        (desiredRole blueprint payload.gatewayAssignments) := congrArg SiloPreview.roles hpreview
  refine Iff.trans ?_ (inStep_new_iff hblueprint hfound hroles hrows hinsert hnew hgateways)
  constructor
  · intro hin'
    exact hin' _ ((Table.mem_insert? hsilos).mpr (.inr rfl))
  · intro hnewIn silo hsilo
    rcases (Table.mem_insert? hsilos).mp hsilo with hsilo | rfl
    · exact hothers silo hsilo
    · exact hnewIn

theorem siloBySlug_eq_some (h : db.siloBySlug organizationId slug = some silo) :
    silo ∈ db.silos ∧ silo.organizationId = organizationId ∧ silo.slug = slug := by
  have hsame : silo.organizationId = organizationId ∧ silo.slug = slug := by simpa using List.find?_some h
  exact ⟨List.mem_of_find?_eq_some h, hsame⟩

/-- **An update** keeps the silos in step exactly when it assigns own gateways. -/
theorem updateSilo_inStep_iff {payload : SiloUpdate} (hin : SilosInStep db)
    (h : updateSilo db now organizationId slug payload = .ok db') :
    SilosInStep db' ↔ OwnGateways db organizationId payload := by
  obtain ⟨silo, done, hfound, hnodup, hdone, rfl⟩ := updateSilo_eq_ok h
  obtain ⟨hsilo, rfl, -⟩ := siloBySlug_eq_some hfound
  obtain ⟨hgateways, hsilos, -, hroles, hkeys⟩ := assignRoles_rest hdone
  obtain ⟨hagree, -, hrows⟩ := hin silo hsilo
  have hmem : silo.toggle now payload done.2 ∈ done.1.silos.put (silo.toggle now payload done.2) := by
    rw [Table.mem_put]
    refine .inr ⟨rfl, ?_⟩
    have hget : db.silos.get? silo.id = some silo := Table.get?_key hsilo
    rw [hsilos, show key (silo.toggle now payload done.2) = silo.id from rfl, hget]
    rfl
  have howned : ∀ p, Owned ({ done.1 with silos := done.1.silos.put (silo.toggle now payload done.2) } : SiloDb)
      silo.organizationId p ↔ Owned db silo.organizationId p := by
    intro p
    unfold Owned
    dsimp only
    rw [hgateways]
  have hassigned : (∀ slug row, done.1.roles.get? (silo.id, slug) = some row →
        Owned db silo.organizationId row.placement) ↔ OwnGateways db silo.organizationId payload :=
    (owned_assignRoles hnodup hdone).trans (and_iff_right fun slug row _ hrow => hrows slug row hrow)
  constructor
  · intro hin'
    refine hassigned.mp fun slug row hrow => (howned _).mp ?_
    exact (hin' _ hmem).ownRows slug row hrow
  · intro hown silo' hsilo'
    rcases Table.mem_put.mp hsilo' with ⟨hother, hne⟩ | ⟨rfl, -⟩
    · rw [hsilos] at hother
      have hsame : InStep { done.1 with silos := done.1.silos.put (silo.toggle now payload done.2) } silo' ↔
          InStep db silo' := inStep_congr hgateways fun slug => hroles _ hne
      exact hsame.mpr (hin silo' hother)
    · exact .of_rows (rolesAgree_assignRoles hdone hagree) fun slug row hrow =>
        (howned _).mpr (hassigned.mpr hown slug row hrow)

theorem updateSilo_rolesStored {payload : SiloUpdate} (hstored : RolesStored db)
    (h : updateSilo db now organizationId slug payload = .ok db') :
    RolesStored db' := by
  obtain ⟨silo, done, hfound, -, hdone, rfl⟩ := updateSilo_eq_ok h
  obtain ⟨hsilo, -, -⟩ := siloBySlug_eq_some hfound
  obtain ⟨-, hsilos, -, -, hkeys⟩ := assignRoles_rest hdone
  intro row hrow
  have hkey : key row ∈ db.roles.rows.map key := hkeys ▸ List.mem_map_of_mem hrow
  obtain ⟨row', hrow', hsame⟩ := List.mem_map.mp hkey
  obtain ⟨silo', hsilo', hid⟩ := hstored row' hrow'
  have hid' : silo'.id = row.siloId := hid.trans (congrArg Prod.fst hsame)
  by_cases hthis : silo'.id = silo.id
  · refine ⟨silo.toggle now payload done.2, Table.mem_put.mpr (.inr ⟨rfl, ?_⟩), hthis.symm.trans hid'⟩
    have hget : db.silos.get? silo.id = some silo := Table.get?_key hsilo
    rw [hsilos, show key (silo.toggle now payload done.2) = silo.id from rfl, hget]
    rfl
  · exact ⟨silo', Table.mem_put.mpr (.inl ⟨hsilos ▸ hsilo', hthis⟩), hid'⟩

/-! ## Runs -/

/-- A request about silos, with the time and the id it draws. -/
inductive SiloStep where
  | create (now : Time) (organizationId siloId : Uuid) (payload : SiloCreate)
  | update (now : Time) (organizationId : Uuid) (slug : String) (payload : SiloUpdate)

def answerSilo (lower : String → String) (db : SiloDb) : SiloStep → Except Failure SiloDb
  | .create now organizationId siloId payload => createSilo lower db now organizationId siloId payload
  | .update now organizationId slug payload => updateSilo db now organizationId slug payload

def siloMachine (lower : String → String) : Machine SiloDb SiloStep where
  commits db step := (Response.single (answerSilo lower db step)).commits

/-- What an accepted request assigns: a creation by name, an update own gateways. -/
def AssignsInStep (lower : String → String) (db : SiloDb) (step : SiloStep) : Prop :=
  (∃ db', answerSilo lower db step = .ok db') →
    match step with
    | .create _ organizationId _ payload => PlacesByName db organizationId payload
    | .update _ organizationId _ payload => OwnGateways db organizationId payload

theorem answerSilo_inStep_iff {step : SiloStep} (hin : SilosInStep db) (hstored : RolesStored db)
    (h : answerSilo lower db step = .ok db') :
    SilosInStep db' ↔ AssignsInStep lower db step := by
  have haccepted : ∃ db', answerSilo lower db step = .ok db' := ⟨db', h⟩
  unfold AssignsInStep
  rw [forall_prop_of_true haccepted]
  cases step with
  | create now organizationId siloId payload => exact createSilo_inStep_iff hin hstored h
  | update now organizationId slug payload => exact updateSilo_inStep_iff hin h

theorem answerSilo_rolesStored {step : SiloStep} (hstored : RolesStored db) (h : answerSilo lower db step = .ok db') :
    RolesStored db' := by
  cases step with
  | create now organizationId siloId payload => exact createSilo_rolesStored hstored h
  | update now organizationId slug payload => exact updateSilo_rolesStored hstored h

/-- **Desired states and rows agree** throughout a run exactly when every accepted request of it assigns in step. -/
theorem committed_inStep_iff (lower : String → String) {db : SiloDb} (hin : SilosInStep db) (hstored : RolesStored db)
    (steps : List SiloStep) :
    (∀ db' ∈ (siloMachine lower).committed db steps, SilosInStep db') ↔
      (siloMachine lower).Along (AssignsInStep lower) db steps := by
  induction steps generalizing db with
  | nil => exact iff_of_true (fun db' hdb' => absurd hdb' List.not_mem_nil) trivial
  | cons step steps ih =>
    rw [Machine.committed, Machine.Along, List.forall_mem_append]
    cases hanswer : answerSilo lower db step with
    | error e =>
      have hcommits : (siloMachine lower).commits db step = [] := by
        show (Response.single (answerSilo lower db step)).commits = []
        rw [hanswer]
        rfl
      have hassigns : AssignsInStep lower db step := by
        rintro ⟨db', hdb'⟩
        rw [hanswer] at hdb'
        cases hdb'
      rw [hcommits, Machine.next_of_commits_eq_nil _ hcommits, ih hin hstored]
      exact and_congr_left' (iff_of_true (fun db' hdb' => absurd hdb' List.not_mem_nil) hassigns)
    | ok db' =>
      have hcommits : (siloMachine lower).commits db step = [db'] := by
        show (Response.single (answerSilo lower db step)).commits = [db']
        rw [hanswer]
        rfl
      rw [hcommits, Machine.next_of_commits_eq_singleton _ hcommits, List.forall_mem_singleton,
        answerSilo_inStep_iff hin hstored hanswer]
      refine and_congr_right fun hassigns => ih ?_ (answerSilo_rolesStored hstored hanswer)
      exact (answerSilo_inStep_iff hin hstored hanswer).mpr hassigns

namespace Sample

def foxHost : SiloGateway := { id := 9, organizationId := 1, name := "Fox Host" }

def gatewaysOnly : SiloDb where
  gateways := ⟨[foxHost], by decide⟩

def demoSilo : SiloCreate where
  name := "Demo Silo"
  blueprintSlug := "default-four-agent"
  gatewayAssignments := [{ roleSlug := "fox", gatewayId := some "00000000-0000-0000-0000-000000000009" }]

def assignLater : List SiloStep :=
  [.create 1 1 5 { demoSilo with gatewayAssignments := [] },
   .update 2 1 "demo-silo" { gatewayAssignments := demoSilo.gatewayAssignments }]

end Sample

theorem silosInStep_gatewaysOnly : SilosInStep Sample.gatewaysOnly := fun _ h => absurd h List.not_mem_nil

theorem rolesStored_gatewaysOnly : RolesStored Sample.gatewaysOnly := fun _ h => absurd h List.not_mem_nil

/-- A silo created on a gateway with a name of its own: its desired state has the blueprint's. -/
theorem not_committed_inStep : ¬ ∀ (lower : String → String) (db : SiloDb), SilosInStep db → RolesStored db →
    ∀ steps, ∀ db' ∈ (siloMachine lower).committed db steps, SilosInStep db' := by
  intro h
  have hall := h id Sample.gatewaysOnly silosInStep_gatewaysOnly rolesStored_gatewaysOnly
      [.create 1 1 5 Sample.demoSilo]
  have haccepted : ((createSilo id Sample.gatewaysOnly 1 1 5 Sample.demoSilo).toOption).isSome = true := by
    decide
  cases hcreate : createSilo id Sample.gatewaysOnly 1 1 5 Sample.demoSilo with
  | error e =>
    rw [hcreate] at haccepted
    cases haccepted
  | ok db' =>
    have hmem : db' ∈ (siloMachine id).committed Sample.gatewaysOnly [.create 1 1 5 Sample.demoSilo] := by
      refine List.mem_append_left _ (Response.mem_single.mpr ?_)
      exact hcreate
    have hplaces := (createSilo_inStep_iff silosInStep_gatewaysOnly rolesStored_gatewaysOnly hcreate).mp (hall db' hmem)
    have hname := (hplaces defaultFourAgentBlueprint (by decide) _ (List.mem_cons_self ..) 9 Sample.foxHost
      (by decide) rfl).2
    exact absurd hname (by decide)

theorem committed_inStep_assignLater :
    (∀ db' ∈ (siloMachine id).committed Sample.gatewaysOnly Sample.assignLater, SilosInStep db') ↔
      (siloMachine id).Along (AssignsInStep id) Sample.gatewaysOnly Sample.assignLater :=
  committed_inStep_iff id silosInStep_gatewaysOnly rolesStored_gatewaysOnly Sample.assignLater

end SiloForge
