import Mathlib.Data.Fintype.EquivFin
import SiloForge.Lib.Machine
import SiloForge.Organizations.Members

/-!
# Who decides who owns

What the requests about members and invitations do to the owners of the organizations.

* `IsOwner`, `SameOwners` : the owners, and that they are the same;
* `OwnersStay` : a request leaves the owners as they are, and so does whoever accepts an invitation it created;
* `MovesOwners` : an update that gives or takes the owner's role, or an invitation with it;
* `ownersStay` : a request of a member who is not an owner leaves the owners as they are exactly when it is neither.
-/

namespace SiloForge

open Lib

/-! ## Owners -/

def IsOwner (db : Db) (organizationId memberId : Uuid) : Prop :=
  ∃ m, db.members.get? memberId = some m ∧ m.organizationId = organizationId ∧ m.role = .owner

def SameOwners (db t : Db) : Prop :=
  ∀ organizationId memberId, IsOwner t organizationId memberId ↔ IsOwner db organizationId memberId

variable {casing : Casing} {db t : Db} {now : Time} {m : OrganizationMember}

theorem isOwner_of_get? {organizationId : Uuid} (h : db.members.get? m.id = some m) :
    IsOwner db organizationId m.id ↔ m.organizationId = organizationId ∧ m.role = .owner := by
  unfold IsOwner
  rw [h]
  simp

theorem sameOwners_of_members (h : t.members = db.members) : SameOwners db t := by
  intro organizationId memberId
  unfold IsOwner
  rw [h]

theorem sameOwners_put (m' : OrganizationMember) (h : db.members.get? m.id = some m) (hid : m'.id = m.id)
    (horganization : m'.organizationId = m.organizationId) (ht : t.members = db.members.put m') :
    SameOwners db t ↔ (m'.role = .owner ↔ m.role = .owner) := by
  have hput : t.members.get? m'.id = some m' := by
    rw [ht]
    exact Table.get?_put_self (hid ▸ h : db.members.get? m'.id = some m)
  constructor
  · intro hsame
    have hiff := hsame m.organizationId m.id
    rw [isOwner_of_get? h, ← hid, isOwner_of_get? hput, horganization] at hiff
    simpa using hiff
  · intro hrole organizationId memberId
    by_cases hmember : memberId = m.id
    · subst hmember
      rw [isOwner_of_get? h, ← hid, isOwner_of_get? hput, horganization, hrole]
    · unfold IsOwner
      rw [ht, Table.get?_put_ne (hid ▸ hmember : memberId ≠ m'.id)]

theorem sameOwners_delete (h : db.members.get? m.id = some m) (hrole : m.role ≠ .owner)
    (ht : t.members = db.members.deleteWhere fun m' => m'.id = m.id) : SameOwners db t := by
  intro organizationId memberId
  by_cases hmember : memberId = m.id
  · subst hmember
    rw [isOwner_of_get? h]
    refine iff_of_false ?_ fun howner => hrole howner.2
    rintro ⟨m', hget, -, -⟩
    rw [ht, Table.get?_deleteWhere, h] at hget
    simp only [Option.filter_some, decide_true, Bool.not_true, Bool.false_eq_true, if_false] at hget
    cases hget
  · unfold IsOwner
    rw [ht, Table.get?_deleteWhere]
    cases hget : db.members.get? memberId with
    | none => rfl
    | some m' =>
      have hid : m'.id = memberId := Table.key_of_get? hget
      rw [Option.filter_some, if_pos (by simp [hid, hmember])]

theorem sameOwners_insert (ht : db.members.insert? m = some t.members) : SameOwners db t ↔ m.role ≠ .owner := by
  have hnone : db.members.get? m.id = none := (Table.insert?_eq_some ht).2
  have hget : t.members.get? m.id = some m := by
    rw [Table.get?_insert? ht]
    exact if_pos rfl
  constructor
  · intro hsame hrole
    obtain ⟨m', hold, -⟩ := (hsame m.organizationId m.id).mp ⟨m, hget, rfl, hrole⟩
    rw [hnone] at hold
    cases hold
  · intro hrole organizationId memberId
    by_cases hmember : memberId = m.id
    · subst hmember
      rw [isOwner_of_get? hget]
      refine iff_of_false (fun howner => hrole howner.2) ?_
      rintro ⟨m', hold, -⟩
      rw [hnone] at hold
      cases hold
    · unfold IsOwner
      rw [Table.get?_insert? ht]
      show (∃ m', (if memberId = m.id then some m else db.members.get? memberId) = some m' ∧ _) ↔ _
      rw [if_neg hmember]

/-! ## What the requests do to the owners -/

def orgMachine (casing : Casing) : Machine Db (Time × OrgRequest) where
  commits db action := (respondOrg casing db action.1 action.2).toOption.toList

/-- A request leaves the owners as they are, and so does the acceptance of an invitation it created, by whomever and
after whatever requests. -/
structure OwnersStay (casing : Casing) (db : Db) (now : Time) (request : OrgRequest) : Prop where
  answered : ∀ t, respondOrg casing db now request = .ok t → SameOwners db t
  accepted : ∀ t, respondOrg casing db now request = .ok t → ∀ invite ∈ t.invites, invite ∉ db.invites →
    ∀ (later : List (Time × OrgRequest)) (acceptedAt : Time) (user : User) (memberId : Uuid),
      let s := (orgMachine casing).run t later
      findInvite s invite.token = some invite →
        ∀ s', respondOrg casing s acceptedAt (.acceptInvite user invite.token memberId) = .ok s' → SameOwners s s'

structure InviteAdmitted (casing : Casing) (db : Db) (actor : OrgActor) (inviteId : Uuid) (token : String)
    (payload : OrganizationInviteCreate) : Prop where
  admin : ∃ admin, orgAdmin db actor = .ok admin
  address : normalizeInvitedEmail casing payload.invitedEmail ≠ ""
  newcomer : emailIsMember casing db actor.organizationId (normalizeInvitedEmail casing payload.invitedEmail) = false
  boards : validBoardIds db actor.organizationId payload.boardAccess = true
  token : ∀ i ∈ db.invites.rows, i.token ≠ token
  id : db.invites.get? inviteId = none
  rows : (payload.allBoardsRead || payload.allBoardsWrite) = false → (payload.boardAccess.map (·.boardId)).Nodup

/-- A request gives or takes the owner's role, at once or by an invitation. -/
def MovesOwners (casing : Casing) (db : Db) : OrgRequest → Prop
  | .updateMember actor memberId (some (some role)) =>
    (∃ admin, orgAdmin db actor = .ok admin) ∧ ∃ member, requireOrgMember db actor.organizationId memberId = .ok member ∧
      ¬ (normalizeRole casing role = "owner" ↔ member.role = .owner)
  | .createInvite actor inviteId token payload =>
    InviteAdmitted casing db actor inviteId token payload ∧ normalizeRole casing payload.role = "owner"
  | _ => False

theorem requireOrgMember_eq_ok {organizationId memberId : Uuid}
    (h : requireOrgMember db organizationId memberId = .ok m) :
    db.members.get? m.id = some m ∧ m.organizationId = organizationId ∧ m.id = memberId := by
  simp only [requireOrgMember, bind_eq_ok, orFail_eq_ok, require_eq_ok, pure_eq_ok] at h
  obtain ⟨_, hget, _, horganization, rfl⟩ := h
  exact ⟨Table.get?_key (Table.mem_of_get? hget), horganization, Table.key_of_get? hget⟩

variable {request : OrgRequest} {invite : OrganizationInvite} {entries : List OrganizationBoardAccessSpec}

theorem respondOrg_eq_ok : respondOrg casing db now request = .ok t ↔
      ∃ write, checkOrgRequest casing db now request = .ok write ∧ write.apply casing db now = .ok t := bind_eq_ok

theorem sameOwners_updateMember {actor : OrgActor} {memberId : Uuid} {role : String}
    (hmember : requireOrgMember db actor.organizationId memberId = .ok m)
    (h : respondOrg casing db now (.updateMember actor memberId (some (some role))) = .ok t) :
    SameOwners db t ↔ (normalizeRole casing role = "owner" ↔ m.role = .owner) := by
  obtain ⟨write, hcheck, happly⟩ := respondOrg_eq_ok.mp h
  simp only [checkOrgRequest, bind_eq_ok, pure_eq_ok] at hcheck
  obtain ⟨_, -, m', hmember', rfl⟩ := hcheck
  obtain rfl := Except.ok.inj (hmember.symm.trans hmember')
  obtain ⟨hget, -⟩ := requireOrgMember_eq_ok hmember
  simp only [OrgWrite.apply, Option.map_some, Option.getD_some, bind_eq_ok, orFail_eq_ok, pure_eq_ok] at happly
  obtain ⟨current, hcurrent, _, hrole, rfl⟩ := happly
  obtain rfl := Option.some.inj (hget.symm.trans hcurrent)
  obtain rfl := Option.some.inj hrole
  rw [sameOwners_put (m.withRole m now _) hget rfl rfl rfl]
  unfold OrganizationMember.withRole
  rw [writtenColumn_self, Role.ofText_eq_owner]

theorem exists_updateMember {actor : OrgActor} {memberId : Uuid} {admin : OrganizationMember}
    (hadmin : orgAdmin db actor = .ok admin) (hmember : requireOrgMember db actor.organizationId memberId = .ok m)
    (casing : Casing) (now : Time) (role : String) :
    ∃ t, respondOrg casing db now (.updateMember actor memberId (some (some role))) = .ok t := by
  have hcheck : checkOrgRequest casing db now (.updateMember actor memberId (some (some role))) =
      .ok (.patchMember m (some (some (Role.ofText (normalizeRole casing role))))) := by
    simp only [checkOrgRequest, bind_eq_ok, pure_eq_ok]
    exact ⟨admin, hadmin, m, hmember, rfl⟩
  have happly : OrgWrite.apply casing db now (.patchMember m (some (some (Role.ofText (normalizeRole casing role))))) =
      .ok { db with members := db.members.put (m.withRole m now (Role.ofText (normalizeRole casing role))) } := by
    simp only [OrgWrite.apply, bind_eq_ok, orFail_eq_ok, pure_eq_ok]
    exact ⟨m, (requireOrgMember_eq_ok hmember).1, _, rfl, rfl⟩
  exact ⟨_, respondOrg_eq_ok.mpr ⟨_, hcheck, happly⟩⟩

theorem sameOwners_request {actor : OrgActor} {member : OrganizationMember} (hactor : request.actor? = some actor)
    (hmember : getMember db actor.userId actor.organizationId = some member) (hrole : member.role ≠ .owner)
    (hupdate : ∀ memberId role, request ≠ .updateMember actor memberId (some (some role)))
    (h : respondOrg casing db now request = .ok t) : SameOwners db t := by
  obtain ⟨write, hcheck, happly⟩ := respondOrg_eq_ok.mp h
  cases request with
  | updateMember actor' memberId role =>
    obtain rfl : actor' = actor := Option.some.inj hactor
    simp only [checkOrgRequest, bind_eq_ok, pure_eq_ok] at hcheck
    obtain ⟨_, -, m, hm, rfl⟩ := hcheck
    obtain ⟨hget, -⟩ := requireOrgMember_eq_ok hm
    simp only [OrgWrite.apply, bind_eq_ok, orFail_eq_ok, pure_eq_ok] at happly
    obtain ⟨current, hcurrent, new, hnew, rfl⟩ := happly
    obtain rfl := Option.some.inj (hget.symm.trans hcurrent)
    rw [sameOwners_put (m.withRole m now _) hget rfl rfl rfl]
    unfold OrganizationMember.withRole
    rw [writtenColumn_self]
    -- the role that is written is the one there is
    rcases role with _ | _ | role
    · rw [← Option.some.inj hnew]
    · cases hnew
    · exact absurd rfl (hupdate memberId role)
  | updateAccess actor' memberId update =>
    simp only [checkOrgRequest, bind_eq_ok, pure_eq_ok] at hcheck
    obtain ⟨_, -, m, hm, _, -, rfl⟩ := hcheck
    obtain ⟨hget, -⟩ := requireOrgMember_eq_ok hm
    simp only [OrgWrite.apply, bind_eq_ok, orFail_eq_ok, pure_eq_ok] at happly
    obtain ⟨current, hcurrent, boardAccess, -, rfl⟩ := happly
    obtain rfl := Option.some.inj (hget.symm.trans hcurrent)
    refine (sameOwners_put _ hget ?_ ?_ rfl).mpr ?_
    · rfl
    · rfl
    · exact Iff.rfl
  | removeMember actor' memberId =>
    obtain rfl : actor' = actor := Option.some.inj hactor
    simp only [checkOrgRequest, orgAdmin, checkRemoval, bind_eq_ok, orFail_eq_ok, require_eq_ok, pure_eq_ok] at hcheck
    obtain ⟨_, ⟨_, hadmin, _, -, rfl⟩, m, hm, _, ⟨_, -, _, howner, -⟩, rfl⟩ := hcheck
    obtain rfl := Option.some.inj (hmember.symm.trans hadmin)
    obtain ⟨hget, -⟩ := requireOrgMember_eq_ok hm
    obtain rfl := Except.ok.inj happly
    exact sameOwners_delete hget (fun h => howner ⟨h, hrole⟩) rfl
  | createInvite actor' inviteId token payload =>
    simp only [checkOrgRequest, bind_eq_ok, pure_eq_ok] at hcheck
    obtain ⟨_, -, _, -, _, -, _, -, rfl⟩ := hcheck
    simp only [OrgWrite.apply, bind_eq_ok, pure_eq_ok] at happly
    obtain ⟨_, -, invites, -, rows, -, rfl⟩ := happly
    exact sameOwners_of_members rfl
  | revokeInvite actor' inviteId =>
    simp only [checkOrgRequest, bind_eq_ok, pure_eq_ok] at hcheck
    obtain ⟨_, -, invite, -, _, -, rfl⟩ := hcheck
    obtain rfl := Except.ok.inj happly
    exact sameOwners_of_members rfl
  | acceptInvite user token memberId => cases hactor

/-! ## Accepting an invitation -/

/-- An invitation leaves an owner one. -/
theorem raisedRole_of_owner (hrole : m.role = .owner) (casing : Casing) (invite : OrganizationInvite) :
    raisedRole casing m invite = .owner := by
  unfold raisedRole
  dsimp only
  rw [hrole, if_neg (Nat.not_lt.mpr (Role.rank_le_owner _))]

theorem raisedRole_eq_owner
    (h : Role.ofText (normalizeRole casing (if invite.role = "" then "member" else invite.role)) ≠ .owner) :
    raisedRole casing m invite = .owner ↔ m.role = .owner := by
  refine ⟨fun hraised => ?_, fun hrole => raisedRole_of_owner hrole casing invite⟩
  unfold raisedRole at hraised
  generalize Role.ofText _ = role at h hraised
  dsimp only at hraised
  split at hraised
  · exact absurd hraised h
  · exact hraised

theorem sameOwners_acceptInvite {user : User} {memberId : Uuid} (hinvite : findInvite db invite.token = some invite)
    (hrole : Role.ofText invite.role ≠ .owner)
    (hraised : Role.ofText (normalizeRole casing (if invite.role = "" then "member" else invite.role)) ≠ .owner)
    (h : respondOrg casing db now (.acceptInvite user invite.token memberId) = .ok t) : SameOwners db t := by
  obtain ⟨write, hcheck, happly⟩ := respondOrg_eq_ok.mp h
  simp only [checkOrgRequest, bind_eq_ok, orFail_eq_ok, pure_eq_ok] at hcheck
  obtain ⟨_, hfound, _, -, hcheck⟩ := hcheck
  obtain rfl := Option.some.inj (hinvite.symm.trans hfound)
  split at hcheck
  · obtain rfl := hcheck
    simp only [OrgWrite.apply, bind_eq_ok, orFail_eq_ok, pure_eq_ok] at happly
    obtain ⟨_, -, members, hmembers, rows, -, invites, -, rfl⟩ := happly
    exact (sameOwners_insert hmembers).mpr hrole
  · rename_i member hmember
    obtain rfl := hcheck
    have hget : db.members.get? member.id = some member := Table.get?_key (List.mem_of_find?_eq_some hmember)
    simp only [OrgWrite.apply, bind_eq_ok, pure_eq_ok] at happly
    obtain ⟨members, hmembers, rows, -, invites, -, rfl⟩ := happly
    unfold raiseMember at hmembers
    split at hmembers
    · simp only [bind_eq_ok, orFail_eq_ok, pure_eq_ok] at hmembers
      obtain ⟨current, hcurrent, rfl⟩ := hmembers
      obtain rfl := Option.some.inj (hget.symm.trans hcurrent)
      rw [sameOwners_put (member.raised member casing now invite) hget rfl rfl rfl]
      unfold OrganizationMember.raised
      rw [writtenColumn_self]
      exact raisedRole_eq_owner hraised
    · obtain rfl := Except.ok.inj hmembers
      exact sameOwners_of_members rfl

theorem mem_copiedRows {memberId : Uuid} {a : OrganizationBoardAccess} (h : a ∈ copiedRows db invite memberId) :
    a.organizationMemberId = memberId := by
  unfold copiedRows at h
  split at h
  · exact absurd h List.not_mem_nil
  · obtain ⟨row, -, rfl⟩ := List.mem_map.mp h
    rfl

theorem nodup_copiedRows {memberId : Uuid} : ((copiedRows db invite memberId).map key).Nodup := by
  unfold copiedRows
  split
  · exact List.nodup_nil
  · rw [List.map_map]
    refine List.Nodup.map_on ?_ (List.Nodup.filter _ (List.Nodup.of_map key db.inviteBoardAccess.nodup))
    intro a ha a' ha' hk
    have hboard : a.boardId = a'.boardId := (Prod.mk.inj hk).2
    simp only [rowsOfInvite, List.mem_filter, decide_eq_true_eq] at ha ha'
    exact Table.eq_of_key_eq ha.1 ha'.1 (Prod.ext (ha.2.trans ha'.2.symm) hboard)

theorem apply_acceptInvite {user : User} {memberId : Uuid} (hinvite : db.invites.get? invite.id = some invite)
    (hnone : getMember db user.id invite.organizationId = none) (hmember : db.members.get? memberId = none)
    (haccess : ∀ a ∈ db.boardAccess, a.organizationMemberId ≠ memberId) (casing : Casing) (now : Time) :
    ∃ members boardAccess invites, db.members.insert? (invitedMember now invite user memberId) = some members ∧
      OrgWrite.apply casing db now (.acceptInvite invite user memberId) = .ok
        { db with members, boardAccess, invites, users := joinOrganization db user invite.organizationId } := by
  obtain ⟨members, hmembers⟩ : ∃ members, db.members.insert? (invitedMember now invite user memberId) = some members :=
    Table.exists_insert?.mpr hmember
  obtain ⟨rows, hrows⟩ : ∃ rows, db.boardAccess.insertAll? (copiedRows db invite memberId) = some rows := by
    refine Table.exists_insertAll?.mpr ⟨fun a ha => Table.get?_eq_none.mpr fun a' ha' hk => ?_, nodup_copiedRows⟩
    exact haccess a' ha' ((Prod.mk.inj hk).1.trans (mem_copiedRows ha))
  obtain ⟨invites, hinvites⟩ : ∃ invites, markAccepted db now invite user = .ok invites := by
    unfold markAccepted
    rw [hinvite]
    exact ⟨_, rfl⟩
  refine ⟨members, rows, invites, hmembers, ?_⟩
  simp only [OrgWrite.apply, bind_eq_ok, orFail_eq_ok, require_eq_ok, pure_eq_ok]
  exact ⟨(), hnone, members, hmembers, rows, hrows, invites, hinvites, rfl⟩

theorem exists_acceptInvite (hinvite : findInvite db invite.token = some invite) (casing : Casing) (now : Time) :
    ∃ user memberId t, respondOrg casing db now (.acceptInvite user invite.token memberId) = .ok t ∧
      db.members.insert? (invitedMember now invite user memberId) = some t.members := by
  -- a user without an address and a member's id nobody has
  obtain ⟨userId, huser⟩ := Infinite.exists_notMem_finset (db.members.rows.map (·.userId)).toFinset
  obtain ⟨memberId, hid⟩ := Infinite.exists_notMem_finset
    (db.members.rows.map (·.id) ++ db.boardAccess.rows.map (·.organizationMemberId)).toFinset
  simp only [List.mem_toFinset, List.mem_append, List.mem_map, not_or, not_exists, not_and] at huser hid
  let user : User := { id := userId }
  have hnone : getMember db userId invite.organizationId = none := by
    refine List.find?_eq_none.mpr fun m hm => ?_
    simp [huser m hm]
  have hcheck : checkOrgRequest casing db now (.acceptInvite user invite.token memberId) =
      .ok (.acceptInvite invite user memberId) := by
    simp only [checkOrgRequest, bind_eq_ok, orFail_eq_ok, require_eq_ok, pure_eq_ok]
    exact ⟨invite, hinvite, (), rfl, by rw [hnone]⟩
  obtain ⟨members, rows, invites, hmembers, happly⟩ := @apply_acceptInvite _ invite user memberId
    (Table.get?_key (List.mem_of_find?_eq_some hinvite)) hnone (Table.get?_eq_none.mpr fun m hm => hid.1 m hm)
    (fun a ha => hid.2 a ha) casing now
  exact ⟨user, memberId, _, respondOrg_eq_ok.mpr ⟨_, hcheck, happly⟩, hmembers⟩

/-! ## Creating an invitation -/

theorem inviteAccessRows_key {a : OrganizationInviteBoardAccess} (h : a ∈ inviteAccessRows invite entries) :
    a.organizationInviteId = invite.id := by
  unfold inviteAccessRows at h
  split at h
  · exact absurd h List.not_mem_nil
  · obtain ⟨entry, -, rfl⟩ := List.mem_map.mp h
    rfl

theorem nodup_inviteAccessRows : ((inviteAccessRows invite entries).map key).Nodup ↔
      ((invite.allBoardsRead || invite.allBoardsWrite) = false → (entries.map (·.boardId)).Nodup) := by
  unfold inviteAccessRows
  split
  · rename_i hall
    exact iff_of_true List.nodup_nil fun h => absurd hall (h ▸ Bool.false_ne_true)
  · rename_i hall
    have hkeys : (entries.map fun e => (invite.id, e.boardId)) = (entries.map (·.boardId)).map (invite.id, ·) := by
      rw [List.map_map]
      rfl
    rw [List.map_map]
    show (entries.map fun e => (invite.id, e.boardId)).Nodup ↔ _
    rw [hkeys, List.nodup_map_iff fun _ _ h => (Prod.mk.inj h).2]
    exact ⟨fun h _ => h, fun h => h (Bool.eq_false_iff.mpr hall)⟩

variable {actor : OrgActor} {inviteId : Uuid} {token : String} {payload : OrganizationInviteCreate}

theorem createInvite_eq_ok (h : respondOrg casing db now (.createInvite actor inviteId token payload) = .ok t) :
    InviteAdmitted casing db actor inviteId token payload ∧
      db.invites.insert? (newInvite casing now actor inviteId token payload) = some t.invites := by
  obtain ⟨write, hcheck, happly⟩ := respondOrg_eq_ok.mp h
  simp only [checkOrgRequest, bind_eq_ok, require_eq_ok, pure_eq_ok] at hcheck
  obtain ⟨admin, hadmin, _, haddress, _, hnewcomer, _, hboards, rfl⟩ := hcheck
  simp only [OrgWrite.apply, bind_eq_ok, orFail_eq_ok, require_eq_ok, pure_eq_ok] at happly
  obtain ⟨_, htoken, invites, hinvites, rows, hrows, rfl⟩ := happly
  refine ⟨⟨⟨admin, hadmin⟩, haddress, hnewcomer, hboards, htoken, (Table.insert?_eq_some hinvites).2, ?_⟩, hinvites⟩
  exact nodup_inviteAccessRows.mp (Table.exists_insertAll?.mp ⟨rows, hrows⟩).2

theorem exists_createInvite (h : InviteAdmitted casing db actor inviteId token payload) (now : Time) :
    ∃ t, respondOrg casing db now (.createInvite actor inviteId token payload) = .ok t := by
  obtain ⟨admin, hadmin⟩ := h.admin
  have hcheck : checkOrgRequest casing db now (.createInvite actor inviteId token payload) =
      .ok (.addInvite (newInvite casing now actor inviteId token payload) payload.boardAccess) := by
    simp only [checkOrgRequest, bind_eq_ok, require_eq_ok, pure_eq_ok]
    exact ⟨admin, hadmin, (), h.address, (), h.newcomer, (), h.boards, trivial⟩
  obtain ⟨invites, hinvites⟩ : ∃ invites, db.invites.insert? (newInvite casing now actor inviteId token payload) =
      some invites := Table.exists_insert?.mpr h.id
  obtain ⟨rows, hrows⟩ : ∃ rows, (db.inviteBoardAccess.deleteWhere fun a => a.organizationInviteId = inviteId).insertAll?
      (inviteAccessRows (newInvite casing now actor inviteId token payload) payload.boardAccess) = some rows := by
    refine Table.exists_insertAll?.mpr ⟨?_, nodup_inviteAccessRows.mpr h.rows⟩
    intro a ha
    -- the rows of the invitation were deleted before
    refine Table.get?_eq_none.mpr fun a' ha' hk => ?_
    have hid : a'.organizationInviteId = inviteId := (Prod.mk.inj hk).1.trans (inviteAccessRows_key ha)
    simpa [hid] using (Table.mem_deleteWhere.mp ha').2
  refine ⟨{ db with invites, inviteBoardAccess := rows }, respondOrg_eq_ok.mpr ⟨_, hcheck, ?_⟩⟩
  simp only [OrgWrite.apply, bind_eq_ok, orFail_eq_ok, require_eq_ok, pure_eq_ok]
  exact ⟨(), h.token, invites, hinvites, rows, hrows, rfl⟩

theorem findInvite_of_insert? (hfresh : ∀ i ∈ db.invites.rows, i.token ≠ invite.token)
    (hpending : invite.acceptedAt = none) (h : db.invites.insert? invite = some t.invites) :
    findInvite t invite.token = some invite := by
  unfold findInvite
  rw [(Table.insert?_eq_some h).1, List.find?_append, List.find?_eq_none.mpr]
  · simp [hpending]
  · intro i hi
    simp [hfresh i hi]

theorem invite_of_new (hactor : request.actor? = some actor) (h : respondOrg casing db now request = .ok t)
    (hnew : invite ∈ t.invites) (hold : invite ∉ db.invites) :
    ∃ inviteId token payload, request = .createInvite actor inviteId token payload ∧
      invite = newInvite casing now actor inviteId token payload := by
  obtain ⟨write, hcheck, happly⟩ := respondOrg_eq_ok.mp h
  cases request with
  | createInvite actor' inviteId token payload =>
    obtain rfl : actor' = actor := Option.some.inj hactor
    have hinsert := (createInvite_eq_ok h).2
    exact ⟨inviteId, token, payload, rfl, ((Table.mem_insert? hinsert).mp hnew).resolve_left hold⟩
  | acceptInvite user token memberId => cases hactor
  | updateMember actor' memberId role =>
    simp only [checkOrgRequest, bind_eq_ok, pure_eq_ok] at hcheck
    obtain ⟨_, -, _, -, rfl⟩ := hcheck
    simp only [OrgWrite.apply, bind_eq_ok, pure_eq_ok] at happly
    obtain ⟨_, -, _, -, rfl⟩ := happly
    exact absurd hnew hold
  | updateAccess actor' memberId update =>
    simp only [checkOrgRequest, bind_eq_ok, pure_eq_ok] at hcheck
    obtain ⟨_, -, _, -, _, -, rfl⟩ := hcheck
    simp only [OrgWrite.apply, bind_eq_ok, pure_eq_ok] at happly
    obtain ⟨_, -, _, -, rfl⟩ := happly
    exact absurd hnew hold
  | removeMember actor' memberId =>
    simp only [checkOrgRequest, bind_eq_ok, pure_eq_ok] at hcheck
    obtain ⟨_, -, _, -, _, -, rfl⟩ := hcheck
    obtain rfl := Except.ok.inj happly
    exact absurd hnew hold
  | revokeInvite actor' inviteId =>
    simp only [checkOrgRequest, bind_eq_ok, pure_eq_ok] at hcheck
    obtain ⟨_, -, _, -, _, -, rfl⟩ := hcheck
    obtain rfl := Except.ok.inj happly
    exact absurd (Table.mem_deleteWhere.mp hnew).1 hold

/-! ## Every request of a member who is not an owner -/

theorem newInvite_role_ne_owner (h : normalizeRole casing payload.role ≠ "owner") (now : Time) (actor : OrgActor)
    (inviteId : Uuid) (token : String) :
    let invite := newInvite casing now actor inviteId token payload
    Role.ofText invite.role ≠ .owner ∧
      Role.ofText (normalizeRole casing (if invite.role = "" then "member" else invite.role)) ≠ .owner := by
  have hne : normalizeRole casing payload.role ≠ "" := by
    unfold normalizeRole
    split
    · decide
    · assumption
  dsimp only [newInvite]
  rw [if_neg hne, normalizeRole_normalizeRole, Ne, Role.ofText_eq_owner]
  exact ⟨h, h⟩

/-- **Only owners decide who owns**: a request of another member, or an accepted invitation of one,
leaves the owners as they are exactly when it neither gives nor takes the owner's role. -/
theorem ownersStay {casing : Casing} {db : Db} {now : Time} {request : OrgRequest} {actor : OrgActor}
    {member : OrganizationMember} (hactor : request.actor? = some actor)
    (hmember : getMember db actor.userId actor.organizationId = some member) (hrole : member.role ≠ .owner) :
    OwnersStay casing db now request ↔ ¬ MovesOwners casing db request := by
  constructor
  · intro hstay hmoves
    match request with
    | .updateMember actor' memberId (some (some role)) =>
      obtain ⟨⟨admin, hadmin⟩, m, hm, hdiffers⟩ := hmoves
      obtain ⟨t, ht⟩ := exists_updateMember hadmin hm casing now role
      exact hdiffers ((sameOwners_updateMember hm ht).mp (hstay.answered t ht))
    | .createInvite actor' inviteId token payload =>
      obtain ⟨hadmitted, howner⟩ := hmoves
      obtain ⟨t, ht⟩ := exists_createInvite hadmitted now
      obtain ⟨-, hinsert⟩ := createInvite_eq_ok ht
      -- somebody accepts the invitation at once
      have hfound := findInvite_of_insert? hadmitted.token rfl hinsert
      obtain ⟨user, memberId, s, hs, hjoined⟩ := exists_acceptInvite hfound casing now
      have hold : newInvite casing now actor' inviteId token payload ∉ db.invites := fun hold =>
        hadmitted.token _ hold rfl
      have hsame := hstay.accepted t ht _ ((Table.mem_insert? hinsert).mpr (.inr rfl)) hold [] now user memberId hfound s hs
      exact (sameOwners_insert hjoined).mp hsame (Role.ofText_eq_owner.mpr howner)
  · intro hmoves
    refine ⟨fun t ht => ?_, fun t ht invite hnew hold later acceptedAt user memberId hfound s' hs' => ?_⟩
    · by_cases hupdate : ∃ memberId role, request = .updateMember actor memberId (some (some role))
      · obtain ⟨memberId, role, rfl⟩ := hupdate
        obtain ⟨write, hcheck, -⟩ := respondOrg_eq_ok.mp ht
        simp only [checkOrgRequest, bind_eq_ok, pure_eq_ok] at hcheck
        obtain ⟨admin, hadmin, m, hm, -⟩ := hcheck
        rw [sameOwners_updateMember hm ht]
        exact not_not.mp fun hdiffers => hmoves ⟨⟨admin, hadmin⟩, m, hm, hdiffers⟩
      · exact sameOwners_request hactor hmember hrole (fun memberId role he => hupdate ⟨memberId, role, he⟩) ht
    · obtain ⟨inviteId, token, payload, rfl, rfl⟩ := invite_of_new hactor ht hnew hold
      have hne : normalizeRole casing payload.role ≠ "owner" := fun howner => hmoves ⟨(createInvite_eq_ok ht).1, howner⟩
      obtain ⟨hgiven, hraised⟩ := newInvite_role_ne_owner hne now actor inviteId token
      exact sameOwners_acceptInvite hfound hgiven hraised hs'

namespace Sample

def lowered : Casing where
  lower := id
  normalized role := by
    by_cases h : strip role = ""
    · simp [h]
      decide
    · simp [h]

def owner : OrganizationMember := { id := 1, organizationId := 1, userId := 1, role := .owner }

def admin : OrganizationMember := { id := 2, organizationId := 1, userId := 2, role := .admin }

def colleague : OrganizationMember := { id := 3, organizationId := 1, userId := 3 }

def team : Db where
  members := ⟨[owner, admin, colleague], by decide⟩

def adminActor : OrgActor := { userId := 2, organizationId := 1 }

end Sample

theorem ownersStay_promoted : OwnersStay Sample.lowered Sample.team 1
    (.updateMember Sample.adminActor 3 (some (some "admin"))) := by
  have hactor : OrgRequest.actor? (.updateMember Sample.adminActor 3 (some (some "admin"))) = some Sample.adminActor := rfl
  have hmember : getMember Sample.team 2 1 = some Sample.admin := rfl
  refine (ownersStay hactor hmember (by decide)).mpr ?_
  rintro ⟨-, m, hm, hdiffers⟩
  obtain rfl : Sample.colleague = m := Except.ok.inj hm
  exact hdiffers (iff_of_false (by decide) (by decide))

/-- An administrator makes a member an owner. -/
theorem not_ownersStay : ¬ ∀ (casing : Casing) (db : Db) (now : Time) (request : OrgRequest) (actor : OrgActor)
    (member : OrganizationMember), request.actor? = some actor →
      getMember db actor.userId actor.organizationId = some member → member.role ≠ .owner →
        OwnersStay casing db now request := by
  intro h
  have hstay := h Sample.lowered Sample.team 1 (.updateMember Sample.adminActor 3 (some (some "owner"))) Sample.adminActor
    Sample.admin rfl rfl (by decide)
  have hm : requireOrgMember Sample.team Sample.adminActor.organizationId 3 = .ok Sample.colleague := rfl
  have hadmin : orgAdmin Sample.team Sample.adminActor = .ok Sample.admin := rfl
  obtain ⟨t, ht⟩ := exists_updateMember hadmin hm Sample.lowered 1 "owner"
  have hsame := (sameOwners_updateMember hm ht).mp (hstay.answered t ht)
  exact absurd (hsame.mp (by decide)) (by decide)

end SiloForge
