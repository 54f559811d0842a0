import SiloForge.Organizations.Access

/-!
# Members and invitations

The requests about who belongs to an organization, and as what. Each reads committed rows and checks them, then
writes and commits; other requests may be answered in between.

* `OrgRequest` : the requests; `checkOrgRequest` : what one reads and checks;
* `OrgWrite`, `OrgWrite.apply` : what it writes in the end, on the rows committed by then;
* `respondOrg` : a request with nothing in between.
-/

namespace SiloForge

open Lib

/-! ## Texts -/

/-- `str.lower`, such that a normalized role stays as it is. -/
structure Casing where
  lower : String → String
  normalized : ∀ role : String,
    let normalize role := if lower (strip role) = "" then "member" else lower (strip role)
    normalize (normalize role) = normalize role

/-- `normalize_role`: an empty role is the member's. -/
def normalizeRole (casing : Casing) (role : String) : String :=
  if casing.lower (strip role) = "" then "member" else casing.lower (strip role)

@[simp] theorem normalizeRole_normalizeRole (casing : Casing) (role : String) :
    normalizeRole casing (normalizeRole casing role) = normalizeRole casing role := casing.normalized role

def normalizeInvitedEmail (casing : Casing) (email : String) : String := casing.lower (strip email)

/-! ## Requests -/

structure OrgActor where
  userId : Uuid
  organizationId : Uuid
  deriving DecidableEq

structure OrganizationBoardAccessSpec where
  boardId : Uuid
  canRead : Bool := true
  canWrite : Bool := false
  deriving DecidableEq

structure OrganizationMemberAccessUpdate where
  allBoardsRead : Bool := false
  allBoardsWrite : Bool := false
  boardAccess : List OrganizationBoardAccessSpec := []

structure OrganizationInviteCreate where
  invitedEmail : String
  role : String := "member"
  allBoardsRead : Bool := false
  allBoardsWrite : Bool := false
  boardAccess : List OrganizationBoardAccessSpec := []

/-- A request about members or invitations. The role of an update is unset, null or a text; new rows get the ids
and the token the request is answered with. -/
inductive OrgRequest where
  | updateMember (actor : OrgActor) (memberId : Uuid) (role : Option (Option String))
  | updateAccess (actor : OrgActor) (memberId : Uuid) (update : OrganizationMemberAccessUpdate)
  | removeMember (actor : OrgActor) (memberId : Uuid)
  | createInvite (actor : OrgActor) (inviteId : Uuid) (token : String) (payload : OrganizationInviteCreate)
  | revokeInvite (actor : OrgActor) (inviteId : Uuid)
  | acceptInvite (user : User) (token : String) (memberId : Uuid)

/-- The member's side of a request; whoever accepts an invitation need not be a member. -/
def OrgRequest.actor? : OrgRequest → Option OrgActor
  | .updateMember actor .. | .updateAccess actor .. | .removeMember actor .. | .createInvite actor ..
  | .revokeInvite actor .. => some actor
  | .acceptInvite .. => none

inductive OrgWrite where
  | patchMember (loaded : OrganizationMember) (role : Option (Option Role))
  | replaceAccess (loaded : OrganizationMember) (update : OrganizationMemberAccessUpdate)
  | removeMember (member : OrganizationMember)
  | addInvite (invite : OrganizationInvite) (entries : List OrganizationBoardAccessSpec)
  | removeInvite (invite : OrganizationInvite)
  | acceptInvite (invite : OrganizationInvite) (user : User) (memberId : Uuid)
  | applyInvite (loaded : OrganizationMember) (invite : OrganizationInvite) (user : User)

/-! ## Reading and checking -/

def orgAdmin (db : Db) (actor : OrgActor) : Except Failure OrganizationMember := do
  let member ← orFail (getMember db actor.userId actor.organizationId) (.status 403)
  require (isOrgAdmin member) (.status 403)
  return member

def requireOrgMember (db : Db) (organizationId memberId : Uuid) : Except Failure OrganizationMember := do
  let member ← orFail (db.members.get? memberId) (.status 404)
  require (member.organizationId = organizationId) (.status 404)
  return member

def owners (db : Db) (organizationId : Uuid) : List OrganizationMember :=
  db.members.rows.filter fun m => m.organizationId = organizationId ∧ m.role = .owner

def validBoardIds (db : Db) (organizationId : Uuid) (entries : List OrganizationBoardAccessSpec) : Bool :=
  entries.all fun entry => db.boards.rows.any fun b => b.id = entry.boardId && b.organizationId = organizationId

/-- Who may be removed: not oneself, an owner by an owner only, and not the last owner. -/
def checkRemoval (db : Db) (actor : OrgActor) (admin member : OrganizationMember) : Except Failure Unit := do
  require (member.userId ≠ admin.userId) (.text 403 "You cannot remove yourself from the organization")
  require (¬ (member.role = .owner ∧ admin.role ≠ .owner)) (.text 403 "Only owners can remove owners")
  require (member.role = .owner → 1 < (owners db actor.organizationId).length)
    (.text 422 "Organization must have at least one owner")

def emailIsMember (casing : Casing) (db : Db) (organizationId : Uuid) (email : String) : Bool :=
  (db.users.rows.find? fun u => u.email.map casing.lower = some email).any fun user =>
    (getMember db user.id organizationId).isSome

def newInvite (casing : Casing) (now : Time) (actor : OrgActor) (inviteId : Uuid) (token : String)
    (payload : OrganizationInviteCreate) : OrganizationInvite :=
  { id := inviteId
    organizationId := actor.organizationId
    invitedEmail := normalizeInvitedEmail casing payload.invitedEmail
    token
    role := normalizeRole casing payload.role
    allBoardsRead := payload.allBoardsRead
    allBoardsWrite := payload.allBoardsWrite
    createdByUserId := some actor.userId
    createdAt := now
    updatedAt := now }

def findInvite (db : Db) (token : String) : Option OrganizationInvite :=
  db.invites.rows.find? fun i => i.token = token ∧ i.acceptedAt = none

/-- Whether an invitation is for another address than the user's; it is for any user without one. -/
def invitesSomeoneElse (casing : Casing) (invite : OrganizationInvite) (user : User) : Bool :=
  user.email.any fun email => invite.invitedEmail ≠ "" && email ≠ "" &&
    decide (normalizeInvitedEmail casing invite.invitedEmail ≠ normalizeInvitedEmail casing email)

/-- What a request reads and checks, and what it goes on to write. -/
def checkOrgRequest (casing : Casing) (db : Db) (now : Time) : OrgRequest → Except Failure OrgWrite
  | .updateMember actor memberId role => do
    let _admin ← orgAdmin db actor
    let member ← requireOrgMember db actor.organizationId memberId
    return .patchMember member (role.map fun role => role.map fun text => Role.ofText (normalizeRole casing text))
  | .updateAccess actor memberId update => do
    let _admin ← orgAdmin db actor
    let member ← requireOrgMember db actor.organizationId memberId
    require (validBoardIds db actor.organizationId update.boardAccess) (.status 422)
    return .replaceAccess member update
  | .removeMember actor memberId => do
    let admin ← orgAdmin db actor
    let member ← requireOrgMember db actor.organizationId memberId
    checkRemoval db actor admin member
    return .removeMember member
  | .createInvite actor inviteId token payload => do
    let _admin ← orgAdmin db actor
    let email := normalizeInvitedEmail casing payload.invitedEmail
    require (email ≠ "") (.status 422)
    require (emailIsMember casing db actor.organizationId email = false) (.status 409)
    require (validBoardIds db actor.organizationId payload.boardAccess) (.status 422)
    return .addInvite (newInvite casing now actor inviteId token payload) payload.boardAccess
  | .revokeInvite actor inviteId => do
    let _admin ← orgAdmin db actor
    let invite ← orFail (db.invites.get? inviteId) (.status 404)
    require (invite.organizationId = actor.organizationId) (.status 404)
    return .removeInvite invite
  | .acceptInvite user token memberId => do
    let invite ← orFail (findInvite db token) (.status 404)
    require (invitesSomeoneElse casing invite user = false) (.status 403)
    return match getMember db user.id invite.organizationId with
      | none => .acceptInvite invite user memberId
      | some member => .applyInvite member invite user

/-! ## Writing -/

def accessRows (memberId : Uuid) (entries : List OrganizationBoardAccessSpec) : List OrganizationBoardAccess :=
  entries.map fun e =>
    { organizationMemberId := memberId, boardId := e.boardId, canRead := e.canRead, canWrite := e.canWrite }

def inviteAccessRows (invite : OrganizationInvite) (entries : List OrganizationBoardAccessSpec) :
    List OrganizationInviteBoardAccess :=
  if invite.allBoardsRead || invite.allBoardsWrite then []
  else entries.map fun e =>
    { organizationInviteId := invite.id, boardId := e.boardId, canRead := e.canRead, canWrite := e.canWrite }

def rowsOfInvite (db : Db) (invite : OrganizationInvite) : List OrganizationInviteBoardAccess :=
  db.inviteBoardAccess.rows.filter fun a => a.organizationInviteId = invite.id

def copiedRows (db : Db) (invite : OrganizationInvite) (memberId : Uuid) : List OrganizationBoardAccess :=
  if invite.allBoardsRead || invite.allBoardsWrite then []
  else (rowsOfInvite db invite).map fun a =>
    { organizationMemberId := memberId, boardId := a.boardId, canRead := a.canRead, canWrite := a.canWrite }

def grantRow (memberId : Uuid) (access : Table OrganizationBoardAccess) (row : OrganizationInviteBoardAccess) :
    Table OrganizationBoardAccess :=
  match access.get? (memberId, row.boardId) with
  | some existing => access.put
      { existing with
        canRead := existing.canRead || (row.canRead || row.canWrite)
        canWrite := existing.canWrite || row.canWrite }
  | none => (access.insert?
      { organizationMemberId := memberId, boardId := row.boardId, canRead := row.canRead || row.canWrite
        canWrite := row.canWrite }).getD access

/-- The users once one of them is removed from an organization: another one becomes active. -/
def leaveOrganization (db : Db) (member : OrganizationMember) : Table User :=
  match db.users.get? member.userId with
  | none => db.users
  | some user =>
    if user.activeOrganizationId = some member.organizationId then
      let fallback := firstBy (fun a b => a.createdAt < b.createdAt)
        (db.members.rows.filter fun m => m.userId = user.id ∧ m.organizationId ≠ member.organizationId)
      db.users.put { user with activeOrganizationId := fallback.map (·.organizationId) }
    else db.users

/-- The users once one without an active organization joins one. -/
def joinOrganization (db : Db) (user : User) (organizationId : Uuid) : Table User :=
  match user.activeOrganizationId, db.users.get? user.id with
  | none, some current => db.users.put { current with activeOrganizationId := some organizationId }
  | _, _ => db.users

def markAccepted (db : Db) (now : Time) (invite : OrganizationInvite) (user : User) :
    Except Failure (Table OrganizationInvite) := do
  let current ← orFail (db.invites.get? invite.id) .integrityError
  return db.invites.put
    { current with acceptedByUserId := some user.id, acceptedAt := some now, updatedAt := now }

/-- The row of a member with a role given in an update. -/
def OrganizationMember.withRole (current loaded : OrganizationMember) (now : Time) (role : Role) : OrganizationMember :=
  { current with
    role := writtenColumn loaded.role role current.role
    updatedAt := writtenColumn loaded.updatedAt now current.updatedAt }

def raisedRole (casing : Casing) (loaded : OrganizationMember) (invite : OrganizationInvite) : Role :=
  let role := Role.ofText (normalizeRole casing (if invite.role = "" then "member" else invite.role))
  if loaded.role.rank < role.rank then role else loaded.role

def OrganizationMember.raised (current loaded : OrganizationMember) (casing : Casing) (now : Time)
    (invite : OrganizationInvite) : OrganizationMember :=
  let all := invite.allBoardsRead || invite.allBoardsWrite
  { current with
    role := writtenColumn loaded.role (raisedRole casing loaded invite) current.role
    allBoardsRead := writtenColumn loaded.allBoardsRead (loaded.allBoardsRead || all) current.allBoardsRead
    allBoardsWrite :=
      writtenColumn loaded.allBoardsWrite (loaded.allBoardsWrite || invite.allBoardsWrite) current.allBoardsWrite
    updatedAt := writtenColumn loaded.updatedAt now current.updatedAt }

def changesMember (casing : Casing) (loaded : OrganizationMember) (invite : OrganizationInvite) : Bool :=
  decide (raisedRole casing loaded invite ≠ loaded.role) || (invite.allBoardsRead || invite.allBoardsWrite)

/-- The members once an invitation is applied to one of them. A row that is not changed need not be there. -/
def raiseMember (casing : Casing) (db : Db) (now : Time) (loaded : OrganizationMember) (invite : OrganizationInvite) :
    Except Failure (Table OrganizationMember) :=
  if changesMember casing loaded invite then do
    let current ← orFail (db.members.get? loaded.id) .integrityError
    return db.members.put (current.raised loaded casing now invite)
  else .ok db.members

/-- The board rows once an invitation is applied to a member. -/
def raiseAccess (db : Db) (loaded : OrganizationMember) (invite : OrganizationInvite) :
    Except Failure (Table OrganizationBoardAccess) :=
  if invite.allBoardsRead || invite.allBoardsWrite then .ok db.boardAccess
  else do
    require (rowsOfInvite db invite = [] ∨ (db.members.get? loaded.id).isSome) .integrityError
    return (rowsOfInvite db invite).foldl (grantRow loaded.id) db.boardAccess

def invitedMember (now : Time) (invite : OrganizationInvite) (user : User) (memberId : Uuid) : OrganizationMember :=
  { id := memberId
    organizationId := invite.organizationId
    userId := user.id
    role := Role.ofText invite.role
    allBoardsRead := invite.allBoardsRead
    allBoardsWrite := invite.allBoardsWrite
    createdAt := now
    updatedAt := now }

/-- What a request writes, on the rows committed by then. An update of a row that is gone fails; a deletion does
not. -/
def OrgWrite.apply (casing : Casing) (db : Db) (now : Time) : OrgWrite → Except Failure Db
  | .patchMember loaded role => do
    let current ← orFail (db.members.get? loaded.id) .integrityError
    let role ← orFail (role.getD (some loaded.role)) .integrityError
    return { db with members := db.members.put (current.withRole loaded now role) }
  | .replaceAccess loaded update => do
    let current ← orFail (db.members.get? loaded.id) .integrityError
    let members := db.members.put
      { current with
        allBoardsRead := writtenColumn loaded.allBoardsRead update.allBoardsRead current.allBoardsRead
        allBoardsWrite := writtenColumn loaded.allBoardsWrite update.allBoardsWrite current.allBoardsWrite
        updatedAt := writtenColumn loaded.updatedAt now current.updatedAt }
    let rows := if update.allBoardsRead || update.allBoardsWrite then [] else accessRows loaded.id update.boardAccess
    let boardAccess ← orFail
      ((db.boardAccess.deleteWhere fun a => a.organizationMemberId = loaded.id).insertAll? rows) .integrityError
    return { db with members, boardAccess }
  | .removeMember member => .ok
    { db with
      members := db.members.deleteWhere fun m => m.id = member.id
      boardAccess := db.boardAccess.deleteWhere fun a => a.organizationMemberId = member.id
      users := leaveOrganization db member }
  | .addInvite invite entries => do
    require (∀ i ∈ db.invites.rows, i.token ≠ invite.token) .integrityError
    let invites ← orFail (db.invites.insert? invite) .integrityError
    let inviteBoardAccess ← orFail
      ((db.inviteBoardAccess.deleteWhere fun a => a.organizationInviteId = invite.id).insertAll?
        (inviteAccessRows invite entries)) .integrityError
    return { db with invites, inviteBoardAccess }
  | .removeInvite invite => .ok
    { db with
      invites := db.invites.deleteWhere fun i => i.id = invite.id
      inviteBoardAccess := db.inviteBoardAccess.deleteWhere fun a => a.organizationInviteId = invite.id }
  | .acceptInvite invite user memberId => do
    require (getMember db user.id invite.organizationId = none) .integrityError
    let members ← orFail (db.members.insert? (invitedMember now invite user memberId)) .integrityError
    let boardAccess ← orFail (db.boardAccess.insertAll? (copiedRows db invite memberId)) .integrityError
    let invites ← markAccepted db now invite user
    return { db with members, boardAccess, invites, users := joinOrganization db user invite.organizationId }
  | .applyInvite loaded invite user => do
    let members ← raiseMember casing db now loaded invite
    let boardAccess ← raiseAccess db loaded invite
    let invites ← markAccepted db now invite user
    return { db with members, boardAccess, invites }

def respondOrg (casing : Casing) (db : Db) (now : Time) (request : OrgRequest) : Except Failure Db := do
  let write ← checkOrgRequest casing db now request
  write.apply casing db now

end SiloForge
