import SiloForge.Lib.Machine
import SiloForge.Organizations.Members

/-!
# The first login of a user

Whoever is authenticated is given a membership: the active one, the oldest one, the one of a pending invitation, or that
of a new organization. A new membership is created under a lock of the user's row, which every commit releases.

* `getFirstMembership`, `findPendingInvite` : what the service looks for;
* `LoginStage` : the statement a call is at, and `advance` : what it does;
* `Logins` : the committed rows and the calls for one user, and `loginMachine` : the calls side by side.
-/

namespace SiloForge

open Lib

/-! ## Rows -/

structure Organization where
  id : Uuid
  name : String
  createdAt : Time := 0
  updatedAt : Time := 0
  deriving DecidableEq

instance : Keyed Organization Uuid := ⟨Organization.id⟩

structure SkillPack where
  organizationId : Uuid
  sourceUrl : String
  name : String
  description : String
  createdAt : Time := 0
  updatedAt : Time := 0
  deriving DecidableEq

instance : Keyed SkillPack (Uuid × String) := ⟨fun pack => (pack.organizationId, pack.sourceUrl)⟩

structure LoginDb extends Db where
  organizations : Table Organization := ∅
  skillPacks : Table SkillPack := ∅

/-! ## Looking for a membership -/

def getFirstMembership (db : Db) (userId : Uuid) : Option OrganizationMember :=
  firstBy (fun a b => a.createdAt < b.createdAt) (db.members.rows.filter fun m => m.userId = userId)

/-- `_find_pending_invite`: the oldest pending invitation of an address, as it is written. -/
def findPendingInvite (db : Db) (email : String) : Option OrganizationInvite :=
  firstBy (fun a b => a.createdAt < b.createdAt)
    (db.invites.rows.filter fun i => i.acceptedAt = none ∧ i.invitedEmail = email)

/-- The address an invitation is looked for, if there is one. -/
def User.givenEmail (user : User) : Option String := user.email.filter (· ≠ "")

/-! ## Default skill packs -/

def defaultOrgName : String := "Personal"

/-- `str.rstrip("/")`. -/
def rstripSlashes (s : String) : String := String.ofList (s.toList.rdropWhile (· = '/'))

def normalizeSkillPackSourceUrl (sourceUrl : String) : String :=
  let normalized := (rstripSlashes (strip sourceUrl)).toList
  if ".git".toList <:+ normalized then String.ofList (normalized.dropLast.dropLast.dropLast.dropLast)
  else String.ofList normalized

def defaultInstallerSkillPacks : List (String × String × String) :=
  [("sickn33/antigravity-awesome-skills", "antigravity-awesome-skills",
      "The Ultimate Collection of 800+ Agentic Skills for Claude Code/Antigravity/Cursor. " ++
      "Battle-tested, high-performance skills for AI agents including official skills from " ++
      "Anthropic and Vercel."),
    ("BrianRWagner/ai-marketing-skills", "ai-marketing-skills",
      "Marketing frameworks that AI actually executes. Use for Claude Code, OpenClaw, etc.")]

def getDefaultSkillPackRecords (organizationId : Uuid) (now : Time) : List SkillPack :=
  defaultInstallerSkillPacks.foldl (fun records (repo, name, description) =>
    let sourceUrl := normalizeSkillPackSourceUrl ("https://github.com/" ++ repo)
    if records.any fun record => record.sourceUrl = sourceUrl then records
    else records ++ [{ organizationId, sourceUrl, name, description, createdAt := now, updatedAt := now }]) []

def fetchExistingDefaultPackSources (db : LoginDb) (organizationId : Uuid) : List String :=
  (db.skillPacks.rows.filter fun pack => pack.organizationId = organizationId).map fun pack =>
    normalizeSkillPackSourceUrl pack.sourceUrl

/-! ## A call, statement by statement -/

inductive LoginStage where
  /-- look for the membership in the active organization -/
  | active
  /-- unset an active organization the user is no member of -/
  | clear
  /-- look for the oldest membership -/
  | first
  /-- look for the membership that is made active -/
  | confirm (member : OrganizationMember)
  /-- set the active organization -/
  | activate (member : OrganizationMember)
  /-- lock the user's row -/
  | lock
  /-- look for the oldest membership again -/
  | recheck
  /-- set the active organization of a membership found under the lock -/
  | adopt (member : OrganizationMember)
  /-- look for an invitation -/
  | invite (email : String)
  /-- accept it -/
  | accept (invite : OrganizationInvite)
  /-- create an organization and its owner -/
  | create
  /-- look for a membership once the creation failed -/
  | recover
  /-- add the skill packs of the new organization -/
  | packs (pending : List SkillPack) (existing : List String) (member : OrganizationMember)
  | returned (member : OrganizationMember)
  | failed
  deriving DecidableEq

def LoginStage.isOver : LoginStage → Bool
  | .returned _ | .failed => true
  | _ => false

/-- A call with the user's row as it loaded it, and whether it holds the row's lock. -/
structure LoginCall where
  id : Nat
  user : User
  stage : LoginStage := .active
  holding : Bool := false
  deriving DecidableEq

instance : Keyed LoginCall Nat := ⟨LoginCall.id⟩

namespace LoginCall

def moved (call : LoginCall) (stage : LoginStage) : LoginCall := { call with stage }

def ended (call : LoginCall) (stage : LoginStage) : LoginCall := { call with stage, holding := false }

def withActive (call : LoginCall) (organizationId : Option Uuid) : LoginCall :=
  { call with user := { call.user with activeOrganizationId := organizationId } }

end LoginCall

def setActive (db : LoginDb) (userId : Uuid) (organizationId : Option Uuid) : Option LoginDb :=
  (db.users.get? userId).map fun current =>
    { db with users := db.users.put { current with activeOrganizationId := organizationId } }

/-- Set the active organization to a membership's and commit, unless it is that already. Whoever writes the row waits
for its lock (`free`). -/
def activateMember (free : Bool) (db : LoginDb) (call : LoginCall) (member : OrganizationMember) :
    Option (LoginDb × LoginCall) :=
  if call.user.activeOrganizationId = some member.organizationId then some (db, call.moved (.returned member))
  else if free then
    match setActive db call.user.id (some member.organizationId) with
    | none => some (db, call.ended .failed)
    | some db => some (db, (call.withActive (some member.organizationId)).ended (.returned member))
  else none

def newOrganization (now : Time) (organizationId : Uuid) : Organization :=
  { id := organizationId, name := defaultOrgName, createdAt := now, updatedAt := now }

def newOwner (now : Time) (userId organizationId memberId : Uuid) : OrganizationMember :=
  { id := memberId, organizationId, userId, role := .owner, allBoardsRead := true, allBoardsWrite := true
    createdAt := now, updatedAt := now }

def insertMember (db : Db) (member : OrganizationMember) : Option (Table OrganizationMember) :=
  if getMember db member.userId member.organizationId = none then db.members.insert? member else none

def createPersonal (db : LoginDb) (now : Time) (call : LoginCall) (organizationId memberId : Uuid) :
    LoginDb × LoginCall :=
  match db.organizations.insert? (newOrganization now organizationId) with
  | none => (db, call.ended .failed)
  | some organizations =>
    let member := newOwner now call.user.id organizationId memberId
    match setActive db call.user.id (some organizationId), insertMember db.toDb member with
    | some active, some members =>
      ({ active with organizations, members },
        (call.withActive (some organizationId)).ended (.packs (getDefaultSkillPackRecords organizationId now)
          (fetchExistingDefaultPackSources db organizationId) member))
    | _, _ => (db, call.ended .recover)

/-- The next statement of a call; `none` where it waits for the lock of the user's row, or is over. New rows get the
ids and the time given. -/
def advance (casing : Casing) (free : Bool) (db : LoginDb) (now : Time) (organizationId memberId : Uuid)
    (call : LoginCall) : Option (LoginDb × LoginCall) :=
  match call.stage with
  | .active =>
    match call.user.activeOrganizationId with
    | none => some (db, call.moved .first)
    | some active =>
      match getMember db.toDb call.user.id active with
      | some member => some (db, call.moved (.returned member))
      | none => some (db, call.moved .clear)
  | .clear =>
    if free then
      match setActive db call.user.id none with
      | none => some (db, call.ended .failed)
      | some db => some (db, (call.withActive none).ended .first)
    else none
  | .first =>
    match getFirstMembership db.toDb call.user.id with
    | none => some (db, call.moved .lock)
    | some member => some (db, call.moved (.confirm member))
  | .confirm member =>
    match getMember db.toDb call.user.id member.organizationId with
    | none => some (db, call.ended .failed)
    | some _ => some (db, call.moved (.activate member))
  | .activate member => activateMember free db call member
  | .lock =>
    -- a row that is not there is not locked
    if free then some (db, { call.moved .recheck with holding := (db.users.get? call.user.id).isSome }) else none
  | .recheck =>
    match getFirstMembership db.toDb call.user.id, call.user.givenEmail with
    | some member, _ => some (db, call.moved (.adopt member))
    | none, some email => some (db, call.moved (.invite email))
    | none, none => some (db, call.moved .create)
  | .adopt member => activateMember free db call member
  | .invite email =>
    match findPendingInvite db.toDb email with
    | some invite => some (db, call.moved (.accept invite))
    | none => some (db, call.moved .create)
  | .accept invite =>
    match OrgWrite.apply casing db.toDb now (.acceptInvite invite call.user memberId) with
    | .error _ => some (db, call.ended .failed)
    | .ok accepted =>
      let joined := call.user.activeOrganizationId.or (some invite.organizationId)
      some ({ db with toDb := accepted },
        (call.withActive joined).ended (.returned (invitedMember now invite call.user memberId)))
  | .create => some (createPersonal db now call organizationId memberId)
  | .recover =>
    match getFirstMembership db.toDb call.user.id with
    | none => some (db, call.ended .failed)
    -- the row is loaded again after the rollback
    | some member =>
      let user := (db.users.get? call.user.id).getD call.user
      some (db, { call with user, stage := .adopt member })
  | .packs [] _ member => some (db, call.moved (.returned member))
  | .packs (pack :: pending) existing member =>
    let sourceUrl := normalizeSkillPackSourceUrl pack.sourceUrl
    if sourceUrl ∈ existing then some (db, call.moved (.packs pending existing member))
    else match db.skillPacks.insert? pack with
      | none => some (db, call.moved (.packs pending (sourceUrl :: existing) member))
      | some skillPacks => some ({ db with skillPacks }, call.moved (.packs pending existing member))
  | .returned _ | .failed => none

/-! ## Calls side by side -/

structure Logins where
  db : LoginDb
  calls : Table LoginCall := ∅

/-- A call begins, goes on, or the request it is part of ends while it holds the lock. -/
inductive LoginAction where
  | call (id : Nat)
  | advance (id : Nat) (now : Time) (organizationId memberId : Uuid)
  | finish (id : Nat)

namespace Logins

/-- No other call holds the lock of the user's row. -/
def lockFree (s : Logins) (call : LoginCall) : Bool :=
  s.calls.rows.all fun other => other.id = call.id || !other.holding

def unused (db : LoginDb) (organizationId memberId : Uuid) : Bool :=
  (db.organizations.get? organizationId).isNone && (db.members.get? memberId).isNone

def step (casing : Casing) (userId : Uuid) (s : Logins) : LoginAction → Option Logins
  | .call id => do
    let user ← s.db.users.get? userId
    let calls ← s.calls.insert? { id, user }
    return { s with calls }
  | .advance id now organizationId memberId => do
    let call ← s.calls.get? id
    if unused s.db organizationId memberId then
      let (db, call) ← advance casing (s.lockFree call) s.db now organizationId memberId call
      return { db, calls := s.calls.put call }
    else none
  | .finish id => do
    let call ← s.calls.get? id
    match call.stage, call.holding with
    | .returned member, true => return { s with calls := s.calls.put (call.ended (.returned member)) }
    | _, _ => none

end Logins

/-- The calls for a user as a machine: every statement leaves a state, in which `db` is what is committed. -/
def loginMachine (casing : Casing) (userId : Uuid) : Machine Logins LoginAction where
  commits s action := (s.step casing userId action).toList

end SiloForge
