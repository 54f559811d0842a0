import SiloForge.Db.Schema
import SiloForge.Queue.Payloads

/-!
# The state of an agent

The columns of an agent's row that its lifecycle reads and writes, and the functions that change them. A request
changes the copy of the row it has loaded; an update writes the columns that are not as they were loaded.

* `AgentRow`, `AgentRow.writtenOver` : the row, and an update of it;
* `mintAgentToken`, `verifyAgentToken` : the token of an agent, of which the row keeps a hash;
* `commitHeartbeat`, `touchAgentPresence` : an agent checks in;
* `hasCheckedInSinceWake`, `awaitsCheckin` : whether it has.
-/

namespace SiloForge

open Lib

/-! ## Tokens -/

structure TokenHash where
  iterations : Nat
  salt : String
  digest : String
  deriving DecidableEq

/-- `pbkdf2_hmac` with SHA-256, of a token, a salt and a number of iterations. -/
abbrev Pbkdf2 := String → String → Nat → String

def tokenIterations : Nat := 200000

def hashAgentToken (pbkdf2 : Pbkdf2) (token salt : String) : TokenHash :=
  { iterations := tokenIterations, salt, digest := pbkdf2 token salt tokenIterations }

def verifyAgentToken (pbkdf2 : Pbkdf2) (token : String) (stored : TokenHash) : Bool :=
  pbkdf2 token stored.salt stored.iterations = stored.digest

@[simp] theorem verifyAgentToken_hashAgentToken (pbkdf2 : Pbkdf2) (token salt : String) :
    verifyAgentToken pbkdf2 token (hashAgentToken pbkdf2 token salt) = true := decide_eq_true rfl

/-! ## Rows -/

def defaultHeartbeatConfig : Json :=
  .obj [("every", .str "10m"), ("target", .str "last"), ("includeReasoning", .bool false)]

/-- `CHECKIN_DEADLINE_AFTER_WAKE`, in microseconds as all times here. -/
def checkinDeadlineAfterWake : Time := 30000000

def maxWakeAttemptsWithoutCheckin : Nat := 3

def lastSeenTouchInterval : Time := 30000000

/-- The row of an agent. A heartbeat may set any status. -/
structure AgentRow extends Agent where
  gatewayId : Uuid
  status : String := "provisioning"
  openclawSessionId : Option String := none
  agentTokenHash : Option TokenHash := none
  heartbeatConfig : Option Json := none
  provisionRequestedAt : Option Time := none
  provisionConfirmTokenHash : Option String := none
  provisionAction : Option String := none
  lastSeenAt : Option Time := none
  lifecycleGeneration : Nat := 0
  wakeAttempts : Nat := 0
  lastWakeSentAt : Option Time := none
  checkinDeadlineAt : Option Time := none
  lastProvisionError : Option String := none
  updatedAt : Time := 0

namespace AgentRow

def writtenOver (new loaded current : AgentRow) : AgentRow :=
  { current with
    status := writtenColumn loaded.status new.status current.status
    openclawSessionId := writtenColumn loaded.openclawSessionId new.openclawSessionId current.openclawSessionId
    agentTokenHash := writtenColumn loaded.agentTokenHash new.agentTokenHash current.agentTokenHash
    heartbeatConfig := writtenColumn loaded.heartbeatConfig new.heartbeatConfig current.heartbeatConfig
    provisionRequestedAt :=
      writtenColumn loaded.provisionRequestedAt new.provisionRequestedAt current.provisionRequestedAt
    provisionConfirmTokenHash :=
      writtenColumn loaded.provisionConfirmTokenHash new.provisionConfirmTokenHash current.provisionConfirmTokenHash
    provisionAction := writtenColumn loaded.provisionAction new.provisionAction current.provisionAction
    lastSeenAt := writtenColumn loaded.lastSeenAt new.lastSeenAt current.lastSeenAt
    lifecycleGeneration := writtenColumn loaded.lifecycleGeneration new.lifecycleGeneration current.lifecycleGeneration
    wakeAttempts := writtenColumn loaded.wakeAttempts new.wakeAttempts current.wakeAttempts
    lastWakeSentAt := writtenColumn loaded.lastWakeSentAt new.lastWakeSentAt current.lastWakeSentAt
    checkinDeadlineAt := writtenColumn loaded.checkinDeadlineAt new.checkinDeadlineAt current.checkinDeadlineAt
    lastProvisionError := writtenColumn loaded.lastProvisionError new.lastProvisionError current.lastProvisionError
    updatedAt := writtenColumn loaded.updatedAt new.updatedAt current.updatedAt }

/-! ## A lifecycle run -/

def ensureHeartbeatConfig (agent : AgentRow) : AgentRow :=
  { agent with heartbeatConfig := some (agent.heartbeatConfig.getD defaultHeartbeatConfig) }

def mintAgentToken (agent : AgentRow) (pbkdf2 : Pbkdf2) (token salt : String) : AgentRow :=
  { agent with agentTokenHash := some (hashAgentToken pbkdf2 token salt) }

def markProvisionRequested (agent : AgentRow) (now : Time) (action : String) (status : Option String) : AgentRow :=
  { agent.ensureHeartbeatConfig with
    provisionRequestedAt := some now
    provisionAction := some action
    status := status.getD agent.status
    updatedAt := now }

def markProvisionComplete (agent : AgentRow) (now : Time) (status : String) (clearConfirmToken : Bool) : AgentRow :=
  { agent with
    provisionConfirmTokenHash := if clearConfirmToken then none else agent.provisionConfirmTokenHash
    status
    provisionRequestedAt := none
    provisionAction := none
    updatedAt := now }

/-! ## Checking in -/

/-- `commit_heartbeat`: the escalation of wakes ends. -/
def commitHeartbeat (agent : AgentRow) (now : Time) (statusValue : Option String) : AgentRow :=
  { agent with
    status :=
      (statusValue.filter (· ≠ "")).getD (if agent.status = "provisioning" then "online" else agent.status)
    lastSeenAt := some now
    wakeAttempts := 0
    checkinDeadlineAt := none
    lastProvisionError := none
    updatedAt := now }

def seenRecently (agent : AgentRow) (now : Time) : Bool :=
  agent.lastSeenAt.any fun lastSeen => now < lastSeen + lastSeenTouchInterval

/-- `_touch_agent_presence`: any request of an agent notes its presence. -/
def touchAgentPresence (agent : AgentRow) (now : Time) : AgentRow :=
  if agent.seenRecently now then agent
  else
    { agent with
      lastSeenAt := some now
      updatedAt := now
      status := if agent.status = "updating" ∨ agent.status = "deleting" then agent.status else "online" }

def hasCheckedInSinceWake (agent : AgentRow) : Bool :=
  match agent.lastSeenAt, agent.lastWakeSentAt with
  | none, _ => false
  | some _, none => true
  | some seen, some woken => woken ≤ seen

def awaitsCheckin (agent : AgentRow) : Bool := agent.lastWakeSentAt.isSome && !agent.hasCheckedInSinceWake

end AgentRow

end SiloForge
