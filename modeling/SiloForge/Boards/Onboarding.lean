import SiloForge.Db.Schema

/-!
# Onboarding

A board is set up in a conversation of its user with the agent of its gateway. A request about it reads a session, may
wait for the gateway, and writes back the columns it changed.

* `OnboardingRequest.begin` : what a request reads, and what it is going to write;
* `OnboardingPending.finish` : the write, on the sessions as they are by then;
* `BoardOnboardingSession.flush` : a row after the columns another one changed are written.
-/

namespace SiloForge

open Lib

/-! ## Rows -/

structure OnboardingMessage where
  role : String
  content : String
  timestamp : Time
  deriving DecidableEq

structure BoardOnboardingSession where
  id : Uuid
  boardId : Uuid
  status : String := "active"
  messages : List OnboardingMessage := []
  draftGoal : Option Json := none
  updatedAt : Time := 0
  deriving DecidableEq

instance : Keyed BoardOnboardingSession Uuid := ⟨BoardOnboardingSession.id⟩

def latestOnboarding (sessions : Table BoardOnboardingSession) (boardId : Uuid) : Option BoardOnboardingSession :=
  firstBy (fun a b => b.updatedAt < a.updatedAt) (sessions.rows.filter fun o => o.boardId = boardId)

def activeOnboarding (sessions : Table BoardOnboardingSession) (boardId : Uuid) : Option BoardOnboardingSession :=
  sessions.rows.find? fun o => o.boardId = boardId ∧ o.status = "active"

/-! ## Payloads -/

structure BoardOnboardingAnswer where
  answer : String
  otherText : Option String := none

def BoardOnboardingAnswer.text (payload : BoardOnboardingAnswer) : String :=
  match payload.otherText.filter fun text => text ≠ "" with
  | some otherText => payload.answer ++ ": " ++ otherText
  | none => payload.answer

/-- A question, or the complete draft; the text is the update as JSON. -/
inductive BoardOnboardingAgentUpdate where
  | question (payloadText : String)
  | complete (payloadText : String) (payloadData : Json)

def BoardOnboardingAgentUpdate.text : BoardOnboardingAgentUpdate → String
  | .question payloadText | .complete payloadText _ => payloadText

namespace BoardOnboardingSession

/-- The last message, where it is a text of the user. -/
def lastUserContent (onboarding : BoardOnboardingSession) : Option String :=
  match onboarding.messages.getLast? with
  | some message => if message.role = "user" ∧ message.content ≠ "" then some message.content else none
  | none => none

def resumed (onboarding : BoardOnboardingSession) (now : Time) : BoardOnboardingSession :=
  { onboarding with updatedAt := now }

def withMessage (onboarding : BoardOnboardingSession) (now : Time) (message : OnboardingMessage) :
    BoardOnboardingSession :=
  { onboarding with messages := onboarding.messages ++ [message], updatedAt := now }

def updated (onboarding : BoardOnboardingSession) (timestamp now : Time) (payload : BoardOnboardingAgentUpdate) :
    BoardOnboardingSession :=
  let stored := onboarding.withMessage now { role := "assistant", content := payload.text, timestamp }
  match payload with
  | .question _ => stored
  | .complete _ payloadData => { stored with draftGoal := some payloadData, status := "completed" }

def confirmed (onboarding : BoardOnboardingSession) (now : Time) : BoardOnboardingSession :=
  { onboarding with status := "confirmed", updatedAt := now }

/-- The row `current` once the changes from `loaded` to `new` are written. -/
def flush (loaded new current : BoardOnboardingSession) : BoardOnboardingSession :=
  { current with
    status := writtenColumn loaded.status new.status current.status
    messages := writtenColumn loaded.messages new.messages current.messages
    draftGoal := writtenColumn loaded.draftGoal new.draftGoal current.draftGoal
    updatedAt := writtenColumn loaded.updatedAt new.updatedAt current.updatedAt }

end BoardOnboardingSession

/-! ## Requests -/

inductive OnboardingRequest where
  | start (boardId : Uuid) (prompt : String)
  | answer (boardId : Uuid) (payload : BoardOnboardingAnswer)
  | agentUpdate (boardId : Uuid) (payload : BoardOnboardingAgentUpdate)
  | confirm (boardId : Uuid)

inductive OnboardingPending where
  | start (boardId : Uuid) (prompt : String)
  | resume (loaded : BoardOnboardingSession)
  | answer (loaded : BoardOnboardingSession) (timestamp : Time) (payload : BoardOnboardingAnswer)
  | agentUpdate (loaded : BoardOnboardingSession) (timestamp : Time) (payload : BoardOnboardingAgentUpdate)
  | confirm (loaded : BoardOnboardingSession)

/-- The part of a request before its write: `start_onboarding` looks for an active session; the
agent's updates are refused on a confirmed one. -/
def OnboardingRequest.begin (sessions : Table BoardOnboardingSession) (now : Time) :
    OnboardingRequest → Except Failure (Option OnboardingPending)
  | .start boardId prompt =>
    match activeOnboarding sessions boardId with
    | some onboarding => .ok (if onboarding.lastUserContent.isSome then some (.resume onboarding) else none)
    | none => .ok (some (.start boardId prompt))
  | .answer boardId payload => do
    let onboarding ← orFail (latestOnboarding sessions boardId) (.status 404)
    return some (.answer onboarding now payload)
  | .agentUpdate boardId payload => do
    let onboarding ← orFail (latestOnboarding sessions boardId) (.status 404)
    require (onboarding.status ≠ "confirmed") (.status 409)
    return some (.agentUpdate onboarding now payload)
  | .confirm boardId => do
    let onboarding ← orFail (latestOnboarding sessions boardId) (.status 404)
    return some (.confirm onboarding)

def writeBack (sessions : Table BoardOnboardingSession) (loaded new : BoardOnboardingSession) :
    Except Failure (Table BoardOnboardingSession) := do
  let current ← orFail (sessions.get? loaded.id) (.status 500)
  return sessions.put (loaded.flush new current)

def OnboardingPending.message (now : Time) : OnboardingPending → Option OnboardingMessage
  | .start _ prompt => some { role := "user", content := prompt, timestamp := now }
  | .answer _ timestamp payload => some { role := "user", content := payload.text, timestamp }
  | .agentUpdate _ timestamp payload => some { role := "assistant", content := payload.text, timestamp }
  | .resume _ | .confirm _ => none

def OnboardingPending.sessionId (newId : Uuid) : OnboardingPending → Uuid
  | .start _ _ => newId
  | .resume loaded | .answer loaded _ _ | .agentUpdate loaded _ _ | .confirm loaded => loaded.id

/-- The write of a request, when the gateway has answered. -/
def OnboardingPending.finish (sessions : Table BoardOnboardingSession) (now : Time) (newId : Uuid) :
    OnboardingPending → Except Failure (Table BoardOnboardingSession)
  | .start boardId prompt =>
    let onboarding : BoardOnboardingSession :=
      { id := newId, boardId, updatedAt := now,
        messages := [{ role := "user", content := prompt, timestamp := now }] }
    orFail (sessions.insert? onboarding) .integrityError
  | .resume loaded => writeBack sessions loaded (loaded.resumed now)
  | .answer loaded timestamp payload =>
    writeBack sessions loaded (loaded.withMessage now { role := "user", content := payload.text, timestamp })
  | .agentUpdate loaded timestamp payload => writeBack sessions loaded (loaded.updated timestamp now payload)
  | .confirm loaded => writeBack sessions loaded (loaded.confirmed now)

end SiloForge
