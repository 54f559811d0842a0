import SiloForge.System.Commit

/-!
# What happens to approvals

An approval names its tasks by link rows, and repeats one of them in its own `taskId`. Creations and escalations set
both; the deletion of a task takes its links away and elects another of the linked tasks, or deletes the approval.

* `ApprovalChange` : what a request does to the approvals and their links, `approvalChange_of_mem`;
* `ReferencesFit` : the two references of every approval fit together;
* `referencesHold` : they do in every state, and the deletion of a task keeps what other tasks need.
-/

namespace SiloForge

open Lib

def Operation.approvalStatus? : Operation → Option ApprovalStatus
  | .createApproval _ _ _ payload => some payload.status
  | .escalateRun .. => some .pending
  | _ => none

def Operation.resolution? : Operation → Option (Uuid × ApprovalStatus)
  | .updateApproval _ approvalId _ status => status.map fun s => (approvalId, s)
  | _ => none

def Operation.deleted? : Operation → Option Uuid
  | .deleteTask _ taskId _ => some taskId
  | _ => none

variable {taskId : Uuid} {request : Request} {links : Table ApprovalTaskLink} {a : Approval}

theorem Operation.only_of_deleted? {op : Operation} (h : op.deleted? = some taskId) :
    op.approvalStatus? = none ∧ op.resolution? = none := by
  cases op <;> cases h
  exact ⟨rfl, rfl⟩

inductive ApprovalChange (db : Db) (request : Request) (t : Db) : Prop
  | kept (hop : request.op.deleted? = none) (happrovals : t.approvals = db.approvals)
      (hlinks : t.approvalTaskLinks = db.approvalTaskLinks)
  | created (approval : Approval) (taskIds : List Uuid) (hop : request.op.approvalStatus? = some approval.status)
      (htask : approval.taskId = taskIds.head?) (hresolved : approval.resolvedAt = none)
      (hinsert : db.approvals.insert? approval = some t.approvals)
      (hlinks : replaceApprovalTaskLinks db approval.id taskIds = .ok t.approvalTaskLinks)
  | detached (taskId : Uuid) (hop : request.op.deleted? = some taskId)
      (happrovals : t.approvals = detachApprovals db.approvals t.approvalTaskLinks taskId)
      (hlinks : t.approvalTaskLinks = db.approvalTaskLinks.deleteWhere fun l => l.taskId = taskId)
  | released (agentId : Uuid) (hop : request.op.deleted? = none)
      (happrovals : t.approvals = releaseAgentApprovals db.approvals agentId)
      (hlinks : t.approvalTaskLinks = db.approvalTaskLinks)
  | resolved (approval : Approval) (status : ApprovalStatus)
      (hop : request.op.resolution? = some (approval.id, status))
      (hget : db.approvals.get? approval.id = some approval)
      (happrovals : t.approvals = db.approvals.put (approval.resolve request.now status))
      (hlinks : t.approvalTaskLinks = db.approvalTaskLinks)

/-- **Every committed state** is the outcome of an `ApprovalChange`. -/
theorem approvalChange_of_mem {env : Env} {db t : Db} (ht : t ∈ (machine env).commits db request) :
    ApprovalChange db request t := by
  have hcommit := commit_of_mem ht
  obtain ⟨now, op⟩ := request
  cases op with
  | createApproval boardId approvalId actor payload =>
    obtain ⟨checked, hstatus, hstore⟩ := createApproval_eq_ok (Response.mem_single.mp ht)
    obtain ⟨approvals, links, hinsert, hlinks, rfl⟩ := storeApproval_eq_ok hstore
    exact .created _ _ (congrArg some hstatus.symm) rfl rfl hinsert hlinks
  | updateApproval boardId approvalId userId status =>
    rcases updateApproval_eq_ok (Response.mem_single.mp ht) with rfl | ⟨approval, target, rfl, hget, rfl⟩
    · exact .kept rfl rfl rfl
    · obtain rfl : approval.id = approvalId := Table.key_of_get? hget
      exact .resolved approval target rfl hget rfl rfl
  | escalateRun scope runId approvalId note =>
    obtain ⟨board, task, hscope, hok⟩ := onRun_eq_ok (Response.mem_single.mp ht)
    obtain ⟨run, silo, -, hstore⟩ := escalateRun_eq_ok hok
    obtain ⟨approval, approvals, links, tasks, events, -, -, htask, hpending, hresolved, hinsert, hlinks, -, rfl⟩ :=
      storeEscalation_eq_ok hstore
    exact .created approval [task.id] (congrArg some hpending.symm) htask hresolved hinsert hlinks
  | deleteTask boardId taskId actor =>
    obtain ⟨_, rfl, -, events, tags, values, rfl⟩ := deleteTask_eq_ok (Response.mem_single.mp ht)
    exact .detached taskId rfl rfl rfl
  | deleteAgent agentId =>
    obtain ⟨events, rfl⟩ := deleteAgentRecord_eq_ok (Response.mem_single.mp ht)
    exact .released agentId rfl rfl rfl
  | _ =>
    cases hcommit with
    | created | patched | reconciled | logged | runCreated | runReported | runCancelled | runDispatched =>
      exact .kept rfl rfl rfl
    | deleted _ _ _ _ _ _ hop => cases hop
    | released _ _ hop => cases hop
    | approvalCreated _ _ _ _ _ _ _ _ hop => cases hop
    | approvalResolved _ _ _ _ _ _ hop => cases hop
    | runEscalated _ _ _ _ _ _ _ _ _ _ hop => cases hop

/-- Where an approval of a committed state comes from: it is new, or keeps the status and resolution time it had, or was
given a status by the request. -/
theorem ApprovalChange.origin {db t : Db} (h : ApprovalChange db request t) {b : Approval} (hb : b ∈ t.approvals) :
    (db.approvals.get? b.id = none ∧ request.op.approvalStatus? = some b.status ∧ b.resolvedAt = none) ∨
      ∃ a ∈ db.approvals, b.id = a.id ∧
        ((b.status = a.status ∧ b.resolvedAt = a.resolvedAt) ∨
          ∃ status, request.op.resolution? = some (a.id, status) ∧ b = a.resolve request.now status) := by
  cases h with
  | kept hop happrovals hlinks =>
    rw [happrovals] at hb
    exact .inr ⟨b, hb, rfl, .inl ⟨rfl, rfl⟩⟩
  | created approval taskIds hop htask hresolved hinsert hlinks =>
    rcases (Table.mem_insert? hinsert).mp hb with hold | rfl
    · exact .inr ⟨b, hold, rfl, .inl ⟨rfl, rfl⟩⟩
    · exact .inl ⟨(Table.insert?_eq_some hinsert).2, hop, hresolved⟩
  | detached taskId hop happrovals hlinks =>
    rw [happrovals] at hb
    obtain ⟨a, ha, -, hself⟩ := mem_detachApprovals.mp hb
    split at hself <;> subst hself <;> exact .inr ⟨a, ha, rfl, .inl ⟨rfl, rfl⟩⟩
  | released agentId hop happrovals hlinks =>
    rw [happrovals] at hb
    obtain ⟨a, ha, hself⟩ := mem_releaseAgentApprovals.mp hb
    split at hself <;> subst hself <;> exact .inr ⟨a, ha, rfl, .inl ⟨rfl, rfl⟩⟩
  | resolved approval status hop hget happrovals hlinks =>
    rw [happrovals] at hb
    rcases Table.mem_put.mp hb with ⟨hold, -⟩ | ⟨rfl, -⟩
    · exact .inr ⟨b, hold, rfl, .inl ⟨rfl, rfl⟩⟩
    · exact .inr ⟨approval, Table.mem_of_get? hget, rfl, .inr ⟨status, hop, rfl⟩⟩

/-! ## The references of an approval -/

/-- An approval without links names no task; one with links names one of the linked tasks, and is linked to each once. -/
def ReferenceFits (links : Table ApprovalTaskLink) (a : Approval) : Prop :=
  (linkedTaskIds links a.id = [] ∧ a.taskId = none) ∨
    ((∃ taskId ∈ linkedTaskIds links a.id, a.taskId = some taskId) ∧ (linkedTaskIds links a.id).Nodup)

instance (links : Table ApprovalTaskLink) (a : Approval) : Decidable (ReferenceFits links a) :=
  inferInstanceAs (Decidable (_ ∨ _))

def ReferencesFit (db : Db) : Prop := ∀ a ∈ db.approvals, ReferenceFits db.approvalTaskLinks a

theorem nodup_linkedTaskIds (links : Table ApprovalTaskLink) (approvalId : Uuid) :
    (linkedTaskIds links approvalId).Nodup := by
  refine List.Nodup.of_map (fun taskId => (approvalId, taskId)) ?_
  have hkeys : (linkedTaskIds links approvalId).map (fun taskId => (approvalId, taskId))
      = (links.rows.filter fun l => l.approvalId = approvalId).map key := by
    rw [linkedTaskIds, List.map_map]
    refine List.map_congr_left fun l hl => ?_
    have hid : l.approvalId = approvalId := by simpa using (List.mem_filter.mp hl).2
    exact Prod.ext hid.symm rfl
  rw [hkeys]
  exact links.nodup.sublist (List.filter_sublist.map key)

theorem referenceFits_iff : ReferenceFits links a ↔
      (linkedTaskIds links a.id = [] ∧ a.taskId = none) ∨ ∃ taskId ∈ linkedTaskIds links a.id, a.taskId = some taskId := by
  simp [ReferenceFits, nodup_linkedTaskIds]

theorem ReferenceFits.linked (h : ReferenceFits links a) (htask : a.taskId = some taskId) :
    taskId ∈ linkedTaskIds links a.id := by
  rcases referenceFits_iff.mp h with ⟨-, hnone⟩ | ⟨own, hown, hsome⟩
  · rw [hnone] at htask
    cases htask
  · obtain rfl := Option.some.inj (hsome.symm.trans htask)
    exact hown

theorem referenceFits_of_head? (h : a.taskId = (linkedTaskIds links a.id).head?) : ReferenceFits links a := by
  rw [referenceFits_iff]
  cases hlinks : linkedTaskIds links a.id with
  | nil =>
    rw [hlinks] at h
    exact .inl ⟨rfl, h⟩
  | cons taskId taskIds =>
    rw [hlinks] at h
    exact .inr ⟨taskId, List.mem_cons_self, h⟩

/-! ## One request -/

theorem mem_linkedTaskIds_of_replace {db : Db} {approvalId : Uuid} {taskIds : List Uuid}
    (h : replaceApprovalTaskLinks db approvalId taskIds = .ok links) (id taskId : Uuid) :
    taskId ∈ linkedTaskIds links id ↔
      if id = approvalId then taskId ∈ taskIds else taskId ∈ linkedTaskIds db.approvalTaskLinks id := by
  rw [mem_linkedTaskIds, isLinked_iff, (replaceApprovalTaskLinks_eq_ok h).2, mem_linkedTaskIds, isLinked_iff]
  split
  · rename_i hid
    simp [hid]
  · rename_i hid
    simp [hid]

theorem mem_linkedTaskIds_of_delete {id other : Uuid} :
    other ∈ linkedTaskIds (links.deleteWhere fun l => l.taskId = taskId) id ↔
      other ∈ linkedTaskIds links id ∧ other ≠ taskId := by
  simp [mem_linkedTaskIds, isLinked_iff]

theorem ReferenceFits.congr {links' : Table ApprovalTaskLink} {a' : Approval} (h : ReferenceFits links a)
    (htask : a'.taskId = a.taskId)
    (hlinked : ∀ taskId, taskId ∈ linkedTaskIds links' a'.id ↔ taskId ∈ linkedTaskIds links a.id) :
    ReferenceFits links' a' := by
  rw [referenceFits_iff] at h ⊢
  rw [htask]
  rcases h with ⟨hnone, htask⟩ | ⟨taskId, hmem, htask⟩
  · refine .inl ⟨List.eq_nil_iff_forall_not_mem.mpr fun taskId hmem => ?_, htask⟩
    have hold := (hlinked taskId).mp hmem
    rw [hnone] at hold
    cases hold
  · exact .inr ⟨taskId, (hlinked taskId).mpr hmem, htask⟩

/-- **One request** keeps the references of every approval together. -/
theorem ApprovalChange.keepsReferences {db t : Db} (h : ApprovalChange db request t) (hfit : ReferencesFit db) :
    ReferencesFit t := by
  cases h with
  | kept hop happrovals hlinks =>
    intro a ha
    rw [happrovals] at ha
    rw [hlinks]
    exact hfit a ha
  | created approval taskIds hop htask hresolved hinsert hlinks =>
    intro a ha
    have hlinked := mem_linkedTaskIds_of_replace hlinks
    rcases (Table.mem_insert? hinsert).mp ha with hold | rfl
    · have hne : a.id ≠ approval.id := fun hid =>
        Table.get?_eq_none.mp (Table.insert?_eq_some hinsert).2 a hold hid
      exact (hfit a hold).congr rfl fun taskId => by rw [hlinked, if_neg hne]
    · rw [referenceFits_iff, htask]
      cases taskIds with
      | nil =>
        refine .inl ⟨List.eq_nil_iff_forall_not_mem.mpr fun taskId hmem => ?_, rfl⟩
        rw [hlinked, if_pos rfl] at hmem
        cases hmem
      | cons taskId taskIds =>
        exact .inr ⟨taskId, (hlinked _ _).mpr (by rw [if_pos rfl]; exact List.mem_cons_self), rfl⟩
  | detached taskId hop happrovals hlinks =>
    intro a ha
    rw [happrovals] at ha
    obtain ⟨a', ha', -, hself⟩ := mem_detachApprovals.mp ha
    split at hself
    · subst hself
      exact referenceFits_of_head? rfl
    · rename_i hne
      subst hself
      -- the own task of the approval is another one, so its link stays
      have hold := referenceFits_iff.mp (hfit a' ha')
      rw [referenceFits_iff, hlinks]
      rcases hold with ⟨hnone, htask⟩ | ⟨own, hown, htask⟩
      · refine .inl ⟨List.eq_nil_iff_forall_not_mem.mpr fun other hmem => ?_, htask⟩
        have hother := (mem_linkedTaskIds_of_delete.mp hmem).1
        rw [hnone] at hother
        cases hother
      · refine .inr ⟨own, mem_linkedTaskIds_of_delete.mpr ⟨hown, ?_⟩, htask⟩
        rintro rfl
        exact hne htask
  | released agentId hop happrovals hlinks =>
    intro a ha
    rw [happrovals] at ha
    rw [hlinks]
    obtain ⟨a', ha', hself⟩ := mem_releaseAgentApprovals.mp ha
    split at hself
    · subst hself
      exact (hfit a' ha').congr rfl fun _ => Iff.rfl
    · subst hself
      exact hfit a' ha'
  | resolved approval status hop hget happrovals hlinks =>
    intro a ha
    rw [happrovals] at ha
    rw [hlinks]
    rcases Table.mem_put.mp ha with ⟨hold, -⟩ | ⟨rfl, -⟩
    · exact hfit a hold
    · exact (hfit approval (Table.mem_of_get? hget)).congr rfl fun _ => Iff.rfl

/-- An approval that stands for another task than the deleted one is there after the deletion, and stands for it. -/
def KeepsOthers (s : Db) (taskId : Uuid) (t : Db) : Prop :=
  ∀ a ∈ s.approvals, ∀ other ≠ taskId, StandsFor s.approvalTaskLinks a other →
    ∃ a' ∈ t.approvals, a'.id = a.id ∧ StandsFor t.approvalTaskLinks a' other

theorem ApprovalChange.keepsOthers {db t : Db} (h : ApprovalChange db request t) (hfit : ReferencesFit db)
    (hop : request.op.deleted? = some taskId) : KeepsOthers db taskId t := by
  cases h with
  | kept hnone happrovals hlinks => rw [hop] at hnone; cases hnone
  | released agentId hnone happrovals hlinks => rw [hop] at hnone; cases hnone
  | created approval taskIds hcreate =>
    rw [(Operation.only_of_deleted? hop).1] at hcreate
    cases hcreate
  | resolved approval status hresolve =>
    rw [(Operation.only_of_deleted? hop).2] at hresolve
    cases hresolve
  | detached deletedId hdelete happrovals hlinks =>
    obtain rfl := Option.some.inj (hop.symm.trans hdelete)
    intro a ha other hne hstands
    -- the other task is linked, so a link is left
    have hlinked : other ∈ linkedTaskIds db.approvalTaskLinks a.id := by
      rcases hstands with hown | hlink
      · exact (hfit a ha).linked hown
      · exact mem_linkedTaskIds.mpr hlink
    have hleft : other ∈ linkedTaskIds t.approvalTaskLinks a.id := by
      rw [hlinks]
      exact mem_linkedTaskIds_of_delete.mpr ⟨hlinked, hne⟩
    refine ⟨if a.taskId = some taskId then a.relink t.approvalTaskLinks else a, ?_, ?_, .inr ?_⟩
    · rw [happrovals]
      exact mem_detachApprovals.mpr ⟨a, ha, fun _ => List.ne_nil_of_mem hleft, rfl⟩
    · split <;> rfl
    · have hid : (if a.taskId = some taskId then a.relink t.approvalTaskLinks else a).id = a.id := by split <;> rfl
      rw [hid]
      exact mem_linkedTaskIds.mp hleft

/-! ## Runs of the system -/

structure ReferencesHold (env : Env) (db : Db) (requests : List Request) : Prop where
  fit : ∀ t ∈ (machine env).committed db requests, ReferencesFit t
  deletions : (machine env).Along ((machine env).Each fun s request t =>
    ∀ taskId, request.op.deleted? = some taskId → KeepsOthers s taskId t) db requests

/-- **References hold** in every run of the system. -/
theorem referencesHold {env : Env} {db : Db} {requests : List Request} (h : ReferencesFit db) :
    ReferencesHold env db requests where
  fit := Machine.committed_inv ReferencesFit (P := fun _ _ => True)
    (fun _ _ hs _ _ ht => (approvalChange_of_mem ht).keepsReferences hs) h
    (Machine.along_of_forall (fun _ _ => trivial) db requests)
  deletions := Machine.Along.of_inv ReferencesFit (P := fun _ _ => True)
    (fun _ _ hs _ => (machine env).next_of_each hs fun _ ht => (approvalChange_of_mem ht).keepsReferences hs)
    (fun _ _ hs _ _ ht _ hop => (approvalChange_of_mem ht).keepsOthers hs hop) h
    (Machine.along_of_forall (fun _ _ => trivial) db requests)

namespace Sample

def approvableTasks : Db :=
  { db with tasks := ⟨[task, { id := 2, boardId := some 1, title := "Test" }], by decide⟩ }

def approvalOfBoth : List Request :=
  [⟨1, .createApproval 1 7 (.user 1)
      { actionType := "merge", taskIds := [1], taskId := some 2, payload := .obj [("reason", .str "Done.")] }⟩,
    ⟨2, .deleteTask 1 1 (.user 1)⟩]

end Sample

theorem referencesHold_approvalOfBoth :
    ReferencesHold Sample.env Sample.approvableTasks Sample.approvalOfBoth ∧
      ∃ a, ((machine Sample.env).run Sample.approvableTasks Sample.approvalOfBoth).approvals.get? 7 = some a ∧
        a.taskId = some 2 :=
  ⟨referencesHold (by intro a ha; cases ha), _, rfl, rfl⟩

end SiloForge
