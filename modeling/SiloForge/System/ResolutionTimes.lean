import SiloForge.System.ApprovalChange

/-!
# When approvals were resolved

`resolvedAt` should be there for the approvals that are not pending, with the time they last left the pending status.
An update sets it whenever it gives a status that is not pending, and nothing clears it; a creation never sets it.

* `ResolutionNotes`, `noteResolutions` : an observer's notes of when each approval last left the pending status;
* `ResolutionsTold` : the times in the rows are those of the notes;
* `straysResolution` : the request creates a resolved approval, or gives a status to one that is not pending;
* `resolutionsTold` : without such requests the times stay those of the notes.
-/

namespace SiloForge

open Lib

def approvalStatus? (db : Db) (approvalId : Uuid) : Option ApprovalStatus :=
  (db.approvals.get? approvalId).map (·.status)

abbrev ResolutionNotes := Uuid → Option Time

def noteResolutions (s : Db) (request : Request) (t : Db) (notes : ResolutionNotes) : ResolutionNotes :=
  fun approvalId =>
    if approvalStatus? s approvalId = some .pending ∧ (approvalStatus? t approvalId).any (· ≠ .pending) then
      some request.now
    else notes approvalId

abbrev watchedApprovals (env : Env) : Machine (Db × ResolutionNotes) Request := (machine env).watch noteResolutions

/-- An approval has a resolution time exactly when it is not pending, and it is the one in the notes. -/
def ResolutionsTold (s : Db × ResolutionNotes) : Prop :=
  ∀ a ∈ s.1.approvals, (a.resolvedAt.isSome ↔ a.status ≠ .pending) ∧ (a.status ≠ .pending → a.resolvedAt = s.2 a.id)

instance (s : Db × ResolutionNotes) : Decidable (ResolutionsTold s) :=
  inferInstanceAs (Decidable (∀ a ∈ s.1.approvals.rows, _))

def straysResolution (db : Db) (request : Request) : Bool :=
  request.op.approvalStatus?.any (· ≠ .pending) ||
    request.op.resolution?.any fun (approvalId, _) => (approvalStatus? db approvalId).any (· ≠ .pending)

theorem approvalStatus?_of_mem {db : Db} {a : Approval} (ha : a ∈ db.approvals) :
    approvalStatus? db a.id = some a.status :=
  congrArg (Option.map fun a : Approval => a.status) (Table.get?_key ha)

theorem noteResolutions_of_mem {s t : Db} (request : Request) (notes : ResolutionNotes) {a b : Approval}
    (ha : a ∈ s.approvals) (hb : b ∈ t.approvals) (hid : b.id = a.id) :
    noteResolutions s request t notes b.id
      = if a.status = .pending ∧ b.status ≠ .pending then some request.now else notes b.id := by
  have hbefore : approvalStatus? s b.id = some a.status := hid ▸ approvalStatus?_of_mem ha
  simp [noteResolutions, hbefore, approvalStatus?_of_mem hb]

/-- **One request** that does not stray keeps the times those of the notes. -/
theorem ApprovalChange.keepsTold {db t : Db} {request : Request} {notes : ResolutionNotes}
    (h : ApprovalChange db request t) (hstray : straysResolution db request = false)
    (htold : ResolutionsTold (db, notes)) : ResolutionsTold (t, noteResolutions db request t notes) := by
  simp only [straysResolution, Bool.or_eq_false_iff] at hstray
  obtain ⟨hcreate, hresolve⟩ := hstray
  intro b hb
  rcases h.origin hb with ⟨-, hop, hnone⟩ | ⟨a, ha, hid, ⟨hstatus, htime⟩ | ⟨status, hop, rfl⟩⟩
  · have hpending : b.status = .pending := by simpa [hop] using hcreate
    simp [hnone, hpending]
  · have hnote := noteResolutions_of_mem request notes ha hb hid
    rw [if_neg (fun hn => hn.2 (hstatus.trans hn.1))] at hnote
    show (b.resolvedAt.isSome ↔ b.status ≠ .pending) ∧
      (b.status ≠ .pending → b.resolvedAt = noteResolutions db request t notes b.id)
    rw [hnote, hstatus, htime, hid]
    exact htold a ha
  · have hpending : a.status = .pending := by simpa [hop, approvalStatus?_of_mem ha] using hresolve
    have hunset : a.resolvedAt = none := by simpa [hpending] using (htold a ha).1
    have hnote := noteResolutions_of_mem request notes ha hb hid
    show ((a.resolve request.now status).resolvedAt.isSome ↔ status ≠ .pending) ∧
      (status ≠ .pending → (a.resolve request.now status).resolvedAt = noteResolutions db request t notes _)
    rw [hnote]
    by_cases htarget : status = .pending
    · simp [Approval.resolve, htarget, hunset]
    · simp [Approval.resolve, htarget, hpending]

/-- **The times are told** in every run of the system in which no request strays. -/
theorem resolutionsTold {env : Env} {s : Db × ResolutionNotes} {requests : List Request} (hs : ResolutionsTold s)
    (h : (watchedApprovals env).Along (fun s request => straysResolution s.1 request = false) s requests) :
    ∀ t ∈ (watchedApprovals env).committed s requests, ResolutionsTold t := by
  refine Machine.committed_inv ResolutionsTold (fun s request hs hstray t ht => ?_) hs h
  obtain ⟨hcommit, hnotes⟩ := Machine.mem_watch.mp ht
  have hkept := (approvalChange_of_mem hcommit).keepsTold hstray hs
  rwa [← hnotes] at hkept

namespace Sample

def approvedOnce : List Request :=
  [⟨1, .createApproval 1 7 (.user 1)
      { actionType := "merge", taskIds := [1], payload := .obj [("reason", .str "Done.")] }⟩,
    ⟨2, .updateApproval 1 7 1 (some .approved)⟩]

def unnoted : Db × ResolutionNotes := ({ db with tasks := ⟨[task], Table.nodup_one task⟩ }, fun _ => none)

end Sample

theorem resolutionsTold_approvedOnce :
    ((watchedApprovals Sample.env).committed Sample.unnoted Sample.approvedOnce).Forall ResolutionsTold :=
  List.forall_iff_forall_mem.mpr (resolutionsTold (by intro a ha; cases ha) (by decide))

/-- An approval that is reopened keeps its resolution time. -/
theorem not_resolutionsTold :
    ¬ ∀ (env : Env) (s : Db × ResolutionNotes) (requests : List Request), ResolutionsTold s →
      ∀ t ∈ (watchedApprovals env).committed s requests, ResolutionsTold t := by
  intro h
  exact absurd (h Sample.env Sample.unnoted (Sample.approvedOnce ++ [⟨3, .updateApproval 1 7 1 (some .pending)⟩])
    (by intro a ha; cases ha)) (by decide)

end SiloForge
