import SiloForge.Queue.WebhookFlush
import SiloForge.Queue.WorkKept
import Mathlib.Algebra.Order.Group.Multiset

/-!
# What the webhook flusher does to other work

The queue is shared by all kinds of tasks, and an entry is popped before its kind is known. What is no delivery is
refused only then.

* `Broker.otherWork` : the queued entries of other kinds of tasks;
* `otherWork_popped`, `otherWork_flush_le` : what a turn does to them;
* `otherWorkKept_iff` : the flusher leaves them alone exactly when it cannot pop one.
-/

namespace SiloForge

open Lib

/-! ## Other work -/

def Entry.taskType? : Entry → Option String
  | .json (.obj fields) => (Json.lookup fields "task_type").bind Json.str?
  | _ => none

/-- The entry is of a task that is no webhook delivery. Those marked as legacy are deliveries. -/
def Entry.OtherWork (e : Entry) : Prop :=
  ∃ taskType ∈ e.taskType?, taskType ≠ TaskType.webhookDelivery ∧ taskType ≠ TaskType.legacy

instance (e : Entry) : Decidable e.OtherWork :=
  inferInstanceAs (Decidable (∃ taskType ∈ e.taskType?, _ ∧ _))

namespace Broker

def envelopes (b : Broker) : Multiset Entry := ↑b.ready + ↑b.scheduled.members

def otherWork (b : Broker) : Multiset Entry := b.envelopes.filter Entry.OtherWork

variable {b : Broker} {e : Entry}

theorem mem_envelopes : e ∈ b.envelopes ↔ b.Holds e := by
  rw [envelopes, Multiset.mem_add, Multiset.mem_coe, Multiset.mem_coe]
  rfl

theorem envelopes_lpush (b : Broker) (values : List Entry) : (b.lpush values).envelopes = ↑values + b.envelopes := by
  show (↑(values.reverse ++ b.ready) : Multiset Entry) + ↑b.scheduled.members = _
  rw [envelopes, ← Multiset.coe_add, Multiset.coe_reverse, add_assoc]

theorem envelopes_of_rpop {b' : Broker} (h : b.rpop = some (e, b')) : b.envelopes = e ::ₘ b'.envelopes := by
  obtain ⟨last, hlast, heq⟩ := Option.map_eq_some_iff.mp h
  obtain ⟨rfl, rfl⟩ := Prod.mk.inj heq
  have hready : b.ready = b.ready.dropLast ++ [last] := (List.dropLast_append_getLast? last hlast).symm
  have hperm : (↑b.ready : Multiset Entry) = last ::ₘ ↑b.ready.dropLast := by
    conv_lhs => rw [hready]
    exact Multiset.coe_eq_coe.mpr (List.perm_append_singleton last b.ready.dropLast)
  show ↑b.ready + ↑b.scheduled.members = last ::ₘ (↑b.ready.dropLast + ↑b.scheduled.members)
  rw [hperm, Multiset.cons_add]

theorem envelopes_move {values : List Entry} (hnodup : values.Nodup) (h : values ⊆ b.scheduled.members) :
    ((b.lpush values).zrem values).envelopes = b.envelopes := by
  have hsplit := Multiset.coe_eq_coe.mpr (SortedSet.perm_members_remove hnodup h)
  show (↑(values.reverse ++ b.ready) : Multiset Entry) + ↑(b.scheduled.remove values).members = _
  rw [envelopes, hsplit, ← Multiset.coe_add, ← Multiset.coe_add, Multiset.coe_reverse, add_assoc,
    add_left_comm]

theorem nodup_members_readyItems (env : QueueEnv) (now : Seconds) (scheduled : SortedSet Entry Seconds) :
    ((readyItems env now scheduled).map Prod.fst).Nodup := SortedSet.nodup_members_range scheduled _ _

theorem otherWork_lpush (b : Broker) (h : ¬ e.OtherWork) : (b.lpush [e]).otherWork = b.otherWork := by
  rw [otherWork, envelopes_lpush, Multiset.filter_add, Multiset.coe_singleton, Multiset.filter_singleton, if_neg h]
  exact zero_add _

theorem otherWork_zadd (b : Broker) (x : Seconds) (h : ¬ e.OtherWork) : (b.zadd e x).otherWork = b.otherWork := by
  have hmembers : (b.zadd e x).scheduled.members.filter Entry.OtherWork =
      b.scheduled.members.filter Entry.OtherWork := by
    show (b.scheduled.add e x).members.filter _ = _
    rw [SortedSet.members_add, SortedSet.members_remove, List.filter_cons_of_neg (by simpa using h),
      List.filter_filter]
    refine List.filter_congr fun a _ => ?_
    by_cases ha : a = e
    · simp [ha, h]
    · simp [ha]
  unfold otherWork envelopes
  rw [Multiset.filter_add, Multiset.filter_add, Multiset.filter_coe, Multiset.filter_coe, Multiset.filter_coe, hmembers]
  rfl

theorem otherWork_drain (env : QueueEnv) (now : Seconds) (b : Broker) :
    (drainReadyScheduledTasks env now b).2.otherWork = b.otherWork := by
  show (if _ then b else _).otherWork = _
  split
  · rfl
  · rw [otherWork, envelopes_move (nodup_members_readyItems env now b.scheduled), otherWork]
    intro e he
    obtain ⟨v, hv, rfl⟩ := List.mem_map.mp he
    exact List.mem_map_of_mem (mem_readyItems hv).1

theorem otherWork_of_rpop {b' : Broker} (h : b.rpop = some (e, b')) :
    b.otherWork = (if e.OtherWork then {e} else 0) + b'.otherWork := by
  rw [otherWork, envelopes_of_rpop h, Multiset.filter_cons, otherWork]

end Broker

/-! ## What is queued again -/

variable {task : QueuedTask} {e : Entry} {env : QueueEnv} {now : Seconds} {b b' : Broker} {block : Bool}

theorem taskType?_toJson {texts : QueueTexts} (h : task.toJson texts = .ok e) : e.taskType? = some task.taskType := by
  simp only [QueuedTask.toJson, finalizeQueuedTaskEnvelope, parseQueuedTaskEnvelope, bind_eq_ok, mapError_eq_ok,
    pure_eq_ok] at h
  obtain ⟨_, ⟨parsed, ⟨_, -, taskType, htype, _, -, _, -, _, -, rfl⟩, rfl⟩, rfl⟩ := h
  obtain rfl := Except.ok.inj htype
  show (Json.lookup (Json.sortFields _) "task_type").bind Json.str? = _
  rw [Json.lookup_sortFields]
  rfl

theorem not_otherWork_of_toJson {texts : QueueTexts} (htype : task.taskType = TaskType.webhookDelivery)
    (h : task.toJson texts = .ok e) : ¬ e.OtherWork := by
  rintro ⟨taskType, hmem, hne, -⟩
  rw [taskType?_toJson h, htype] at hmem
  exact hne (Option.some.inj hmem).symm

def Broker.ReadyForFlush (b : Broker) : Prop := ∀ e ∈ b.ready, ¬ e.OtherWork

/-- What a flush may do to the queue beside popping. -/
structure LeavesOtherWork (b b' : Broker) : Prop where
  otherWork : b'.otherWork = b.otherWork
  ready : b.ReadyForFlush → b'.ReadyForFlush

namespace LeavesOtherWork

theorem refl (b : Broker) : LeavesOtherWork b b := ⟨rfl, id⟩

theorem trans {b b' b'' : Broker} (h : LeavesOtherWork b b') (h' : LeavesOtherWork b' b'') : LeavesOtherWork b b'' :=
  ⟨h'.otherWork.trans h.otherWork, fun hready => h'.ready (h.ready hready)⟩

end LeavesOtherWork

theorem enqueueTask_leaves (env : QueueEnv) (up : Bool) (b : Broker) (htype : task.taskType = TaskType.webhookDelivery) :
    LeavesOtherWork b (enqueueTask env up b task).2 := by
  unfold enqueueTask
  split
  · rename_i e he
    have hother := not_otherWork_of_toJson htype he
    split
    · refine ⟨b.otherWork_lpush hother, fun hready a ha => ?_⟩
      rcases List.mem_cons.mp ha with rfl | ha
      · exact hother
      · exact hready a ha
    · exact .refl b
  · exact .refl b

theorem requeueIfFailed_leaves {up : Bool} {delay : Seconds} {answer : Bool}
    (htype : task.taskType = TaskType.webhookDelivery) (h : requeueIfFailed env up now b task delay = .ok (answer, b')) :
    LeavesOtherWork b b' := by
  have hsame : (requeueWithAttempt task).taskType = TaskType.webhookDelivery := htype
  unfold requeueIfFailed at h
  split at h
  · obtain ⟨-, rfl⟩ := Prod.mk.inj (Except.ok.inj h)
    exact .refl b
  · split at h
    · obtain ⟨b'', hstored, heq⟩ := map_eq_ok.mp h
      obtain ⟨-, rfl⟩ := Prod.mk.inj heq
      obtain ⟨e, he, -, rfl⟩ := scheduleForLater_eq_ok hstored
      exact ⟨b.otherWork_zadd _ (not_otherWork_of_toJson hsame he), id⟩
    · have hleaves := enqueueTask_leaves env up b hsame
      rwa [Except.ok.inj h] at hleaves

theorem webhookRequeueIfFailed_leaves {up : Bool} {delay : Seconds} {item : QueuedInboundDelivery} {answer : Bool}
    (h : webhookRequeueIfFailed env up now b item delay = .ok (answer, b')) : LeavesOtherWork b b' := by
  obtain ⟨queued, hqueued, hrequeue⟩ := bind_eq_ok.mp h
  rw [taskFromDelivery_eq_ok env.texts (wholeMinutes_of_taskFromDelivery hqueued)] at hqueued
  obtain rfl := Except.ok.inj hqueued
  exact requeueIfFailed_leaves rfl hrequeue

/-- **Delivering**, with all that may fail, leaves other work alone. -/
theorem flushDelivery_leaves (env : QueueEnv) (c : DeliveryCircumstances) (item : QueuedInboundDelivery) (b : Broker) :
    LeavesOtherWork b (flushDelivery env c item b).2 := by
  unfold flushDelivery failDelivery
  split
  · exact .refl b
  · split
    · split
      · exact .refl b
      · unfold requeueDelivery
        split
        · exact .refl b
        · rename_i hrequeue
          have hfirst := webhookRequeueIfFailed_leaves hrequeue
          split
          · exact hfirst
          · exact hfirst
          · split
            · exact hfirst
            · rename_i hretry
              exact hfirst.trans (webhookRequeueIfFailed_leaves hretry)
    · exact .refl b

/-! ## Popping -/

def popped (env : QueueEnv) (now : Seconds) (block : Bool) (b : Broker) : Broker :=
  if block then (drainReadyScheduledTasks env now b).2 else b

theorem otherWork_popped (env : QueueEnv) (now : Seconds) (block : Bool) (b : Broker) :
    (popped env now block b).otherWork = b.otherWork := by
  unfold popped
  split
  · exact Broker.otherWork_drain env now b
  · rfl

theorem dequeue_of_down (env : QueueEnv) (clock : Clock) (block : Bool) (b : Broker) :
    dequeueWebhookDelivery env false clock block b = (.error .redis, b) := rfl

theorem dequeue_of_none {clock : Clock} (h : (popped env clock.now block b).rpop = none) :
    dequeueWebhookDelivery env true clock block b =
      (.ok none, (drainReadyScheduledTasks env clock.later (popped env clock.now block b)).2) := by
  unfold popped at h
  simp only [dequeueWebhookDelivery, dequeueTask, if_true, h]
  rfl

theorem dequeue_of_rpop (clock : Clock) (h : (popped env clock.now block b).rpop = some (e, b')) :
    ∃ answer, dequeueWebhookDelivery env true clock block b = (answer, b') ∧ answer ≠ .ok none := by
  unfold popped at h
  simp only [dequeueWebhookDelivery, dequeueTask, if_true, h]
  cases decodeTask env.texts clock.wall e with
  | error err => exact ⟨_, rfl, nofun⟩
  | ok task =>
    refine ⟨_, rfl, fun hnone => ?_⟩
    obtain ⟨item, -, hitem⟩ := map_eq_ok.mp hnone
    cases hitem

/-- **A flush never adds** to other work. -/
theorem otherWork_flush_le (env : QueueEnv) (block : Bool) (cs : List DeliveryCircumstances) (processed : Nat)
    (b : Broker) : (flushWebhookDeliveryQueue env block processed cs b).broker.otherWork ≤ b.otherWork := by
  induction cs generalizing processed b with
  | nil => exact le_rfl
  | cons c cs ih =>
    rw [flushWebhookDeliveryQueue]
    cases hup : c.up with
    | false =>
      rw [dequeue_of_down]
      exact ih processed b
    | true =>
      have hbefore := otherWork_popped env c.clock.now block b
      cases hpop : (popped env c.clock.now block b).rpop with
      | none =>
        rw [dequeue_of_none hpop]
        exact (Broker.otherWork_drain ..).trans hbefore |>.le
      | some v =>
        obtain ⟨e, b'⟩ := v
        have hle : b'.otherWork ≤ b.otherWork := by
          rw [← hbefore, Broker.otherWork_of_rpop hpop]
          exact Multiset.le_add_left _ _
        obtain ⟨answer, hanswer, hne⟩ := dequeue_of_rpop _ hpop
        rw [hanswer]
        cases answer with
        | error err => exact (ih processed b').trans hle
        | ok item? =>
          cases item? with
          | none => exact absurd rfl hne
          | some item =>
            have hsame := (flushDelivery_leaves env c item b').otherWork
            show (if _ then _ else _ : DeliveryFlush).broker.otherWork ≤ _
            split
            · exact hsame.le.trans hle
            · exact (ih _ _).trans (hsame.le.trans hle)

/-! ## A queue that is safe to flush -/

theorem Broker.rpop_of_ready {rest : List Entry} {last : Entry} (h : b.ready = rest ++ [last]) :
    b.rpop = some (last, { b with ready := rest }) := by
  unfold Broker.rpop
  rw [h, List.getLast?_concat, List.dropLast_concat]
  rfl

theorem Broker.mem_ready_of_rpop (h : b.rpop = some (e, b')) :
    ∃ rest, b.ready = rest ++ [e] ∧ b' = { b with ready := rest } := by
  obtain ⟨last, hlast, heq⟩ := Option.map_eq_some_iff.mp h
  obtain ⟨rfl, rfl⟩ := Prod.mk.inj heq
  exact ⟨_, (List.dropLast_append_getLast? last hlast).symm, rfl⟩

theorem otherWork_flush_of_ready {cs : List DeliveryCircumstances} {processed : Nat} (h : b.ReadyForFlush) :
    (flushWebhookDeliveryQueue env false processed cs b).broker.otherWork = b.otherWork := by
  induction cs generalizing processed b with
  | nil => rfl
  | cons c cs ih =>
    rw [flushWebhookDeliveryQueue]
    cases hup : c.up with
    | false =>
      rw [dequeue_of_down]
      exact ih h
    | true =>
      cases hpop : (popped env c.clock.now false b).rpop with
      | none =>
        rw [dequeue_of_none hpop]
        exact Broker.otherWork_drain env c.clock.later b
      | some v =>
        obtain ⟨e, b'⟩ := v
        obtain ⟨rest, hready, hb'⟩ := Broker.mem_ready_of_rpop hpop
        have hrest : b.ready = rest ++ [e] := hready
        have hsame : b'.otherWork = b.otherWork := by
          have hother : ¬ e.OtherWork := h e (hrest ▸ List.mem_append_right _ List.mem_cons_self)
          have hcount := Broker.otherWork_of_rpop hpop
          rw [otherWork_popped, if_neg hother, zero_add] at hcount
          exact hcount.symm
        have hready' : b'.ReadyForFlush := by
          subst hb'
          exact fun a ha => h a (hrest ▸ List.mem_append_left _ ha)
        obtain ⟨answer, hanswer, hne⟩ := dequeue_of_rpop _ hpop
        rw [hanswer]
        cases answer with
        | error err => exact (ih hready').trans hsame
        | ok item? =>
          cases item? with
          | none => exact absurd rfl hne
          | some item =>
            have hleaves := flushDelivery_leaves env c item b'
            show (if _ then _ else _ : DeliveryFlush).broker.otherWork = _
            split
            · exact hleaves.otherWork.trans hsame
            · exact (ih (hleaves.ready hready')).trans (hleaves.otherWork.trans hsame)

/-! ## A queue that is not -/

def calm (now : Seconds) : DeliveryCircumstances := { clock := { now, later := now, wall := 0 } }

theorem flush_calm (h : (popped env now block b).rpop = some (e, b')) (processed : Nat) :
    ∃ processed', ∀ cs, flushWebhookDeliveryQueue env block processed (calm now :: cs) b =
      flushWebhookDeliveryQueue env block processed' cs b' := by
  obtain ⟨answer, hanswer, hne⟩ := dequeue_of_rpop (calm now).clock h
  have hturn : dequeueWebhookDelivery env (calm now).up (calm now).clock block b = (answer, b') := hanswer
  cases answer with
  | error err =>
    refine ⟨processed, fun cs => ?_⟩
    rw [flushWebhookDeliveryQueue, hturn]
  | ok item? =>
    cases item? with
    | none => exact absurd rfl hne
    | some item =>
      refine ⟨processed + 1, fun cs => ?_⟩
      rw [flushWebhookDeliveryQueue, hturn]
      rfl

/-- Some flush of the queue loses other work, whatever was processed before. -/
def Loses (env : QueueEnv) (block : Bool) (b : Broker) : Prop :=
  ∀ processed, ∃ cs, (flushWebhookDeliveryQueue env block processed cs b).broker.otherWork < b.otherWork

theorem otherWork_of_rpop_popped (h : (popped env now block b).rpop = some (e, b')) :
    b.otherWork = (if e.OtherWork then {e} else 0) + b'.otherWork := by
  rw [← otherWork_popped env now block b]
  exact Broker.otherWork_of_rpop h

theorem loses_of_rpop_other (h : (popped env now block b).rpop = some (e, b')) (hother : e.OtherWork) :
    Loses env block b := by
  intro processed
  obtain ⟨processed', hturn⟩ := flush_calm h processed
  refine ⟨[calm now], ?_⟩
  rw [hturn, otherWork_of_rpop_popped h, if_pos hother]
  exact Multiset.lt_cons_self _ e

theorem loses_of_rpop (h : (popped env now block b).rpop = some (e, b')) (hlater : Loses env block b') :
    Loses env block b := by
  intro processed
  obtain ⟨processed', hturn⟩ := flush_calm h processed
  obtain ⟨cs, hcs⟩ := hlater processed'
  refine ⟨calm now :: cs, ?_⟩
  rw [hturn, otherWork_of_rpop_popped h]
  exact hcs.trans_le (Multiset.le_add_left _ _)

theorem exists_ready_popped (env : QueueEnv) (now : Seconds) (block : Bool) (b : Broker) :
    ∃ due, (popped env now block b).ready = due ++ b.ready := by
  unfold popped
  split
  · show ∃ due, (if (readyItems env now b.scheduled).map Prod.fst = [] then b else _).ready = due ++ b.ready
    split
    · exact ⟨[], rfl⟩
    · exact ⟨_, rfl⟩
  · exact ⟨[], rfl⟩

theorem exists_rpop_popped (env : QueueEnv) (now : Seconds) (block : Bool) {rest : List Entry} {last : Entry}
    (h : b.ready = rest ++ [last]) :
    ∃ due b', (popped env now block b).rpop = some (last, b') ∧ b'.ready = due ++ rest := by
  obtain ⟨due, hdue⟩ := exists_ready_popped env now block b
  rw [h, ← List.append_assoc] at hdue
  exact ⟨due, { popped env now block b with ready := due ++ rest }, Broker.rpop_of_ready hdue, rfl⟩

theorem loses_of_ready (hother : e.OtherWork) (he : e ∈ b.ready) : Loses env block b := by
  obtain ⟨left, right, hready⟩ := List.append_of_mem he
  clear he
  induction right using List.reverseRecOn generalizing left b with
  | nil =>
    obtain ⟨due, b', hpop, -⟩ := exists_rpop_popped env 0 block hready
    exact loses_of_rpop_other hpop hother
  | append_singleton right last ih =>
    have hlast : b.ready = (left ++ e :: right) ++ [last] := by
      rw [hready, List.append_assoc, List.cons_append]
    obtain ⟨due, b', hpop, hready'⟩ := exists_rpop_popped env 0 block hlast
    exact loses_of_rpop hpop (ih (due ++ left) (hready'.trans (List.append_assoc due left _).symm))

def dueCount (now : Seconds) (scheduled : SortedSet Entry Seconds) : Nat :=
  (scheduled.entries.filter fun v => decide (v.2 ≤ now)).length

theorem length_readyItems (env : QueueEnv) (now : Seconds) (scheduled : SortedSet Entry Seconds) :
    (readyItems env now scheduled).length = min dryRunBatchSize (dueCount now scheduled) :=
  SortedSet.length_range env.scoreLe scheduled (fun score => decide (score ≤ now)) dryRunBatchSize

theorem dueCount_remove_readyItems (env : QueueEnv) (now : Seconds) (scheduled : SortedSet Entry Seconds) :
    dueCount now (scheduled.remove ((readyItems env now scheduled).map Prod.fst)) =
      dueCount now scheduled - dryRunBatchSize :=
  SortedSet.length_filter_remove_range env.scoreLe scheduled (fun score => decide (score ≤ now)) dryRunBatchSize

/-- Other work that is scheduled gets ready when it is due, a batch at a time. -/
theorem loses_of_scheduled (hother : e.OtherWork) {x : Seconds} {n : Nat} (he : (e, x) ∈ b.scheduled.entries)
    (hn : dueCount x b.scheduled ≤ n) : Loses env true b := by
  have hdue : 0 < dueCount x b.scheduled :=
    List.length_pos_of_mem (List.mem_filter.mpr ⟨he, decide_eq_true le_rfl⟩)
  induction n generalizing b with
  | zero => exact absurd hdue (not_lt.mpr hn)
  | succ n ih =>
    set values := (readyItems env x b.scheduled).map Prod.fst with hvalues
    have hmoved : values ≠ [] := by
      intro hnil
      have hlength := length_readyItems env x b.scheduled
      rw [List.map_eq_nil_iff.mp hnil, List.length_nil, dryRunBatchSize] at hlength
      omega
    have hpopped : popped env x true b = (b.lpush values).zrem values := if_neg hmoved
    -- what was moved is not empty, so that an entry is popped
    obtain ⟨rest, last, hready⟩ := List.eq_nil_or_concat' (values.reverse ++ b.ready) |>.resolve_left
      (fun hnil => hmoved (List.reverse_eq_nil_iff.mp (List.append_eq_nil_iff.mp hnil).1))
    have hpop : (popped env x true b).rpop = some (last, ⟨rest, b.scheduled.remove values⟩) := by
      rw [hpopped]
      exact Broker.rpop_of_ready hready
    by_cases hin : e ∈ values
    · have hmem : e ∈ rest ++ [last] := hready ▸ List.mem_append_left _ (List.mem_reverse.mpr hin)
      rcases List.mem_append.mp hmem with hrest | hlast
      · exact loses_of_rpop hpop (loses_of_ready hother hrest)
      · obtain rfl := List.mem_singleton.mp hlast
        exact loses_of_rpop_other hpop hother
    · have hleft : (e, x) ∈ (b.scheduled.remove values).entries := SortedSet.mem_remove.mpr ⟨he, hin⟩
      have hcount := dueCount_remove_readyItems env x b.scheduled
      rw [← hvalues, dryRunBatchSize] at hcount
      refine loses_of_rpop hpop (ih (b := ⟨rest, b.scheduled.remove values⟩) hleft ?_ ?_)
      · show dueCount x (b.scheduled.remove values) ≤ n
        omega
      · exact List.length_pos_of_mem (List.mem_filter.mpr ⟨hleft, decide_eq_true le_rfl⟩)

/-! ## The queues whose other work is left alone -/

/-- Whatever fails, a flush leaves other work in the queue. -/
def OtherWorkKept (env : QueueEnv) (block : Bool) (b : Broker) : Prop :=
  ∀ cs, (flushWebhookDeliveryQueue env block 0 cs b).broker.otherWork = b.otherWork

/-- **Other work is left alone** exactly when none is ready and, where the queue is waited on, none is scheduled. -/
theorem otherWorkKept_iff (env : QueueEnv) (block : Bool) (b : Broker) :
    OtherWorkKept env block b ↔
      (∀ e ∈ b.ready, ¬ e.OtherWork) ∧ (block = true → ∀ e ∈ b.scheduled.members, ¬ e.OtherWork) := by
  constructor
  · intro hkept
    have hnot : ¬ Loses env block b := by
      intro hloses
      obtain ⟨cs, hcs⟩ := hloses 0
      exact absurd (hkept cs) hcs.ne
    refine ⟨fun e he hother => hnot (loses_of_ready hother he), ?_⟩
    rintro rfl e he hother
    obtain ⟨x, hx⟩ := SortedSet.mem_members.mp he
    exact hnot (loses_of_scheduled hother hx le_rfl)
  · rintro ⟨hready, hscheduled⟩ cs
    cases block with
    | false => exact otherWork_flush_of_ready hready
    | true =>
      -- there is no other work, and a flush adds none
      have hnone : b.otherWork = 0 := by
        refine Multiset.filter_eq_nil.mpr fun e he => ?_
        rcases Broker.mem_envelopes.mp he with he | he
        · exact hready e he
        · exact hscheduled rfl e he
      rw [hnone]
      exact Multiset.le_zero.mp (hnone ▸ otherWork_flush_le env true cs 0 b)

/-- A dispatch that is ready is gone after a flush. -/
theorem not_otherWorkKept : ¬ ∀ (env : QueueEnv) (block : Bool) (b : Broker), OtherWorkKept env block b := by
  intro h
  have hkept := h Sample.queueEnv false Sample.dispatchQueue [calm 0]
  have hbefore : Sample.dispatchQueue.otherWork.card = 1 := rfl
  have hafter : (flushWebhookDeliveryQueue Sample.queueEnv false 0 [calm 0]
      Sample.dispatchQueue).broker.otherWork.card = 0 := rfl
  rw [hkept, hbefore] at hafter
  cases hafter

end SiloForge
