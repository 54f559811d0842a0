import Mathlib.Data.Rat.Floor
import Mathlib.Data.String.Basic
import SiloForge.Lib.Rounding
import SiloForge.Lib.SortedSet
import SiloForge.Lib.Window

/-!
# Rate limiters

Calls are limited by key, in memory or in Redis. Both remember the latest attempts of a key, as many as are allowed in
a window, blocked ones among them.

* `InMemoryRateLimiter.isAllowed` : a deque of times for each key, with a sweep of all keys now and then;
* `isAllowedScript`, `RedisRateLimiter.isAllowed` : a sorted set of scored members for each key, with an expiry;
* `limitersSlide` : both answer as the window says, whenever the sweeps are.
-/

namespace SiloForge

open Lib Lib.Window

/-- A call: its key, its time, and the member its attempt is stored as in Redis. -/
structure RateCall where
  key : String
  now : Double
  member : String
  deriving DecidableEq

def RateCall.time (call : RateCall) : ℚ := call.now.value

/-- `now - window_seconds`: the nearest float. Below all floats it stands for minus infinity. -/
def windowCutoff (windowSeconds : Double) (now : ℚ) : ℚ := binary64.nearest (now - windowSeconds.value)

theorem windowCutoff_mono (windowSeconds : Double) : Monotone (windowCutoff windowSeconds) :=
  fun _ _ h => BinaryFormat.nearest_mono _ (sub_le_sub_right h _)

/-- A call that is a window and more old is not behind the cutoff. -/
theorem time_le_windowCutoff (call : RateCall) {windowSeconds : Double} {now : ℚ}
    (h : call.time ≤ now - windowSeconds.value) : call.time ≤ windowCutoff windowSeconds now := by
  have hholds : binary64.nearest call.time = call.time := BinaryFormat.nearest_of_holds call.now.holds
  rw [← hholds]
  exact BinaryFormat.nearest_mono _ h

/-! ## In memory -/

structure InMemoryRateLimiter where
  buckets : String → Option (List ℚ) := fun _ => none
  callCount : Nat := 0

namespace InMemoryRateLimiter

/-- Whether the call of a number sweeps, by `_CLEANUP_INTERVAL`. -/
def cleanupDue (callCount : Nat) : Bool := callCount % 128 = 0

/-- Without the buckets whose last time, if any, has expired. -/
def sweepExpired (buckets : String → Option (List ℚ)) (cutoff : ℚ) : String → Option (List ℚ) :=
  fun key => (buckets key).filter fun timestamps => !timestamps.getLast?.all (· ≤ cutoff)

def isAllowed (maxRequests : Nat) (windowSeconds : Double) (due : Nat → Bool) (limiter : InMemoryRateLimiter)
    (call : RateCall) : Bool × InMemoryRateLimiter :=
  let cutoff := windowCutoff windowSeconds call.time
  let callCount := limiter.callCount + 1
  let buckets := if due callCount then sweepExpired limiter.buckets cutoff else limiter.buckets
  let timestamps := ((buckets call.key).getD []).dropWhile (· ≤ cutoff)
  if timestamps.length < maxRequests then
    (true, { buckets := Function.update buckets call.key (some (timestamps ++ [call.time])), callCount })
  else
    (false, { buckets := Function.update buckets call.key (some (timestamps.tail ++ [call.time])), callCount })

end InMemoryRateLimiter

/-! ## In Redis -/

structure RedisKey where
  attempts : SortedSet String ℚ
  expiresAt : ℚ

abbrev RedisStore := String → Option RedisKey

/-- The order of a sorted set: by score, then by member. -/
def scoreLe (e e' : String × ℚ) : Prop := e.2 < e'.2 ∨ e.2 = e'.2 ∧ e.1 ≤ e'.1

instance : DecidableRel scoreLe := fun e e' =>
  inferInstanceAs (Decidable (e.2 < e'.2 ∨ e.2 = e'.2 ∧ e.1 ≤ e'.1))

def RedisStore.attempts (store : RedisStore) (now : ℚ) (key : String) : SortedSet String ℚ :=
  match store key with
  | some entry => if now < entry.expiresAt then entry.attempts else ∅
  | none => ∅

/-- `_REDIS_IS_ALLOWED_SCRIPT`. -/
def isAllowedScript (store : RedisStore) (key : String) (cutoff now : ℚ) (member : String) (maxRequests : Nat) (ttl : ℤ) :
    Bool × RedisStore :=
  let pruned := (store.attempts now key).removeScores (· ≤ cutoff)
  if pruned.entries.length < maxRequests then
    (true, Function.update store key (some { attempts := pruned.add member now, expiresAt := now + ttl }))
  else
    let oldest := (pruned.range scoreLe (fun _ => true) 1).map Prod.fst
    (false, Function.update store key (some { attempts := (pruned.remove oldest).add member now, expiresAt := now + ttl }))

namespace RedisRateLimiter

/-- `int`, of a number of seconds: its digits before the point. -/
def wholeSeconds (seconds : ℚ) : ℤ := seconds.num.tdiv seconds.den

def redisKey (space key : String) : String := "ratelimit:" ++ space ++ ":" ++ key

def isAllowed (space : String) (maxRequests : Nat) (windowSeconds : Double) (store : RedisStore) (call : RateCall) :
    Bool × RedisStore :=
  isAllowedScript store (redisKey space call.key) (windowCutoff windowSeconds call.time) call.time call.member maxRequests
    (wholeSeconds windowSeconds.value + 1)

end RedisRateLimiter

/-! ## The window -/

def callsInWindow (windowSeconds : Double) (before : List RateCall) (call : RateCall) : List RateCall :=
  before.filter fun c => c.key = call.key ∧ windowCutoff windowSeconds call.time < c.time

theorem length_live_times {windowSeconds : Double} {before : List RateCall} {call : RateCall} :
    (live (windowCutoff windowSeconds call.time) (times call.key (before.map fun c => (c.key, c.time)))).length =
      (callsInWindow windowSeconds before call).length := by
  unfold live times callsInWindow
  rw [List.filter_map, List.length_map, List.filter_map, List.filter_map, List.length_map, List.filter_filter]
  congr 2
  funext c
  simp [Bool.and_comm]

def InOrder (calls : List RateCall) : Prop := (calls.map (·.time)).Pairwise (· ≤ ·)

theorem InOrder.of_append {calls : List RateCall} {call : RateCall} (h : InOrder (calls ++ [call])) :
    InOrder calls ∧ ∀ c ∈ calls, c.time ≤ call.time := by
  unfold InOrder at h
  rw [List.map_append, List.pairwise_append] at h
  exact ⟨h.1, fun c hc => h.2.2 _ (List.mem_map_of_mem hc) _ List.mem_cons_self⟩

namespace InMemoryRateLimiter

def kept (limiter : InMemoryRateLimiter) (key : String) : List ℚ := (limiter.buckets key).getD []

structure Fits (calls : List RateCall) (limiter : InMemoryRateLimiter) : Prop where
  sorted : ∀ key, (limiter.kept key).Pairwise (· ≤ ·)
  known : ∀ key, ∀ t ∈ limiter.kept key, ∃ c ∈ calls, c.time = t

variable {maxRequests : Nat} {windowSeconds : Double} {due : Nat → Bool} {limiter : InMemoryRateLimiter}
  {calls : List RateCall}
  {call : RateCall}

theorem forgets_sweepExpired (hsorted : ∀ key, (limiter.kept key).Pairwise (· ≤ ·)) (cutoff : ℚ) (key : String) :
    Forgets cutoff (limiter.kept key) ((sweepExpired limiter.buckets cutoff key).getD []) := by
  have hkey := hsorted key
  unfold kept sweepExpired at *
  cases hbucket : limiter.buckets key with
  | none => exact .inl rfl
  | some timestamps =>
    rw [hbucket] at hkey
    by_cases hlast : timestamps.getLast?.all (· ≤ cutoff) = true
    · refine .inr ⟨by simp [Option.filter, hlast], fun t ht => ?_⟩
      obtain ⟨init, last, rfl⟩ := (List.eq_nil_or_concat' timestamps).resolve_left (List.ne_nil_of_mem ht)
      rw [List.getLast?_concat, Option.all_some, decide_eq_true_iff] at hlast
      obtain hinit | hin := List.mem_append.mp ht
      · exact ((List.pairwise_append.mp hkey).2.2 t hinit last List.mem_cons_self).trans hlast
      · exact (List.mem_singleton.mp hin).trans_le hlast
    · exact .inl (by simp [Option.filter, hlast])

def lookedAt (windowSeconds : Double) (due : Nat → Bool) (limiter : InMemoryRateLimiter) (call : RateCall) :
    String → Option (List ℚ) :=
  if due (limiter.callCount + 1) then sweepExpired limiter.buckets (windowCutoff windowSeconds call.time) else limiter.buckets

theorem forgets_lookedAt (hsorted : ∀ key, (limiter.kept key).Pairwise (· ≤ ·)) (key : String) :
    Forgets (windowCutoff windowSeconds call.time) (limiter.kept key)
      ((lookedAt windowSeconds due limiter call key).getD []) := by
  unfold lookedAt
  split
  · exact forgets_sweepExpired hsorted _ key
  · exact .inl rfl

theorem exists_attempt (hmax : 0 < maxRequests) {base : List ℚ} (hbase : base.Pairwise (· ≤ ·))
    (h : (lookedAt windowSeconds due limiter call call.key).getD [] = base) :
    ∃ bucket, Attempt maxRequests (windowCutoff windowSeconds call.time) call.time base
        (isAllowed maxRequests windowSeconds due limiter call).1 bucket ∧
      (∃ rest, rest.Sublist base ∧ bucket = rest ++ [call.time]) ∧
      ∀ key, (isAllowed maxRequests windowSeconds due limiter call).2.kept key =
        if key = call.key then bucket else (lookedAt windowSeconds due limiter call key).getD [] := by
  have hlive : base.dropWhile (· ≤ windowCutoff windowSeconds call.time) =
      live (windowCutoff windowSeconds call.time) base := dropWhile_eq_live hbase
  have hsublist : (live (windowCutoff windowSeconds call.time) base).Sublist base := List.filter_sublist
  unfold isAllowed kept
  simp only [show (if due (limiter.callCount + 1) then sweepExpired limiter.buckets (windowCutoff windowSeconds call.time)
    else limiter.buckets) = lookedAt windowSeconds due limiter call from rfl, h, hlive]
  by_cases hfree : (live (windowCutoff windowSeconds call.time) base).length < maxRequests
  · rw [if_pos hfree]
    refine ⟨_, .admitted hfree (List.perm_append_singleton _ _), ⟨_, hsublist, rfl⟩, fun key => ?_⟩
    by_cases hkey : key = call.key <;> simp [hkey]
  · rw [if_neg hfree]
    obtain ⟨oldest, rest, hcons⟩ := List.exists_cons_of_length_pos (hmax.trans_le (not_lt.mp hfree))
    have hsorted := hbase.sublist hsublist
    rw [hcons, List.pairwise_cons] at hsorted
    refine ⟨rest ++ [call.time], .replaced (not_lt.mp hfree) (hcons ▸ List.Perm.refl _) hsorted.1
      (List.perm_append_singleton _ _), ⟨rest, ?_, rfl⟩, fun key => ?_⟩
    · exact ((List.sublist_cons_self oldest rest).trans (hcons ▸ List.Sublist.refl _)).trans hsublist
    · by_cases hkey : key = call.key <;> simp [hkey, hcons]

theorem remembers_isAllowed (hmax : 0 < maxRequests) (hfits : Fits calls limiter) (hnow : ∀ c ∈ calls, c.time ≤ call.time) :
    Fits (calls ++ [call]) (isAllowed maxRequests windowSeconds due limiter call).2 ∧
      Remembers maxRequests (windowCutoff windowSeconds call.time) call.time call.key limiter.kept
        (isAllowed maxRequests windowSeconds due limiter call).2.kept
        (isAllowed maxRequests windowSeconds due limiter call).1 := by
  have hforgets : ∀ key, Forgets (windowCutoff windowSeconds call.time) (limiter.kept key)
      ((lookedAt windowSeconds due limiter call key).getD []) := forgets_lookedAt hfits.sorted
  have hlooked : ∀ key, ((lookedAt windowSeconds due limiter call key).getD []).Sublist (limiter.kept key) := by
    intro key
    obtain h | ⟨h, -⟩ := hforgets key
    · rw [h]
    · rw [h]
      exact List.nil_sublist _
  obtain ⟨bucket, hattempt, ⟨rest, hrest, rfl⟩, hkept⟩ :=
    exists_attempt hmax ((hfits.sorted call.key).sublist (hlooked _)) rfl
  have hknown : ∀ t ∈ rest, ∃ c ∈ calls, c.time = t := fun t ht =>
    hfits.known call.key t ((hrest.trans (hlooked call.key)).subset ht)
  refine ⟨⟨fun key => ?_, fun key => ?_⟩, ⟨⟨_, hforgets call.key, ?_⟩, fun other hother => ?_⟩⟩
  · rw [hkept key]
    split
    · refine List.pairwise_append.mpr
        ⟨(hfits.sorted call.key).sublist (hrest.trans (hlooked _)), List.pairwise_singleton _ _, ?_⟩
      rintro t ht _ hlast
      obtain ⟨c, hc, rfl⟩ := hknown t ht
      exact List.mem_singleton.mp hlast ▸ hnow c hc
    · exact (hfits.sorted key).sublist (hlooked key)
  · rw [hkept key]
    split
    · rintro t ht
      obtain ht | ht := List.mem_append.mp ht
      · obtain ⟨c, hc, rfl⟩ := hknown t ht
        exact ⟨c, List.mem_append_left _ hc, rfl⟩
      · exact ⟨call, List.mem_append_right _ List.mem_cons_self, (List.mem_singleton.mp ht).symm⟩
    · rintro t ht
      obtain ⟨c, hc, rfl⟩ := hfits.known key t ((hlooked key).subset ht)
      exact ⟨c, List.mem_append_left _ hc, rfl⟩
  · rw [hkept call.key, if_pos rfl]
    exact hattempt
  · rw [hkept other, if_neg hother]
    exact hforgets other

def after (maxRequests : Nat) (windowSeconds : Double) (due : Nat → Bool) (calls : List RateCall) : InMemoryRateLimiter :=
  Window.after (isAllowed maxRequests windowSeconds due) {} calls

theorem isAllowed_after (hmax : 0 < maxRequests) (horder : InOrder (calls ++ [call])) :
    (isAllowed maxRequests windowSeconds due (after maxRequests windowSeconds due calls) call).1 =
      decide ((callsInWindow windowSeconds calls call).length < maxRequests) := by
  obtain ⟨hbefore, hnow⟩ := horder.of_append
  obtain ⟨hfits, cutoff, hkeeps, hcutoff⟩ := keepsAll_after (isAllowed maxRequests windowSeconds due) {} kept (·.key) (·.time)
    (windowCutoff windowSeconds) maxRequests (windowCutoff_mono windowSeconds) (fun _ => rfl) InOrder Fits
    ⟨fun _ => List.Pairwise.nil, fun _ _ h => (List.not_mem_nil h).elim⟩ (fun _ _ h => h.of_append.1)
    (fun _ _ _ horder hfits => remembers_isAllowed hmax hfits horder.of_append.2) calls hbefore hbefore
  rw [← length_live_times]
  refine (hkeeps.call (hcutoff _ hnow) ?_ (remembers_isAllowed hmax hfits hnow).2).1
  rintro _ hmem
  obtain ⟨c, hc, rfl⟩ := List.mem_map.mp hmem
  exact hnow c hc

end InMemoryRateLimiter

namespace RedisRateLimiter

theorem lt_wholeSeconds_add_one {seconds : ℚ} (h : 0 < seconds) : seconds < wholeSeconds seconds + 1 := by
  have hfloor : wholeSeconds seconds = ⌊seconds⌋ := by
    rw [wholeSeconds, Int.tdiv_eq_ediv_of_nonneg (Rat.num_nonneg.mpr h.le), ← Rat.floor_def']
  rw [hfloor]
  exact Int.lt_floor_add_one seconds

theorem redisKey_inj {space key other : String} (h : redisKey space key = redisKey space other) : key = other := by
  have hlist := congrArg String.toList h
  unfold redisKey at hlist
  simp only [String.toList_append] at hlist
  exact String.toList_inj.mp (List.append_cancel_left hlist)

def kept (space : String) (store : RedisStore) (key : String) : List ℚ :=
  ((store (redisKey space key)).map fun entry => entry.attempts.entries.map Prod.snd).getD []

/-- A key expires when its attempts are past, and its members are those of calls. -/
structure Fits (space : String) (windowSeconds : Double) (calls : List RateCall) (store : RedisStore) : Prop where
  past : ∀ key entry, store (redisKey space key) = some entry → ∀ e ∈ entry.attempts.entries,
    e.2 + windowSeconds.value < entry.expiresAt
  known : ∀ key entry, store (redisKey space key) = some entry → ∀ e ∈ entry.attempts.entries,
    ∃ c ∈ calls, c.member = e.1 ∧ c.time = e.2

variable {space : String} {maxRequests : Nat} {windowSeconds : Double} {store : RedisStore}
  {calls : List RateCall} {call : RateCall}

theorem forgets_attempts (hfits : Fits space windowSeconds calls store) (now : ℚ) (key : String) :
    Forgets (windowCutoff windowSeconds now) (kept space store key)
      ((store.attempts now (redisKey space key)).entries.map Prod.snd) := by
  unfold kept RedisStore.attempts
  cases hentry : store (redisKey space key) with
  | none => exact .inl rfl
  | some entry =>
    by_cases hlive : now < entry.expiresAt
    · exact .inl (by simp [hlive])
    · refine .inr ⟨by simp [hlive], fun t ht => ?_⟩
      obtain ⟨e, he, rfl⟩ := List.mem_map.mp ht
      have hpast := hfits.past key entry hentry e he
      obtain ⟨c, -, -, hscore⟩ := hfits.known key entry hentry e he
      rw [← hscore] at hpast ⊢
      exact time_le_windowCutoff c (by linarith)

theorem mem_attempts {now : ℚ} {key : String} {e : String × ℚ} (h : e ∈ (store.attempts now key).entries) :
    ∃ entry, store key = some entry ∧ e ∈ entry.attempts.entries := by
  unfold RedisStore.attempts at h
  cases hentry : store key with
  | none =>
    rw [hentry] at h
    exact (List.not_mem_nil h).elim
  | some entry =>
    rw [hentry] at h
    by_cases hlive : now < entry.expiresAt
    · simp only [hlive, if_true] at h
      exact ⟨entry, rfl, h⟩
    · simp only [hlive, if_false] at h
      exact (List.not_mem_nil h).elim

instance : Std.Total scoreLe where
  total e e' := by
    unfold scoreLe
    obtain h | h | h := lt_trichotomy e.2 e'.2
    · exact .inl (.inl h)
    · obtain hle | hle := le_total e.1 e'.1
      · exact .inl (.inr ⟨h, hle⟩)
      · exact .inr (.inr ⟨h.symm, hle⟩)
    · exact .inr (.inl h)

instance : IsTrans (String × ℚ) scoreLe where
  trans e e' e'' h h' := by
    unfold scoreLe at *
    obtain h | ⟨hscore, hmember⟩ := h
    · obtain h' | ⟨hscore', -⟩ := h'
      · exact .inl (h.trans h')
      · exact .inl (hscore' ▸ h)
    · obtain h' | ⟨hscore', hmember'⟩ := h'
      · exact .inl (hscore ▸ h')
      · exact .inr ⟨hscore.trans hscore', hmember.trans hmember'⟩

theorem exists_attempt (windowSeconds : Double) (hmax : 0 < maxRequests) {attempts : SortedSet String ℚ}
    (h : store.attempts call.time (redisKey space call.key) = attempts) (hfresh : call.member ∉ attempts.members) :
    ∃ entry : RedisKey, Attempt maxRequests (windowCutoff windowSeconds call.time) call.time (attempts.entries.map Prod.snd)
        (isAllowed space maxRequests windowSeconds store call).1 (entry.attempts.entries.map Prod.snd) ∧
      (∀ e ∈ entry.attempts.entries, e = (call.member, call.time) ∨ e ∈ attempts.entries) ∧
      entry.expiresAt = call.time + (wholeSeconds windowSeconds.value + 1 : ℤ) ∧
      (isAllowed space maxRequests windowSeconds store call).2 =
        Function.update store (redisKey space call.key) (some entry) := by
  set pruned := attempts.removeScores (· ≤ windowCutoff windowSeconds call.time) with hpruned
  have hscores : pruned.entries.map Prod.snd =
      live (windowCutoff windowSeconds call.time) (attempts.entries.map Prod.snd) := by
    rw [live, List.filter_map]
    refine congrArg (List.map Prod.snd) (List.filter_congr fun e _ => ?_)
    simp [← not_le]
  have hlength : (live (windowCutoff windowSeconds call.time) (attempts.entries.map Prod.snd)).length =
      pruned.entries.length := by
    rw [← hscores, List.length_map]
  have hsubset : ∀ e ∈ pruned.entries, e ∈ attempts.entries := fun e he => (List.mem_filter.mp he).1
  have hmember : call.member ∉ pruned.members := by
    rw [SortedSet.mem_members]
    rintro ⟨t, ht⟩
    exact hfresh (SortedSet.mem_members.mpr ⟨t, hsubset _ ht⟩)
  unfold isAllowed isAllowedScript
  simp only [h, ← hpruned]
  by_cases hfree : pruned.entries.length < maxRequests
  · rw [if_pos hfree]
    refine ⟨_, .admitted (hlength ▸ hfree) ?_, ?_, rfl, rfl⟩
    · rw [SortedSet.entries_add_of_not_mem _ hmember, List.map_cons, hscores]
    · intro e he
      rw [SortedSet.entries_add_of_not_mem _ hmember] at he
      exact (List.mem_cons.mp he).imp id (hsubset e)
  · rw [if_neg hfree]
    have hne : pruned.entries ≠ [] := by
      intro hnil
      rw [hnil] at hfree
      exact hfree hmax
    obtain ⟨oldest, rest, hrange, hperm, hle, hrest⟩ : ∃ oldest rest, pruned.range scoreLe (fun _ => true) 1 = [oldest] ∧
        pruned.entries.Perm (oldest :: rest) ∧ (∀ e ∈ rest, scoreLe oldest e) ∧
        (pruned.remove [oldest.1]).entries.Perm rest := SortedSet.exists_first hne
    have hfresh' : call.member ∉ (pruned.remove [oldest.1]).members := by
      rw [SortedSet.members_remove]
      exact fun hmem => hmember (List.mem_filter.mp hmem).1
    rw [hrange]
    simp only [List.map_cons, List.map_nil]
    refine ⟨_, @Attempt.replaced _ _ _ _ _ _ oldest.2 (rest.map Prod.snd) _ (hlength ▸ not_lt.mp hfree) ?_ ?_ ?_,
      ?_, rfl, rfl⟩
    · rw [← hscores]
      exact hperm.map Prod.snd
    · intro t ht
      obtain ⟨e, he, rfl⟩ := List.mem_map.mp ht
      exact (hle e he).elim le_of_lt fun h => h.1.le
    · rw [SortedSet.entries_add_of_not_mem _ hfresh', List.map_cons]
      exact (hrest.map Prod.snd).cons _
    · intro e he
      rw [SortedSet.entries_add_of_not_mem _ hfresh'] at he
      exact (List.mem_cons.mp he).imp id fun hmem => hsubset e (SortedSet.mem_remove.mp hmem).1

/-- What the calls of a sequence promise in Redis. -/
def Distinct (calls : List RateCall) : Prop := InOrder calls ∧ (calls.map (·.member)).Nodup

theorem Distinct.of_append (h : Distinct (calls ++ [call])) :
    Distinct calls ∧ (∀ c ∈ calls, c.time ≤ call.time) ∧ ∀ c ∈ calls, c.member ≠ call.member := by
  obtain ⟨horder, hmembers⟩ := h
  rw [List.map_append, List.nodup_append] at hmembers
  exact ⟨⟨horder.of_append.1, hmembers.1⟩, horder.of_append.2,
    fun c hc => hmembers.2.2 _ (List.mem_map_of_mem hc) _ List.mem_cons_self⟩

theorem remembers_isAllowed (hmax : 0 < maxRequests) (hwindow : 0 < windowSeconds.value)
    (hfits : Fits space windowSeconds calls store) (hdistinct : Distinct (calls ++ [call])) :
    Fits space windowSeconds (calls ++ [call]) (isAllowed space maxRequests windowSeconds store call).2 ∧
      Remembers maxRequests (windowCutoff windowSeconds call.time) call.time call.key (kept space store)
        (kept space (isAllowed space maxRequests windowSeconds store call).2)
        (isAllowed space maxRequests windowSeconds store call).1 := by
  obtain ⟨-, hnow, hnew⟩ := hdistinct.of_append
  have hfresh : call.member ∉ (store.attempts call.time (redisKey space call.key)).members := by
    rw [SortedSet.mem_members]
    rintro ⟨t, ht⟩
    obtain ⟨entry, hentry, he⟩ := mem_attempts ht
    obtain ⟨c, hc, hmember, -⟩ := hfits.known call.key entry hentry _ he
    exact hnew c hc hmember
  obtain ⟨entry, hattempt, hentries, hexpires, hstore⟩ := 
    exists_attempt windowSeconds hmax rfl hfresh
  have hother : ∀ key, key ≠ call.key → (isAllowed space maxRequests windowSeconds store call).2 (redisKey space key) =
      store (redisKey space key) := by
    intro key hne
    rw [hstore, Function.update_of_ne fun h => hne (redisKey_inj h)]
  have hown : (isAllowed space maxRequests windowSeconds store call).2 (redisKey space call.key) = some entry := by
    rw [hstore, Function.update_self]
  have hknown : ∀ e ∈ entry.attempts.entries, ∃ c ∈ calls ++ [call], c.member = e.1 ∧ c.time = e.2 := by
    intro e he
    obtain rfl | hmem := hentries e he
    · exact ⟨call, List.mem_append_right _ List.mem_cons_self, rfl, rfl⟩
    · obtain ⟨old, hold, he⟩ := mem_attempts hmem
      obtain ⟨c, hc, hmember⟩ := hfits.known call.key old hold e he
      exact ⟨c, List.mem_append_left _ hc, hmember⟩
  have hbound : ∀ c ∈ calls ++ [call], c.time ≤ call.time := by
    intro c hc
    obtain hc | hc := List.mem_append.mp hc
    · exact hnow c hc
    · rw [List.mem_singleton.mp hc]
  refine ⟨⟨fun key entry' hentry' e he => ?_, fun key entry' hentry' e he => ?_⟩,
    ⟨⟨_, forgets_attempts hfits call.time call.key, ?_⟩, fun other hne => ?_⟩⟩
  · by_cases hkey : key = call.key
    · subst hkey
      obtain rfl := Option.some.inj (hown.symm.trans hentry')
      -- the key expires a window and more after the last attempt
      obtain ⟨c, hc, -, hscore⟩ := hknown e he
      have hwhole := lt_wholeSeconds_add_one hwindow
      have hlast := hbound c hc
      rw [hexpires, ← hscore]
      push_cast
      linarith
    · exact hfits.past key entry' (hother key hkey ▸ hentry') e he
  · by_cases hkey : key = call.key
    · subst hkey
      obtain rfl := Option.some.inj (hown.symm.trans hentry')
      exact hknown e he
    · obtain ⟨c, hc, hmember⟩ := hfits.known key entry' (hother key hkey ▸ hentry') e he
      exact ⟨c, List.mem_append_left _ hc, hmember⟩
  · have hkept : kept space (isAllowed space maxRequests windowSeconds store call).2 call.key =
        entry.attempts.entries.map Prod.snd := by
      unfold kept
      rw [hown]
      rfl
    rw [hkept]
    exact hattempt
  · refine .inl ?_
    unfold kept
    rw [hother other hne]

def after (space : String) (maxRequests : Nat) (windowSeconds : Double) (calls : List RateCall) : RedisStore :=
  Window.after (isAllowed space maxRequests windowSeconds) (fun _ => none) calls

theorem isAllowed_after (hmax : 0 < maxRequests) (hwindow : 0 < windowSeconds.value)
    (hdistinct : Distinct (calls ++ [call])) :
    (isAllowed space maxRequests windowSeconds (after space maxRequests windowSeconds calls) call).1 =
      decide ((callsInWindow windowSeconds calls call).length < maxRequests) := by
  obtain ⟨hbefore, hnow, -⟩ := hdistinct.of_append
  obtain ⟨hfits, cutoff, hkeeps, hcutoff⟩ := keepsAll_after (isAllowed space maxRequests windowSeconds) (fun _ => none)
    (kept space) (·.key) (·.time) (windowCutoff windowSeconds) maxRequests (windowCutoff_mono windowSeconds) (fun _ => rfl)
    Distinct (Fits space windowSeconds) ⟨nofun, nofun⟩ (fun _ _ h => h.of_append.1)
    (fun _ _ _ hdistinct hfits => remembers_isAllowed hmax hwindow hfits hdistinct) calls hbefore hbefore.1
  rw [← length_live_times]
  refine (hkeeps.call (hcutoff _ hnow) ?_ (remembers_isAllowed hmax hwindow hfits hdistinct).2).1
  rintro _ hmem
  obtain ⟨c, hc, rfl⟩ := List.mem_map.mp hmem
  exact hnow c hc

end RedisRateLimiter

/-- **Both limiters are the same sliding window**: a call is allowed when fewer calls of its key than the limit lie in the
window before it, allowed or blocked, and whenever the sweeps are. -/
theorem limitersSlide {maxRequests : Nat} {windowSeconds : Double} (hmax : 1 ≤ maxRequests)
    (hwindow : 0 < windowSeconds.value)
    (space : String) {before later : List RateCall} {call : RateCall} (horder : InOrder (before ++ call :: later))
    (hmembers : ((before ++ call :: later).map (·.member)).Nodup) :
    (InMemoryRateLimiter.isAllowed maxRequests windowSeconds InMemoryRateLimiter.cleanupDue
        (InMemoryRateLimiter.after maxRequests windowSeconds InMemoryRateLimiter.cleanupDue before) call).1 =
        decide ((callsInWindow windowSeconds before call).length < maxRequests) ∧
      (RedisRateLimiter.isAllowed space maxRequests windowSeconds
        (RedisRateLimiter.after space maxRequests windowSeconds before) call).1 =
        decide ((callsInWindow windowSeconds before call).length < maxRequests) ∧
      ∀ due due', (InMemoryRateLimiter.isAllowed maxRequests windowSeconds due
          (InMemoryRateLimiter.after maxRequests windowSeconds due before) call).1 =
        (InMemoryRateLimiter.isAllowed maxRequests windowSeconds due'
          (InMemoryRateLimiter.after maxRequests windowSeconds due' before) call).1 := by
  have hinOrder : InOrder (before ++ [call]) := by
    unfold InOrder at horder ⊢
    rw [List.append_cons, List.map_append] at horder
    exact (List.pairwise_append.mp horder).1
  have hdistinct : ((before ++ [call]).map (·.member)).Nodup := by
    rw [List.append_cons, List.map_append] at hmembers
    exact (List.nodup_append.mp hmembers).1
  refine ⟨InMemoryRateLimiter.isAllowed_after hmax hinOrder,
    RedisRateLimiter.isAllowed_after hmax hwindow ⟨hinOrder, hdistinct⟩, fun due due' => ?_⟩
  rw [InMemoryRateLimiter.isAllowed_after hmax hinOrder, InMemoryRateLimiter.isAllowed_after hmax hinOrder]

namespace Sample

def second (n : ℕ) (h : n < 2 ^ 53) : Double := .ofDigits n 0 h (by decide) (by decide)

def burst : List RateCall := [⟨"ip", second 0 (by decide), "0:a"⟩, ⟨"ip", second 20 (by decide), "20:b"⟩]

def burstEnd : RateCall := ⟨"ip", second 50 (by decide), "50:c"⟩

def minute : Double := second 60 (by decide)

def tenth : Double := .ofDigits 3602879701896397 (-55) (by decide) (by decide) (by decide)

def earlyCall : RateCall := ⟨"ip", .ofDigits 7130316800838861 (-22) (by decide) (by decide) (by decide), "a"⟩

def lateCall : RateCall := ⟨"ip", .ofDigits 7130316801258291 (-22) (by decide) (by decide) (by decide), "b"⟩

end Sample

theorem windowCutoff_minute : windowCutoff Sample.minute Sample.burstEnd.time = -10 := by
  have hholds : binary64.Holds |(-10 : ℚ)| := by
    have hten : binary64.Holds ((10 : ℕ) * 2 ^ (0 : ℤ)) := holds_mul_zpow (by decide) (by decide) (by decide)
    norm_num at hten ⊢
    exact hten
  rw [windowCutoff, show Sample.burstEnd.time - Sample.minute.value = -10 by
    norm_num [Sample.burstEnd, Sample.minute, Sample.second, RateCall.time, Double.ofDigits]]
  exact BinaryFormat.nearest_of_holds hholds

/-- The third call of a key within a minute is blocked, where two are allowed. -/
theorem limitersSlide_burst : (InMemoryRateLimiter.isAllowed 2 Sample.minute InMemoryRateLimiter.cleanupDue
      (InMemoryRateLimiter.after 2 Sample.minute InMemoryRateLimiter.cleanupDue Sample.burst) Sample.burstEnd).1 = false ∧
    (RedisRateLimiter.isAllowed "login" 2 Sample.minute
      (RedisRateLimiter.after "login" 2 Sample.minute Sample.burst) Sample.burstEnd).1 = false := by
  have hslide := @limitersSlide 2 Sample.minute (by decide) (by norm_num [Sample.minute, Sample.second, Double.ofDigits])
    "login" Sample.burst [] Sample.burstEnd
    (by norm_num [InOrder, Sample.burst, Sample.burstEnd, Sample.second, RateCall.time, Double.ofDigits])
    (by simp [Sample.burst, Sample.burstEnd])
  have hcount : (callsInWindow Sample.minute Sample.burst Sample.burstEnd).length = 2 := by
    unfold callsInWindow
    rw [windowCutoff_minute]
    norm_num [Sample.burst, Sample.burstEnd, Sample.second, RateCall.time, Double.ofDigits]
  rw [hcount] at hslide
  exact ⟨hslide.1, hslide.2.1⟩

/-- A tenth of a second before the late call is nearer to the time of the early one than to any other float. -/
theorem windowCutoff_tenth : windowCutoff Sample.tenth Sample.lateCall.time = Sample.earlyCall.time := by
  set q : ℚ := Sample.lateCall.time - Sample.tenth.value with hq
  have hvalue : q = 7130316801258291 / 2 ^ 22 - 3602879701896397 / 2 ^ 55 := by
    norm_num [hq, Sample.lateCall, Sample.tenth, RateCall.time, Double.ofDigits]
  have hlog : Int.log 2 q = 30 := by
    refine le_antisymm (Int.lt_add_one_iff.mp ((Int.lt_zpow_iff_log_lt one_lt_two ?_).mp ?_))
      ((Int.zpow_le_iff_le_log one_lt_two ?_).mp ?_) <;> norm_num [hvalue]
  have hunit : binary64.unit q = 1 / 2 ^ 22 := by
    rw [BinaryFormat.unit, BinaryFormat.unitExponent, hlog]
    norm_num [binary64]
  have hnearest : binary64.toUnit q = (7130316800838861 : ℤ) * binary64.unit q :=
    BinaryFormat.toUnit_eq (by rw [hunit, hvalue]; norm_num) (by rw [hunit, hvalue]; norm_num)
  rw [windowCutoff, BinaryFormat.nearest, if_neg (by norm_num [← hq, hvalue]), ← hq, hnearest, hunit]
  norm_num [Sample.earlyCall, RateCall.time, Double.ofDigits]

/-- With one call in a tenth of a second, both calls are allowed, though the early one is less than that before the late
one. -/
theorem not_limitersSlide : ¬ ∀ (maxRequests : Nat) (windowSeconds : Double), 1 ≤ maxRequests → 0 < windowSeconds.value →
    ∀ (space : String) (before later : List RateCall) (call : RateCall), InOrder (before ++ call :: later) →
      ((before ++ call :: later).map (·.member)).Nodup →
      (InMemoryRateLimiter.isAllowed maxRequests windowSeconds InMemoryRateLimiter.cleanupDue
          (InMemoryRateLimiter.after maxRequests windowSeconds InMemoryRateLimiter.cleanupDue before) call).1 =
          decide ((before.filter fun c =>
            c.key = call.key ∧ call.time - windowSeconds.value < c.time).length < maxRequests) ∧
        (RedisRateLimiter.isAllowed space maxRequests windowSeconds
          (RedisRateLimiter.after space maxRequests windowSeconds before) call).1 =
          decide ((before.filter fun c =>
            c.key = call.key ∧ call.time - windowSeconds.value < c.time).length < maxRequests) := by
  intro h
  have horder : InOrder ([Sample.earlyCall] ++ [Sample.lateCall]) := by
    norm_num [InOrder, Sample.earlyCall, Sample.lateCall, RateCall.time, Double.ofDigits]
  have hblocked := (h 1 Sample.tenth le_rfl (by norm_num [Sample.tenth, Double.ofDigits]) "login" [Sample.earlyCall] []
    Sample.lateCall horder (by simp [Sample.earlyCall, Sample.lateCall])).1
  have hwithin : Sample.lateCall.time - Sample.tenth.value < Sample.earlyCall.time := by
    norm_num [Sample.earlyCall, Sample.lateCall, Sample.tenth, RateCall.time, Double.ofDigits]
  have hnone : callsInWindow Sample.tenth [Sample.earlyCall] Sample.lateCall = [] := by
    simp [callsInWindow, windowCutoff_tenth]
  rw [InMemoryRateLimiter.isAllowed_after one_pos horder, hnone] at hblocked
  have hkey : Sample.earlyCall.key = Sample.lateCall.key := rfl
  simp [hwithin, hkey] at hblocked

end SiloForge
