import Mathlib.Data.Rat.Floor
import SiloForge.Openclaw.Gateway

/-!
# Retries of gateway calls

A call that fails for a while is made again, after a delay that grows, until a deadline. A backoff keeps its delay from one
call to the next.

* `isTransientGatewayText` : the errors that are retried;
* `GatewayBackoff.run` : the attempts of one call, with the sleeps between them;
* `sleeps_attempts` : every sleep ends by the deadline, and is no longer than allowed;
* `retriesLawfully_iff` : a call ends as it should unless it succeeds without a value.
-/

namespace SiloForge

/-! ## Transient errors -/

def nonTransientGatewayErrorMarkers : List String := ["unsupported file"]

def transientGatewayErrorMarkers : List String :=
  ["connect call failed", "connection refused", "errno 111", "econnrefused", "did not receive a valid http response",
    "no route to host", "network is unreachable", "host is down", "name or service not known", "received 1012",
    "service restart", "http 503", "http 502", "http 504", "temporar", "timeout", "timed out", "connection closed",
    "connection reset"]

/-- `_is_transient_gateway_error`, of an error of the gateway by its text. -/
def isTransientGatewayText (lower : String → String) (text : String) : Bool :=
  let message := lower text
  if message = "" then false
  else if nonTransientGatewayErrorMarkers.any (hasMarker · message) = true then false
  else hasMarker "503" message && hasMarker "websocket" message || transientGatewayErrorMarkers.any (hasMarker · message)

/-! ## The backoff -/

/-- How calls are retried, and the delay before the next attempt. No delay is longer than the longest one. -/
structure GatewayBackoff where
  timeoutS : ℚ
  baseDelayS : ℚ
  maxDelayS : ℚ
  jitter : ℚ
  timeoutContext : String
  delayS : ℚ
  baseDelay_nonneg : 0 ≤ baseDelayS
  baseDelay_le : baseDelayS ≤ maxDelayS
  jitter_nonneg : 0 ≤ jitter
  delay_nonneg : 0 ≤ delayS
  delay_le : delayS ≤ maxDelayS

/-- What comes of an attempt: a value, which may be `None`, or an error. -/
structure Attempt (α : Type) where
  outcome : Except RunError (Option α)
  /-- The time when it has come. -/
  now : ℚ
  /-- What is drawn for the sleep behind it. -/
  draw : ℚ

/-- How a call ends: with a value, with an error of its last attempt, at its deadline, or with the error that there is no
value. -/
inductive RetryEnd (α : Type) where
  | returned (value : Option α)
  | raised (error : RunError)
  | timedOut (message : String)
  | noValue
  deriving DecidableEq

structure Sleep where
  since : ℚ
  seconds : ℚ

/-- The attempts of a call that goes on have no end yet. -/
structure RunResult (α : Type) where
  ended : Option (RetryEnd α)
  sleeps : List Sleep := []
  backoff : GatewayBackoff

def truncate (value : ℚ) : ℤ := if 0 ≤ value then ⌊value⌋ else ⌈value⌉

def gatewayTimeoutMessage (text : String) (timeoutS : ℚ) (context : String) : String :=
  let roundedTimeout := truncate timeoutS
  let timeoutText :=
    if roundedTimeout ≥ 120 then toString (roundedTimeout / 60) ++ " minutes" else toString roundedTimeout ++ " seconds"
  "Gateway unreachable after " ++ timeoutText ++ " (" ++ context ++ " timeout). Last error: " ++ text

namespace GatewayBackoff

variable {α : Type}

def new (timeoutS baseDelayS maxDelayS jitter : ℚ) (timeoutContext : String) (hbase : 0 ≤ baseDelayS)
    (hmax : baseDelayS ≤ maxDelayS) (hjitter : 0 ≤ jitter) : GatewayBackoff :=
  ⟨timeoutS, baseDelayS, maxDelayS, jitter, timeoutContext, baseDelayS, hbase, hmax, hjitter, hbase, hmax⟩

def reset (b : GatewayBackoff) : GatewayBackoff :=
  { b with delayS := b.baseDelayS, delay_nonneg := b.baseDelay_nonneg, delay_le := b.baseDelay_le }

def slower (b : GatewayBackoff) : GatewayBackoff :=
  { b with
    delayS := min (b.delayS * 2) b.maxDelayS
    delay_nonneg := le_min (mul_nonneg b.delay_nonneg zero_le_two) (b.delay_nonneg.trans b.delay_le)
    delay_le := min_le_right _ _ }

def sleepS (b : GatewayBackoff) (remaining draw : ℚ) : ℚ :=
  let sleep := min b.delayS remaining
  let sleep := if b.jitter ≠ 0 then sleep * (1 + draw) else sleep
  max 0 (min sleep remaining)

def attempts (lower : String → String) (deadline : ℚ) (b : GatewayBackoff) : List (Attempt α) → RunResult α
  | [] => { ended := none, backoff := b }
  | attempt :: rest =>
    match attempt.outcome with
    | .error (.gateway text) =>
      let remaining := deadline - attempt.now
      if isTransientGatewayText lower text = false then { ended := some (.raised (.gateway text)), backoff := b }
      else if remaining ≤ 0 then
        { ended := some (.timedOut (gatewayTimeoutMessage text b.timeoutS b.timeoutContext)), backoff := b }
      else
        let later := attempts lower deadline b.slower rest
        { later with sleeps := ⟨attempt.now, b.sleepS remaining attempt.draw⟩ :: later.sleeps }
    | .error e => { ended := some (.raised e), backoff := b }
    | .ok none => { ended := some .noValue, backoff := b.reset }
    | .ok (some value) => { ended := some (.returned (some value)), backoff := b.reset }

def run (lower : String → String) (b : GatewayBackoff) (start : ℚ) (as : List (Attempt α)) : RunResult α :=
  attempts lower (start + b.timeoutS) b as

end GatewayBackoff

def coordinationBackoff : GatewayBackoff :=
  .new 45 (1 / 2) 5 (3 / 20) "gateway coordination" (by norm_num) (by norm_num) (by norm_num)

def templateSyncBackoff : GatewayBackoff :=
  .new 600 (3 / 4) 30 (1 / 5) "template sync" (by norm_num) (by norm_num) (by norm_num)

/-! ## The attempts of a call -/

section Attempts
variable {α : Type} {lower : String → String} {deadline : ℚ} {b : GatewayBackoff} {attempt : Attempt α}
  {as rest : List (Attempt α)}

/-- An attempt fails with a transient error before the deadline. -/
def TransientBefore (lower : String → String) (deadline : ℚ) (attempt : Attempt α) : Prop :=
  ∃ text, attempt.outcome = .error (.gateway text) ∧ isTransientGatewayText lower text = true ∧ attempt.now < deadline

theorem attempts_transient (h : TransientBefore lower deadline attempt) (rest : List (Attempt α)) :
    GatewayBackoff.attempts lower deadline b (attempt :: rest) =
      { GatewayBackoff.attempts lower deadline b.slower rest with
        sleeps := ⟨attempt.now, b.sleepS (deadline - attempt.now) attempt.draw⟩ ::
          (GatewayBackoff.attempts lower deadline b.slower rest).sleeps } := by
  obtain ⟨text, houtcome, htransient, hnow⟩ := h
  rw [GatewayBackoff.attempts, houtcome]
  dsimp only
  rw [if_neg (by rw [htransient]; exact Bool.noConfusion), if_neg (not_le.mpr (sub_pos.mpr hnow))]

def lastEnd (lower : String → String) (timeoutS : ℚ) (context : String) : Except RunError (Option α) → RetryEnd α
  | .error (.gateway text) =>
    if isTransientGatewayText lower text = false then .raised (.gateway text)
    else .timedOut (gatewayTimeoutMessage text timeoutS context)
  | .error e => .raised e
  | .ok none => .noValue
  | .ok (some value) => .returned (some value)

theorem attempts_last (h : ¬ TransientBefore lower deadline attempt) (rest : List (Attempt α)) :
    (GatewayBackoff.attempts lower deadline b (attempt :: rest)).ended =
      some (lastEnd lower b.timeoutS b.timeoutContext attempt.outcome) ∧
    (GatewayBackoff.attempts lower deadline b (attempt :: rest)).sleeps = [] := by
  rw [GatewayBackoff.attempts]
  cases houtcome : attempt.outcome with
  | error e =>
    cases e with
    | gateway text =>
      dsimp only [lastEnd]
      cases htransient : isTransientGatewayText lower text with
      | false => exact ⟨rfl, rfl⟩
      | true =>
        have hpassed : deadline - attempt.now ≤ 0 :=
          sub_nonpos.mpr (not_lt.mp fun hnow => h ⟨text, houtcome, htransient, hnow⟩)
        rw [if_neg Bool.noConfusion, if_pos hpassed, if_neg Bool.noConfusion]
        exact ⟨rfl, rfl⟩
    | raised text => exact ⟨rfl, rfl⟩
    | cut => exact ⟨rfl, rfl⟩
  | ok value =>
    cases value with
    | none => exact ⟨rfl, rfl⟩
    | some value => exact ⟨rfl, rfl⟩

theorem ended_append (h : ∀ a ∈ as, TransientBefore lower deadline a) :
    ∃ b' : GatewayBackoff, b'.timeoutS = b.timeoutS ∧ b'.timeoutContext = b.timeoutContext ∧
      (GatewayBackoff.attempts lower deadline b (as ++ rest)).ended =
        (GatewayBackoff.attempts lower deadline b' rest).ended := by
  induction as generalizing b with
  | nil => exact ⟨b, rfl, rfl, rfl⟩
  | cons a as ih =>
    obtain ⟨hfirst, hrest⟩ := List.forall_mem_cons.mp h
    obtain ⟨b', htimeout, hcontext, hended⟩ := ih (b := b.slower) hrest
    refine ⟨b', htimeout, hcontext, ?_⟩
    rw [List.cons_append, attempts_transient hfirst]
    exact hended

theorem ended_attempts (h : ∀ a ∈ as, TransientBefore lower deadline a) (hlast : ¬ TransientBefore lower deadline attempt) :
    (GatewayBackoff.attempts lower deadline b (as ++ attempt :: rest)).ended =
      some (lastEnd lower b.timeoutS b.timeoutContext attempt.outcome) := by
  obtain ⟨b', htimeout, hcontext, hended⟩ : ∃ b' : GatewayBackoff, b'.timeoutS = b.timeoutS ∧
      b'.timeoutContext = b.timeoutContext ∧ (GatewayBackoff.attempts lower deadline b (as ++ attempt :: rest)).ended =
        (GatewayBackoff.attempts lower deadline b' (attempt :: rest)).ended := ended_append h
  rw [hended, (attempts_last hlast rest).1, htimeout, hcontext]

theorem ended_attempts_congr {b' : GatewayBackoff} (htimeout : b'.timeoutS = b.timeoutS)
    (hcontext : b'.timeoutContext = b.timeoutContext) (as : List (Attempt α)) :
    (GatewayBackoff.attempts lower deadline b' as).ended = (GatewayBackoff.attempts lower deadline b as).ended := by
  induction as generalizing b b' with
  | nil => rfl
  | cons attempt rest ih =>
    by_cases htransient : TransientBefore lower deadline attempt
    · rw [attempts_transient htransient, attempts_transient htransient]
      exact @ih b.slower b'.slower htimeout hcontext
    · rw [(attempts_last htransient rest).1, (attempts_last htransient rest).1, htimeout, hcontext]

variable (lower deadline b) in
theorem backoff_attempts (as : List (Attempt α)) :
    (GatewayBackoff.attempts lower deadline b as).backoff.timeoutS = b.timeoutS ∧
      (GatewayBackoff.attempts lower deadline b as).backoff.timeoutContext = b.timeoutContext := by
  induction as generalizing b with
  | nil => exact ⟨rfl, rfl⟩
  | cons attempt rest ih =>
    by_cases htransient : TransientBefore lower deadline attempt
    · rw [attempts_transient htransient]
      exact ih (b := b.slower)
    · rw [GatewayBackoff.attempts]
      cases houtcome : attempt.outcome with
      | ok value =>
        cases value with
        | none => exact ⟨rfl, rfl⟩
        | some value => exact ⟨rfl, rfl⟩
      | error e =>
        cases e with
        | raised text => exact ⟨rfl, rfl⟩
        | cut => exact ⟨rfl, rfl⟩
        | gateway text =>
          dsimp only
          split
          · exact ⟨rfl, rfl⟩
          split
          · exact ⟨rfl, rfl⟩
          · rename_i hagain hnow
            exact absurd ⟨text, houtcome, Bool.eq_true_of_not_eq_false hagain, sub_pos.mp (not_le.mp hnow)⟩ htransient

/-- A call that has ended has ended with its first attempt that is not retried. -/
theorem exists_last {ended : RetryEnd α} (h : (GatewayBackoff.attempts lower deadline b as).ended = some ended) :
    ∃ before attempt rest, as = before ++ attempt :: rest ∧ (∀ a ∈ before, TransientBefore lower deadline a) ∧
      ended = lastEnd lower b.timeoutS b.timeoutContext attempt.outcome := by
  induction as generalizing b with
  | nil => cases h
  | cons attempt rest ih =>
    by_cases htransient : TransientBefore lower deadline attempt
    · rw [attempts_transient htransient] at h
      obtain ⟨before, last, later, rfl, hbefore, hended⟩ := ih h
      exact ⟨attempt :: before, last, later, rfl, List.forall_mem_cons.mpr ⟨htransient, hbefore⟩, hended⟩
    · rw [(attempts_last htransient rest).1] at h
      exact ⟨[], attempt, rest, rfl, fun _ ha => absurd ha List.not_mem_nil, (Option.some.inj h).symm⟩

theorem outcome_of_returned {timeoutS : ℚ} {context : String} {outcome : Except RunError (Option α)} {value : Option α}
    (h : lastEnd lower timeoutS context outcome = .returned value) : outcome = .ok value := by
  cases outcome with
  | ok given =>
    cases given with
    | none => cases h
    | some given =>
      obtain rfl := RetryEnd.returned.inj h
      rfl
  | error e =>
    cases e with
    | raised text => cases h
    | cut => cases h
    | gateway text =>
      change (if _ then _ else _) = _ at h
      split at h
      · cases h
      · cases h

theorem mem_of_returned {value : Option α}
    (h : (GatewayBackoff.attempts lower deadline b as).ended = some (.returned value)) :
    ∃ attempt ∈ as, attempt.outcome = .ok value := by
  obtain ⟨before, attempt, rest, rfl, -, hended⟩ := exists_last h
  exact ⟨attempt, List.mem_append_right _ List.mem_cons_self, outcome_of_returned hended.symm⟩

end Attempts

/-! ## The sleeps -/

section Sleeps
variable {α : Type} {lower : String → String} {deadline : ℚ} {b : GatewayBackoff} {as : List (Attempt α)} {remaining draw : ℚ}

theorem sleepS_le_remaining (h : 0 < remaining) : b.sleepS remaining draw ≤ remaining :=
  max_le h.le (min_le_right _ _)

theorem sleepS_le_max (h : 0 < remaining) (hdraw : draw ≤ b.jitter) :
    b.sleepS remaining draw ≤ b.maxDelayS * (1 + b.jitter) := by
  have hlongest : 0 ≤ b.maxDelayS := b.delay_nonneg.trans b.delay_le
  have hshort : 0 ≤ min b.delayS remaining := le_min b.delay_nonneg h.le
  have hlong : min b.delayS remaining ≤ b.maxDelayS := (min_le_left _ _).trans b.delay_le
  have hfactor : 1 ≤ 1 + b.jitter := le_add_of_nonneg_right b.jitter_nonneg
  refine max_le (mul_nonneg hlongest (zero_le_one.trans hfactor)) ((min_le_left _ _).trans ?_)
  split
  · calc min b.delayS remaining * (1 + draw)
        ≤ min b.delayS remaining * (1 + b.jitter) := mul_le_mul_of_nonneg_left (by linarith) hshort
      _ ≤ b.maxDelayS * (1 + b.jitter) := mul_le_mul_of_nonneg_right hlong (zero_le_one.trans hfactor)
  · calc min b.delayS remaining ≤ b.maxDelayS := hlong
      _ ≤ b.maxDelayS * (1 + b.jitter) := le_mul_of_one_le_right hlongest hfactor

/-- A sleep ends by the deadline, and is no longer than the longest delay with the most jitter. -/
def SleepAllowed (b : GatewayBackoff) (deadline : ℚ) (sleep : Sleep) : Prop :=
  0 ≤ sleep.seconds ∧ sleep.since + sleep.seconds ≤ deadline ∧ sleep.seconds ≤ b.maxDelayS * (1 + b.jitter)

theorem sleeps_attempts (hdraw : ∀ a ∈ as, a.draw ≤ b.jitter) :
    ∀ sleep ∈ (GatewayBackoff.attempts lower deadline b as).sleeps, SleepAllowed b deadline sleep := by
  induction as generalizing b with
  | nil => nofun
  | cons attempt rest ih =>
    obtain ⟨hfirst, hrest⟩ := List.forall_mem_cons.mp hdraw
    by_cases htransient : TransientBefore lower deadline attempt
    · rw [attempts_transient htransient]
      obtain ⟨-, -, -, hnow⟩ := htransient
      have hremaining : 0 < deadline - attempt.now := sub_pos.mpr hnow
      refine List.forall_mem_cons.mpr ⟨⟨le_max_left _ _, ?_, sleepS_le_max hremaining hfirst⟩, ih (b := b.slower) hrest⟩
      have hends : b.sleepS (deadline - attempt.now) attempt.draw ≤ deadline - attempt.now := sleepS_le_remaining hremaining
      show attempt.now + b.sleepS (deadline - attempt.now) attempt.draw ≤ deadline
      linarith
    · rw [(attempts_last htransient rest).2]
      nofun

end Sleeps

/-! ## How calls end -/

section Law
variable {α : Type} {lower : String → String} {b : GatewayBackoff} {start : ℚ} {as : List (Attempt α)}

/-- A call ends as its first attempt that is not a transient error before the deadline says, and its sleeps are allowed. -/
structure RetriesLawfully (lower : String → String) (b : GatewayBackoff) (start : ℚ) (as : List (Attempt α)) : Prop where
  value : ∀ before attempt rest value, as = before ++ attempt :: rest →
    (∀ a ∈ before, TransientBefore lower (start + b.timeoutS) a) → attempt.outcome = .ok value →
      (b.run lower start as).ended = some (.returned value)
  error : ∀ before attempt rest e, as = before ++ attempt :: rest →
    (∀ a ∈ before, TransientBefore lower (start + b.timeoutS) a) → attempt.outcome = .error e →
      (∀ text, e = .gateway text → isTransientGatewayText lower text = false) →
        (b.run lower start as).ended = some (.raised e)
  timeout : ∀ before attempt rest text, as = before ++ attempt :: rest →
    (∀ a ∈ before, TransientBefore lower (start + b.timeoutS) a) → attempt.outcome = .error (.gateway text) →
      isTransientGatewayText lower text = true → start + b.timeoutS ≤ attempt.now →
        (b.run lower start as).ended = some (.timedOut (gatewayTimeoutMessage text b.timeoutS b.timeoutContext))
  sleeps : ∀ sleep ∈ (b.run lower start as).sleeps, SleepAllowed b (start + b.timeoutS) sleep

def EndsWithoutValue (lower : String → String) (b : GatewayBackoff) (start : ℚ) (as : List (Attempt α)) : Prop :=
  ∃ before attempt rest, as = before ++ attempt :: rest ∧
    (∀ a ∈ before, TransientBefore lower (start + b.timeoutS) a) ∧ attempt.outcome = .ok none

/-- **A call ends as it should exactly when** it does not succeed without a value. -/
theorem retriesLawfully_iff (hdraw : ∀ a ∈ as, |a.draw| ≤ b.jitter) :
    RetriesLawfully lower b start as ↔ ¬ EndsWithoutValue lower b start as := by
  have hend : ∀ {before attempt rest}, as = before ++ attempt :: rest →
      (∀ a ∈ before, TransientBefore lower (start + b.timeoutS) a) →
        ¬ TransientBefore lower (start + b.timeoutS) attempt →
          (b.run lower start as).ended = some (lastEnd lower b.timeoutS b.timeoutContext attempt.outcome) := by
    rintro before attempt rest rfl hbefore hlast
    exact ended_attempts hbefore hlast
  have hsuccess : ∀ {attempt : Attempt α} {value}, attempt.outcome = .ok value →
      ¬ TransientBefore lower (start + b.timeoutS) attempt := by
    rintro attempt value houtcome ⟨text, htext, -⟩
    rw [houtcome] at htext
    cases htext
  constructor
  · rintro hlaw ⟨before, attempt, rest, has, hbefore, houtcome⟩
    have hnone := hlaw.value before attempt rest none has hbefore houtcome
    rw [hend has hbefore (hsuccess houtcome), houtcome] at hnone
    cases hnone
  · intro hvalue
    refine ⟨fun before attempt rest value has hbefore houtcome => ?_,
      fun before attempt rest e has hbefore houtcome hlast => ?_,
      fun before attempt rest text has hbefore houtcome htransient hpassed => ?_, ?_⟩
    · rw [hend has hbefore (hsuccess houtcome), houtcome]
      cases value with
      | none => exact absurd ⟨before, attempt, rest, has, hbefore, houtcome⟩ hvalue
      | some value => rfl
    · rw [hend has hbefore, houtcome]
      · cases e with
        | gateway text =>
          dsimp only [lastEnd]
          rw [if_pos (hlast text rfl)]
        | raised text => rfl
        | cut => rfl
      · rintro ⟨text, htext, htransient, -⟩
        rw [houtcome] at htext
        rw [hlast text (Except.error.inj htext)] at htransient
        cases htransient
    · rw [hend has hbefore, houtcome]
      · dsimp only [lastEnd]
        rw [if_neg (by rw [htransient]; exact Bool.noConfusion)]
      · rintro ⟨-, -, -, hnow⟩
        exact absurd hpassed (not_le.mpr hnow)
    · exact sleeps_attempts fun a ha => (le_abs_self _).trans (hdraw a ha)

end Law

namespace Sample

def refused (now draw : ℚ) : Attempt Nat := ⟨.error (.gateway "connection refused"), now, draw⟩

def answered : Attempt Nat := ⟨.ok (some 7), 4, 0⟩

def unanswered : Attempt Nat := ⟨.ok none, 1, 0⟩

end Sample

/-- Two attempts are refused, and the third is answered. -/
theorem retriesLawfully_answered : RetriesLawfully id coordinationBackoff 0
    [Sample.refused 1 (1 / 10), Sample.refused 2 (-1 / 8), Sample.answered] := by
  refine (retriesLawfully_iff ?_).mpr ?_
  · simp only [List.forall_mem_cons, Sample.refused, Sample.answered]
    norm_num [coordinationBackoff, GatewayBackoff.new, abs_le]
  rintro ⟨before, attempt, rest, has, hbefore, houtcome⟩
  have hmem : attempt ∈ [Sample.refused 1 (1 / 10), Sample.refused 2 (-1 / 8), Sample.answered] := by
    rw [has]
    exact List.mem_append_right before List.mem_cons_self
  simp only [List.mem_cons, List.not_mem_nil, or_false] at hmem
  rcases hmem with rfl | rfl | rfl <;> cases houtcome

/-- A call that succeeds without a value ends with an error. -/
theorem not_retriesLawfully : ¬ ∀ (lower : String → String) (b : GatewayBackoff) (start : ℚ) (as : List (Attempt Nat)),
    (∀ a ∈ as, |a.draw| ≤ b.jitter) → RetriesLawfully lower b start as := by
  intro h
  have hlaw := h id coordinationBackoff 0 [Sample.unanswered]
    (List.forall_mem_singleton.mpr (by rw [Sample.unanswered, abs_zero]; exact coordinationBackoff.jitter_nonneg))
  have hnone := hlaw.value [] Sample.unanswered [] none rfl nofun rfl
  exact absurd hnone (by decide)

end SiloForge
