import SiloForge.Core.Digits
import SiloForge.Core.Failure
import SiloForge.Lib.Pattern

/-!
# Schedules

A schedule is a number and a unit, as in "10m". The pattern for it is a raw string whose backslashes are doubled, so
that it asks for backslashes instead of digits and spaces.

* `durationRe` : the pattern as it is; `parseEveryToSeconds` : the parser;
* `IsSchedule` : the texts that mean a number of seconds;
* `parsesEvery_iff` : the parser treats a text as it should exactly when it is no schedule.
-/

namespace SiloForge

open Lib

/-! ## The parser -/

inductive ScheduleError where
  | valueError (text : String)
  | keyError (key : Char)
  deriving DecidableEq

def ignoringCase (letters : List Char) (c : Char) : Bool :=
  letters.any fun letter => c = letter || c = letter.toUpper || (letter = 's' && c = 'ſ')

/-- The place of `$`: the end, or a newline before it. -/
def isEnd (rest : List Char) : Bool := rest = [] || rest = ['\n']

/-- `_DURATION_RE`: a digit, a backslash and letters d; a backslash and letters s; the unit. -/
def durationRe : Pattern Char :=
  .seq (.group "num" (.seq (.one fun c => '1' ≤ c && c ≤ '9') (.seq (.one (· = '\\')) (.many (ignoringCase ['d'])))))
    (.seq (.seq (.one (· = '\\')) (.many (ignoringCase ['s'])))
      (.seq (.group "unit" (.one (ignoringCase ['s', 'm', 'h', 'd', 'w']))) (.here isEnd)))

/-- `_MULTIPLIERS`. -/
def multiplier? (unit : Char) : Option Nat :=
  if unit = 's' then some 1
  else if unit = 'm' then some 60
  else if unit = 'h' then some (60 * 60)
  else if unit = 'd' then some (60 * 60 * 24)
  else if unit = 'w' then some (60 * 60 * 24 * 7)
  else none

def maxScheduleSeconds : Nat := 60 * 60 * 24 * 365 * 10

/-- `normalize_every`, with `str.lower` as a parameter. -/
def normalizeEvery (lower : String → String) (value : String) : Except ScheduleError String := do
  let normalized := String.ofList ((lower (strip value)).toList.filter (· ≠ ' '))
  require (normalized ≠ "") (.valueError "schedule is required")
  return normalized

def groupText (groups : Pattern.Groups Char) (name : String) : List Char := (groups.lookup name).getD []

def parseEveryToSeconds (lower : String → String) (value : String) : Except ScheduleError Int := do
  let normalized ← normalizeEvery lower value
  let groups ← orFail (durationRe.matches? normalized.toList)
    (.valueError "Invalid schedule. Expected format like \"10m\", \"1h\", \"2d\", \"1w\".")
  let num ← orFail (intOfText? (String.ofList (groupText groups "num"))) (.valueError "invalid literal for int()")
  let unit := (lower (String.ofList (groupText groups "unit"))).toList.headD ' '
  let multiplier ← orFail (multiplier? unit) (.keyError unit)
  let seconds := num * multiplier
  require (0 < seconds) (.valueError "Schedule must be greater than 0.")
  require (seconds ≤ maxScheduleSeconds) (.valueError "Schedule is too large (max 10 years).")
  return seconds

/-! ## What it reads -/

theorem num_of_matches {cs : List Char} {groups : Pattern.Groups Char} (h : durationRe.matches? cs = some groups) :
    ∃ digit rest, groupText groups "num" = digit :: '\\' :: rest := by
  obtain ⟨rest, h⟩ := Pattern.matches?_eq_some h
  obtain ⟨groups₁, between, groups₂, h₁, -, rfl⟩ := Pattern.mem_reads_seq.mp h
  obtain ⟨used, inner, rfl, hinner, rfl⟩ := Pattern.mem_reads_group.mp h₁
  obtain ⟨_, afterDigit, _, hdigit, h₂, -⟩ := Pattern.mem_reads_seq.mp hinner
  obtain ⟨-, digit, hcs, -⟩ := Pattern.mem_reads_one.mp hdigit
  obtain ⟨_, afterBackslash, _, hbackslash, hletters, -⟩ := Pattern.mem_reads_seq.mp h₂
  obtain ⟨-, backslash, rfl, hchar⟩ := Pattern.mem_reads_one.mp hbackslash
  obtain ⟨-, letters, rfl, -⟩ := Pattern.mem_reads_many.mp hletters
  obtain rfl := of_decide_eq_true hchar
  refine ⟨digit, letters, ?_⟩
  have hused : used = digit :: '\\' :: letters := by
    have hboth : used ++ between = (digit :: '\\' :: letters) ++ between := hcs
    exact List.append_cancel_right hboth
  simp [groupText, hused]

theorem mem_strip {text : String} {c : Char} (h : c ∈ text.toList) (hc : isSpace c = false) : c ∈ (strip text).toList := by
  have hkept : ∀ cs : List Char, c ∈ cs → c ∈ cs.dropWhile isSpace := by
    intro cs hcs
    rw [← List.takeWhile_append_dropWhile (p := isSpace) (l := cs), List.mem_append] at hcs
    refine hcs.resolve_left fun htaken => ?_
    rw [List.mem_takeWhile_imp htaken] at hc
    cases hc
  unfold strip
  rw [String.toList_ofList, List.mem_reverse]
  exact hkept _ (List.mem_reverse.mpr (hkept _ h))

theorem decimalsToNat?_eq_none {cs : List Char} {c : Char} (h : c ∈ cs) (hc : decimalValue? c = none) (hne : c ≠ '_')
    (acc count : Nat) (afterDigit : Bool) : decimalsToNat? acc count afterDigit cs = none := by
  induction cs generalizing acc count afterDigit with
  | nil => exact (List.not_mem_nil h).elim
  | cons c' cs ih =>
    unfold decimalsToNat?
    obtain rfl | h := List.mem_cons.mp h
    · rw [hc]
      exact if_neg fun hunderscore => hne hunderscore.1
    · cases decimalValue? c' with
      | some digit => exact ih h _ _ _
      | none =>
        dsimp only
        split
        · exact ih h _ _ _
        · rfl

theorem intOfText?_backslash {text : String} (h : '\\' ∈ text.toList) : intOfText? text = none := by
  have hmem := mem_strip h (by decide)
  have hnone : ∀ cs : List Char, '\\' ∈ cs → decimalsToNat? 0 0 false cs = none := fun cs hcs =>
    decimalsToNat?_eq_none hcs (by decide) (by decide) 0 0 false
  unfold intOfText?
  split
  · rename_i cs hcs
    rw [hcs] at hmem
    rw [hnone cs (by simpa using hmem)]
    rfl
  · rename_i cs hcs
    rw [hcs] at hmem
    rw [hnone cs (by simpa using hmem)]
    rfl
  · rw [hnone _ hmem]
    rfl

theorem parseEveryToSeconds_eq (lower : String → String) (value : String) :
    ∃ text, parseEveryToSeconds lower value = .error (.valueError text) := by
  unfold parseEveryToSeconds
  cases hnormalized : normalizeEvery lower value with
  | error e =>
    obtain rfl : e = .valueError "schedule is required" := by
      unfold normalizeEvery require at hnormalized
      dsimp only at hnormalized
      split at hnormalized <;> cases hnormalized
      rfl
    exact ⟨_, rfl⟩
  | ok normalized =>
    cases hmatches : durationRe.matches? normalized.toList with
    | none =>
      simp only [bind, Except.bind, hmatches, orFail]
      exact ⟨_, rfl⟩
    | some groups =>
      obtain ⟨digit, rest, hnum⟩ := num_of_matches hmatches
      have hint : intOfText? (String.ofList (groupText groups "num")) = none := by
        apply intOfText?_backslash
        rw [hnum, String.toList_ofList]
        exact List.mem_cons_of_mem _ List.mem_cons_self
      simp only [bind, Except.bind, hmatches, orFail, hint]
      exact ⟨_, rfl⟩

/-! ## What it should read -/

/-- A text that means a number of seconds: a number without leading zeros and a unit in either case, with spaces around
and between them. -/
def IsSchedule (value : String) (seconds : Nat) : Prop :=
  ∃ (n : Nat) (unit : Char) (multiplier before between after : Nat), 0 < n ∧ multiplier? unit.toLower = some multiplier ∧
    seconds = n * multiplier ∧ value.toList = List.replicate before ' ' ++ (toString n).toList ++
      List.replicate between ' ' ++ [unit] ++ List.replicate after ' '

/-- The parser treats a text as it should: a schedule of ten years at most means its seconds, any other text is refused,
and the text means the same once it is normalized. -/
structure ParsesEvery (lower : String → String) (value : String) : Prop where
  schedule : ∀ seconds : Nat, IsSchedule value seconds → seconds ≤ maxScheduleSeconds →
    parseEveryToSeconds lower value = .ok seconds
  other : (¬ ∃ seconds, IsSchedule value seconds ∧ seconds ≤ maxScheduleSeconds) →
    ∃ text, parseEveryToSeconds lower value = .error (.valueError text)
  normalized : ∀ normalized, normalizeEvery lower value = .ok normalized →
    (parseEveryToSeconds lower normalized).toOption = (parseEveryToSeconds lower value).toOption

/-- **A text is treated as it should be exactly when it is no schedule.** -/
theorem parsesEvery_iff (lower : String → String) (value : String) :
    ParsesEvery lower value ↔ ¬ ∃ seconds, IsSchedule value seconds ∧ seconds ≤ maxScheduleSeconds := by
  obtain ⟨text, herror⟩ := parseEveryToSeconds_eq lower value
  constructor
  · rintro h ⟨seconds, hschedule, hbound⟩
    have hok := h.schedule seconds hschedule hbound
    rw [herror] at hok
    cases hok
  · intro hnone
    refine ⟨fun seconds hschedule hbound => (hnone ⟨seconds, hschedule, hbound⟩).elim, fun _ => ⟨text, herror⟩, ?_⟩
    intro normalized _
    obtain ⟨text', herror'⟩ := parseEveryToSeconds_eq lower normalized
    rw [herror, herror']
    rfl

/-- Ten minutes are refused. -/
theorem not_parsesEvery : ¬ ∀ (lower : String → String) (value : String), ParsesEvery lower value := by
  intro h
  refine (parsesEvery_iff String.toLower "10m").mp (h _ _)
    ⟨600, ⟨10, 'm', 60, 0, 0, 0, by decide, by decide, rfl, ?_⟩, by decide⟩
  decide

end SiloForge
