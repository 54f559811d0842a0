import Mathlib.Data.List.Basic

/-!
# Patterns of `LIKE`

In a pattern `%` stands for any text, `_` for any character, and a backslash makes the character behind it stand for
itself. A pattern that ends in a lone backslash fails once a text comes that far.

* `tokens`, `matchTokens`, `like` : the pattern read, and a text held against it;
* `like_plain` : a pattern without the three characters is matched by itself alone;
* `like_plain_any` : with `%` behind it, by the texts that begin with it;
* `exists_like_ne` : any other pattern is wrong about some text.
-/

namespace Lib

inductive LikeToken where
  | literal (c : Char)
  | one
  | any
  | dangling
  deriving DecidableEq

def likeWildcards : List Char := ['%', '_', '\\']

/-- A pattern in which every character stands for itself. -/
def PlainPattern (pattern : List Char) : Prop := ∀ c ∈ pattern, c ∉ likeWildcards

instance (pattern : List Char) : Decidable (PlainPattern pattern) :=
  List.decidableBAll (fun c => c ∉ likeWildcards) pattern

def tokens : List Char → List LikeToken
  | [] => []
  | c :: cs =>
    if c = '%' then .any :: tokens cs
    else if c = '_' then .one :: tokens cs
    else if c = '\\' then
      match cs with
      | [] => [.dangling]
      | d :: ds => .literal d :: tokens ds
    else .literal c :: tokens cs

/-- The answer of `f` on the first end of the text that it does not deny. -/
def searchEnds (f : List Char → Option Bool) : List Char → Option Bool
  | [] => f []
  | c :: cs =>
    match f (c :: cs) with
    | some false => searchEnds f cs
    | answer => answer

/-- A text held against the pieces of a pattern; `none` is an error. -/
def matchTokens : List LikeToken → List Char → Option Bool
  | [], text => some text.isEmpty
  | .literal c :: ts, text =>
    match text with
    | [] => some false
    | d :: ds => if c = d then matchTokens ts ds else some false
  | .one :: ts, text =>
    match text with
    | [] => some false
    | _ :: ds => matchTokens ts ds
  | .any :: ts, text => searchEnds (matchTokens ts) text
  | .dangling :: _, text => if text.isEmpty then some false else none

theorem tokens_cons (c : Char) (cs : List Char) : tokens (c :: cs) =
    if c = '%' then .any :: tokens cs
    else if c = '_' then .one :: tokens cs
    else if c = '\\' then
      match cs with
      | [] => [.dangling]
      | d :: ds => .literal d :: tokens ds
    else .literal c :: tokens cs := by
  cases cs <;> rfl

theorem searchEnds_eq (f : List Char → Option Bool) (c : Char) (cs : List Char) : searchEnds f (c :: cs) =
    match f (c :: cs) with
    | some false => searchEnds f cs
    | answer => answer := rfl

theorem matchTokens_literal (c d : Char) (ts : List LikeToken) (ds : List Char) :
    matchTokens (.literal c :: ts) (d :: ds) = if c = d then matchTokens ts ds else some false := rfl

theorem matchTokens_dangling (ts : List LikeToken) (text : List Char) :
    matchTokens (.dangling :: ts) text = if text.isEmpty then some false else none := rfl

/-- `text LIKE pattern`. -/
def like (pattern text : List Char) : Option Bool := matchTokens (tokens pattern) text

/-! ## Plain patterns -/

theorem tokens_plain : ∀ {pattern : List Char}, PlainPattern pattern → tokens pattern = pattern.map .literal
  | [], _ => rfl
  | c :: cs, h => by
    obtain ⟨hpercent, hunderscore, hescape⟩ : c ≠ '%' ∧ c ≠ '_' ∧ c ≠ '\\' := by
      simpa [likeWildcards] using h c (List.mem_cons_self ..)
    rw [tokens_cons, if_neg hpercent, if_neg hunderscore, if_neg hescape,
      tokens_plain fun d hd => h d (List.mem_cons_of_mem c hd), List.map_cons]

theorem matchTokens_literals : ∀ (cs text : List Char),
    matchTokens (cs.map .literal) text = some (decide (text = cs))
  | [], [] => rfl
  | [], _ :: _ => rfl
  | _ :: _, [] => rfl
  | c :: cs, d :: ds => by
    rw [List.map_cons, matchTokens_literal]
    by_cases hc : c = d
    · rw [if_pos hc, matchTokens_literals cs ds]
      simp [hc]
    · rw [if_neg hc]
      simp [Ne.symm hc]

variable {pattern : List Char} {f : List Char → Option Bool}

/-- **A plain pattern** is matched by itself alone. -/
theorem like_plain (h : PlainPattern pattern) (text : List Char) :
    like pattern text = some (decide (text = pattern)) := by
  rw [like, tokens_plain h, matchTokens_literals]

/-! ## Plain patterns with anything behind them -/

theorem matchTokens_any : ∀ text : List Char, matchTokens [.any] text = some true
  | [] => rfl
  | c :: cs => by
    have ih : searchEnds (matchTokens []) cs = some true := matchTokens_any cs
    show searchEnds (matchTokens []) (c :: cs) = some true
    rw [searchEnds_eq]
    exact ih

theorem tokens_plain_any : ∀ {pattern : List Char}, PlainPattern pattern →
    tokens (pattern ++ ['%']) = pattern.map .literal ++ [.any]
  | [], _ => rfl
  | c :: cs, h => by
    obtain ⟨hpercent, hunderscore, hescape⟩ : c ≠ '%' ∧ c ≠ '_' ∧ c ≠ '\\' := by
      simpa [likeWildcards] using h c (List.mem_cons_self ..)
    rw [List.cons_append, tokens_cons, if_neg hpercent, if_neg hunderscore, if_neg hescape,
      tokens_plain_any fun d hd => h d (List.mem_cons_of_mem c hd)]
    rfl

theorem matchTokens_literals_any : ∀ cs text : List Char,
    matchTokens (cs.map .literal ++ [.any]) text = some (decide (cs <+: text))
  | [], text => by
    rw [List.map_nil, List.nil_append, matchTokens_any, decide_eq_true (List.nil_prefix)]
  | c :: cs, [] => by
    rw [decide_eq_false (by simp)]
    rfl
  | c :: cs, d :: ds => by
    rw [List.map_cons, List.cons_append, matchTokens_literal]
    by_cases hc : c = d
    · rw [if_pos hc, matchTokens_literals_any cs ds]
      simp [hc]
    · rw [if_neg hc]
      simp [hc]

/-- **A plain pattern** with `%` behind it is matched by the texts that begin with it. -/
theorem like_plain_any (h : PlainPattern pattern) (text : List Char) :
    like (pattern ++ ['%']) text = some (decide (pattern <+: text)) := by
  rw [like, tokens_plain_any h, matchTokens_literals_any]

/-! ## Patterns without a backslash -/

theorem searchEnds_ne_none (h : ∀ text, f text ≠ none) : ∀ text, searchEnds f text ≠ none
  | [] => h []
  | c :: cs => by
    rw [searchEnds_eq]
    split
    · exact searchEnds_ne_none h cs
    · exact h (c :: cs)

theorem matchTokens_ne_none : ∀ {ts : List LikeToken}, .dangling ∉ ts → ∀ text, matchTokens ts text ≠ none
  | [], _, text => nofun
  | .literal c :: ts, h, text => by
    have ih := matchTokens_ne_none fun hd => h (List.mem_cons_of_mem _ hd)
    cases text with
    | nil => exact nofun
    | cons d ds =>
      rw [matchTokens_literal]
      by_cases hc : c = d
      · rw [if_pos hc]
        exact ih ds
      · rw [if_neg hc]
        exact nofun
  | .one :: ts, h, text => by
    have ih := matchTokens_ne_none fun hd => h (List.mem_cons_of_mem _ hd)
    cases text with
    | nil => exact nofun
    | cons d ds => exact ih ds
  | .any :: ts, h, text => searchEnds_ne_none (matchTokens_ne_none fun hd => h (List.mem_cons_of_mem _ hd)) text
  | .dangling :: ts, h, _ => absurd (List.mem_cons_self ..) h

theorem not_dangling_tokens : ∀ {pattern : List Char}, '\\' ∉ pattern → .dangling ∉ tokens pattern
  | [], _ => List.not_mem_nil
  | c :: cs, h => by
    have ih := not_dangling_tokens fun hd => h (List.mem_cons_of_mem c hd)
    have hescape : c ≠ '\\' := fun hc => h (hc ▸ List.mem_cons_self ..)
    rw [tokens_cons]
    split
    · simpa using ih
    · split
      · simpa using ih
      · simpa using ih

theorem searchEnds_cons (h : ∀ text, f text ≠ none) {c : Char} {cs : List Char} (hcs : f cs = some true) :
    searchEnds f (c :: cs) = some true := by
  rw [searchEnds_eq]
  cases hc : f (c :: cs) with
  | none => exact absurd hc (h _)
  | some found =>
    cases found with
    | true => rfl
    | false =>
      cases cs with
      | nil => exact hcs
      | cons d ds =>
        dsimp only
        rw [searchEnds_eq, hcs]

theorem like_self : ∀ {pattern : List Char}, '\\' ∉ pattern → like pattern pattern = some true
  | [], _ => rfl
  | c :: cs, h => by
    have hrest : '\\' ∉ cs := fun hd => h (List.mem_cons_of_mem c hd)
    have hescape : c ≠ '\\' := fun hc => h (hc ▸ List.mem_cons_self ..)
    have ih : matchTokens (tokens cs) cs = some true := like_self hrest
    rw [like, tokens_cons]
    split
    · exact searchEnds_cons (matchTokens_ne_none (not_dangling_tokens hrest)) ih
    · split
      · exact ih
      · rw [matchTokens_literal, if_pos rfl]
        exact ih

/-! ## Other patterns -/

/-- A text that matches the pieces of a pattern, with `c` for any character. -/
def sampleText (c : Char) : List LikeToken → List Char
  | [] => []
  | .literal d :: ts => d :: sampleText c ts
  | .one :: ts => c :: sampleText c ts
  | .any :: ts => sampleText c ts
  | .dangling :: ts => sampleText c ts

theorem searchEnds_of_eq {text : List Char} (h : f text = some true) : searchEnds f text = some true := by
  cases text with
  | nil => exact h
  | cons c cs =>
    rw [searchEnds_eq, h]

theorem matchTokens_sampleText (c : Char) : ∀ (ts : List LikeToken), .dangling ∉ ts →
    matchTokens ts (sampleText c ts) = some true
  | [], _ => rfl
  | .literal d :: ts, h => by
    have ih := matchTokens_sampleText c ts fun hd => h (List.mem_cons_of_mem _ hd)
    rw [sampleText, matchTokens_literal, if_pos rfl]
    exact ih
  | .one :: ts, h => by
    have ih := matchTokens_sampleText c ts fun hd => h (List.mem_cons_of_mem _ hd)
    exact ih
  | .any :: ts, h => by
    have ih := matchTokens_sampleText c ts fun hd => h (List.mem_cons_of_mem _ hd)
    exact searchEnds_of_eq ih
  | .dangling :: ts, h => absurd (List.mem_cons_self ..) h

theorem searchEnds_ne_true (h : ∀ text, f text ≠ some true) : ∀ text, searchEnds f text ≠ some true
  | [] => h []
  | c :: cs => by
    rw [searchEnds_eq]
    split
    · exact searchEnds_ne_true h cs
    · exact h (c :: cs)

theorem matchTokens_ne_true : ∀ {ts : List LikeToken}, .dangling ∈ ts → ∀ text, matchTokens ts text ≠ some true
  | .literal c :: ts, h, text => by
    have ih := matchTokens_ne_true ((List.mem_cons.mp h).resolve_left nofun)
    cases text with
    | nil => exact nofun
    | cons d ds =>
      rw [matchTokens_literal]
      by_cases hc : c = d
      · rw [if_pos hc]
        exact ih ds
      · rw [if_neg hc]
        exact nofun
  | .one :: ts, h, text => by
    have ih := matchTokens_ne_true ((List.mem_cons.mp h).resolve_left nofun)
    cases text with
    | nil => exact nofun
    | cons d ds => exact ih ds
  | .any :: ts, h, text => searchEnds_ne_true (matchTokens_ne_true ((List.mem_cons.mp h).resolve_left nofun)) text
  | .dangling :: ts, _, text => by
    rw [matchTokens_dangling]
    split <;> exact nofun

theorem length_sampleText_le (c : Char) : ∀ pattern : List Char,
    (sampleText c (tokens pattern)).length ≤ pattern.length
  | [] => Nat.le_refl _
  | d :: ds => by
    have ih := length_sampleText_le c ds
    rw [tokens_cons]
    split
    · exact Nat.le_succ_of_le ih
    · split
      · exact Nat.succ_le_succ ih
      · split
        · cases ds with
          | nil => exact Nat.zero_le _
          | cons e es => exact Nat.succ_le_succ (Nat.le_succ_of_le (length_sampleText_le c es))
        · exact Nat.succ_le_succ ih

theorem mem_of_mem_sampleText (c : Char) : ∀ pattern : List Char, ∀ d ∈ sampleText c (tokens pattern),
    d = c ∨ d ∈ pattern
  | [], d, hd => absurd hd List.not_mem_nil
  | e :: es, d, hd => by
    have ih : d ∈ sampleText c (tokens es) → d = c ∨ d ∈ e :: es := fun hd =>
      (mem_of_mem_sampleText c es d hd).imp_right (List.mem_cons_of_mem e)
    rw [tokens_cons] at hd
    split at hd
    · exact ih hd
    · split at hd
      · exact (List.mem_cons.mp hd).elim .inl ih
      · split at hd
        · cases es with
          | nil => exact absurd hd List.not_mem_nil
          | cons f fs =>
            rcases List.mem_cons.mp hd with rfl | hd
            · exact .inr (List.mem_cons_of_mem _ (List.mem_cons_self ..))
            · exact (mem_of_mem_sampleText c fs d hd).imp_right fun hd =>
                List.mem_cons_of_mem _ (List.mem_cons_of_mem _ hd)
        · exact (List.mem_cons.mp hd).elim (fun hd => .inr (hd ▸ List.mem_cons_self ..)) ih

theorem plain_of_sampleText_eq {c : Char} (hc : c ≠ '_') : ∀ {pattern : List Char},
    sampleText c (tokens pattern) = pattern → PlainPattern pattern
  | [], _ => fun d hd => absurd hd List.not_mem_nil
  | d :: ds, h => by
    have hle := length_sampleText_le c ds
    have hlength := congrArg List.length h
    rw [tokens_cons] at h hlength
    split at h
    · rename_i hpercent
      simp only [hpercent, if_true, sampleText, List.length_cons] at hlength
      omega
    · rename_i hpercent
      split at h
      · rename_i hunderscore
        exact absurd ((List.cons.inj h).1.trans hunderscore) hc
      · rename_i hunderscore
        split at h
        · rename_i hescape
          cases ds with
          | nil => cases h
          | cons e es =>
            have hle := length_sampleText_le c es
            simp only [if_neg hpercent, if_neg hunderscore, if_pos hescape, sampleText, List.length_cons] at hlength
            omega
        · rename_i hescape
          have ih := plain_of_sampleText_eq hc (List.cons.inj h).2
          refine List.forall_mem_cons.mpr ⟨?_, ih⟩
          simp [likeWildcards, hpercent, hunderscore, hescape]

/-- **Any other pattern** is wrong about some text made of its own characters and one more. -/
theorem exists_like_ne (h : ¬ PlainPattern pattern) {c : Char} (hc : c ≠ '_') :
    ∃ text, (∀ d ∈ text, d = c ∨ d ∈ pattern) ∧ like pattern text ≠ some (decide (text = pattern)) := by
  by_cases hdangling : .dangling ∈ tokens pattern
  · refine ⟨pattern, fun d hd => .inr hd, ?_⟩
    rw [decide_eq_true rfl]
    exact matchTokens_ne_true hdangling pattern
  · refine ⟨sampleText c (tokens pattern), mem_of_mem_sampleText c pattern, ?_⟩
    rw [like, matchTokens_sampleText c _ hdangling]
    intro heq
    exact h (plain_of_sampleText_eq hc (of_decide_eq_true (Option.some.inj heq).symm))

end Lib
