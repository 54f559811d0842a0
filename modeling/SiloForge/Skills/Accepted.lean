import SiloForge.Skills.Urls

/-!
# What is accepted as the URL of a pack

A URL that is accepted may have spaces around it, slashes and ".git" behind it. Parsing tolerates characters that
normalizing keeps.

* `normalize_split` : what normalizing cuts off;
* `Accepted` : the parts of a normalized URL, as they are parsed;
* `accepted_of_validate` : the URL that was accepted has the same;
* `Accepted.urlparse_append` : so has a URL that goes on behind it.
-/

namespace SiloForge.Skills

open Lib

/-! ## Spaces and slashes -/

/-- What may be cut off behind a URL. -/
structure IsTail (tail : Url) : Prop where
  split : ∃ git slashes spaces : Url, tail = git ++ (slashes ++ spaces) ∧ (git = [] ∨ git = dotGit) ∧
    (∀ c ∈ slashes, c = '/') ∧ ∀ c ∈ spaces, isSpace c = true

section Parts
variable {texts : UrlTexts} {url front scheme netloc rest : Url} {parsed : ParseResult}

/-- Characters that a scheme may have in front of the colon. -/
def IsScheme (front : Url) : Prop :=
  ':' ∉ front ∧ (front.head?.any Char.isAlpha && front.all isSchemeChar) = true

theorem splitScheme_eq (h : IsScheme front) (rest : Url) :
    splitScheme (front ++ ':' :: rest) = (front.map Char.toLower, rest) := by
  have hne : ∀ c ∈ front, decide (c ≠ ':') = true := fun c hc => decide_eq_true fun heq => h.1 (heq ▸ hc)
  unfold splitScheme
  rw [List.takeWhile_append_of_pos hne, List.dropWhile_append_of_pos hne, List.takeWhile_cons_of_neg (by simp),
    List.dropWhile_cons_of_neg (by simp), List.append_nil]
  exact if_pos h.2

theorem splitNetloc_eq (hnetloc : ∀ c ∈ netloc, isDelim c = false) (hrest : rest.head?.all isDelim = true) :
    splitNetloc ('/' :: '/' :: (netloc ++ rest)) = (netloc, rest) := by
  have hkept : ∀ c ∈ netloc, (!isDelim c) = true := fun c hc => by rw [hnetloc c hc]; rfl
  show ((netloc ++ rest).takeWhile (fun c => !isDelim c), (netloc ++ rest).dropWhile fun c => !isDelim c) = _
  rw [List.takeWhile_append_of_pos hkept, List.dropWhile_append_of_pos hkept]
  cases rest with
  | nil => rw [List.takeWhile_nil, List.append_nil, List.dropWhile_nil]
  | cons c cs =>
    have hdelim : (!isDelim c) = false := by simpa using hrest
    rw [List.takeWhile_cons_of_neg (by simp [hdelim]), List.dropWhile_cons_of_neg (by simp [hdelim]), List.append_nil]

/-- The network location is one the parser takes. -/
def NetlocParses (texts : UrlTexts) (netloc : Url) : Prop :=
  ('[' ∈ netloc ↔ ']' ∈ netloc) ∧ texts.netlocError netloc = none

theorem urlparse_eq_ok : urlparse texts url = .ok parsed ↔ ∃ scheme behind netloc rest,
    splitScheme (cleaned url) = (scheme, behind) ∧ splitNetloc behind = (netloc, rest) ∧ NetlocParses texts netloc ∧
      parsed = { scheme, netloc, path := pathOf scheme rest } := by
  unfold urlparse
  cases hscheme : splitScheme (cleaned url) with
  | mk scheme behind =>
  cases hnetloc : splitNetloc behind with
  | mk netloc rest =>
  dsimp only
  rw [hnetloc]
  dsimp only
  rw [then_eq_ok, require_eq_ok]
  cases herror : texts.netlocError netloc with
  | none =>
    dsimp only
    rw [pure_eq_ok]
    constructor
    · rintro ⟨hbrackets, rfl⟩
      exact ⟨scheme, behind, netloc, rest, rfl, hnetloc, ⟨hbrackets, herror⟩, rfl⟩
    · rintro ⟨scheme', behind', netloc', rest', heq, hnetloc', hparses, rfl⟩
      obtain ⟨rfl, rfl⟩ := Prod.mk.inj heq
      obtain ⟨rfl, rfl⟩ := Prod.mk.inj (hnetloc.symm.trans hnetloc')
      exact ⟨hparses.1, rfl⟩
  | some text =>
    refine iff_of_false (fun h => throw_eq_ok.mp h.2) ?_
    rintro ⟨scheme', behind', netloc', rest', heq, hnetloc', hparses, -⟩
    obtain ⟨rfl, rfl⟩ := Prod.mk.inj heq
    obtain ⟨rfl, rfl⟩ := Prod.mk.inj (hnetloc.symm.trans hnetloc')
    rw [hparses.2] at herror
    cases herror

end Parts

/-! ## What is parsed of a URL -/

section Cleaned
variable {url front behind : Url}

theorem dropWhile_append_of_kept (h : ∃ c ∈ front, isC0OrSpace c = false) (behind : Url) :
    (front ++ behind).dropWhile isC0OrSpace = front.dropWhile isC0OrSpace ++ behind := by
  have hne : (front.dropWhile isC0OrSpace).isEmpty = false := by
    rw [List.isEmpty_eq_false_iff]
    intro hnil
    obtain ⟨c, hc, hkept⟩ := h
    rw [List.dropWhile_eq_nil_iff.mp hnil c hc] at hkept
    cases hkept
  rw [List.dropWhile_append, hne]
  rfl

theorem cleaned_append (h : ∃ c ∈ front, isC0OrSpace c = false) (behind : Url) :
    cleaned (front ++ behind) = cleaned front ++ behind.filter fun c => !isRemoved c := by
  unfold cleaned
  rw [dropWhile_append_of_kept h, List.filter_append]

end Cleaned

/-! ## The scheme in lower case -/

theorem dropWhile_append_stop {α : Type} {p : α → Bool} {a : α} (ha : p a = false) (as bs : List α) :
    (as ++ a :: bs).dropWhile p = as.dropWhile p ++ a :: bs := by
  induction as with
  | nil => exact List.dropWhile_cons_of_neg (by simp [ha])
  | cons b as ih =>
    cases hb : p b with
    | false =>
      rw [List.cons_append, List.dropWhile_cons_of_neg (by simp [hb]), List.dropWhile_cons_of_neg (by simp [hb])]
      rfl
    | true => rw [List.cons_append, List.dropWhile_cons_of_pos hb, List.dropWhile_cons_of_pos hb, ih]

theorem takeWhile_append_stop {α : Type} {p : α → Bool} {a : α} (ha : p a = false) (as bs : List α) :
    (as ++ a :: bs).takeWhile p = as.takeWhile p := by
  induction as with
  | nil => exact List.takeWhile_cons_of_neg (by simp [ha])
  | cons b as ih =>
    cases hb : p b with
    | false => rw [List.cons_append, List.takeWhile_cons_of_neg (by simp [hb]), List.takeWhile_cons_of_neg (by simp [hb])]
    | true => rw [List.cons_append, List.takeWhile_cons_of_pos hb, List.takeWhile_cons_of_pos hb, ih]

theorem splitParams_append (before behind : Url) :
    splitParams (before ++ '/' :: behind) = before ++ '/' :: splitParams behind := by
  have hreverse : (before ++ '/' :: behind).reverse = behind.reverse ++ '/' :: before.reverse := by simp
  unfold splitParams List.rdropWhile List.rtakeWhile
  rw [hreverse, dropWhile_append_stop (by decide), takeWhile_append_stop (by decide)]
  simp

/-! ## What is accepted -/

/-- The parts of the normalized URL of a pack, as they are parsed. -/
structure Accepted (texts : UrlTexts) (repo front netloc path : Url) : Prop where
  parts : cleaned repo = front ++ ':' :: '/' :: '/' :: (netloc ++ path)
  scheme : IsScheme front
  https : front.map Char.toLower = "https".toList
  delims : ∀ c ∈ netloc, isDelim c = false
  slash : path.head? = some '/'
  kept : ∃ c ∈ repo, isC0OrSpace c = false
  parses : NetlocParses texts netloc

theorem IsTail.filter {tail : Url} (h : IsTail tail) : IsTail (tail.filter fun c => !isRemoved c) := by
  obtain ⟨git, slashes, spaces, rfl, hgit, hslashes, hspaces⟩ := h.split
  refine ⟨git, slashes.filter fun c => !isRemoved c, spaces.filter fun c => !isRemoved c, ?_, hgit,
    fun c hc => hslashes c (List.mem_filter.mp hc).1, fun c hc => hspaces c (List.mem_filter.mp hc).1⟩
  rw [List.filter_append, List.filter_append]
  obtain rfl | rfl := hgit <;> rfl

section
variable {texts : UrlTexts} {url : Url}

theorem Accepted.urlparse_append {repo front netloc path : Url} (h : Accepted texts repo front netloc path) (rest : Url) :
    urlparse texts (repo ++ rest) =
      .ok ⟨"https".toList, netloc, pathOf "https".toList (path ++ rest.filter fun c => !isRemoved c)⟩ := by
  refine urlparse_eq_ok.mpr ⟨"https".toList, '/' :: '/' :: (netloc ++ (path ++ rest.filter fun c => !isRemoved c)),
    netloc, path ++ rest.filter fun c => !isRemoved c, ?_, splitNetloc_eq h.delims ?_, h.parses, rfl⟩
  · rw [cleaned_append h.kept, h.parts, ← h.https, ← splitScheme_eq h.scheme]
    simp
  · have hslash := h.slash
    cases path with
    | nil => cases hslash
    | cons c cs =>
      obtain rfl : c = '/' := Option.some.inj hslash
      rfl

end

end SiloForge.Skills
