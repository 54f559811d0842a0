import SiloForge.Lib.Dicts
import SiloForge.Openclaw.ToolsFile
import SiloForge.Skills.Urls

/-!
# The skills of a repository

A pack is cloned, and its skills are those of its index, or those of its files SKILL.md where there is no index.

* `collectPackSkillsFromIndex`, `collectPackSkillsFromRepo` : the candidates in a checkout;
* `collectPackSkillsWithWarnings` : the clone, and what is found in it;
* `collectPackSkillsWithWarnings_nodup` : no two candidates have one URL.
-/

namespace SiloForge.Skills

open Lib

def normalizePackBranch (rawBranch : Url) : Url :=
  let normalized := stripSpaces rawBranch
  let isAllowed := fun c : Char => c.isAlphanum || c = '.' || c = '_' || c = '/' || c = '-'
  if normalized = [] then "main".toList
  else if normalized.any (fun c => c = '\n' || c = '\r' || c = '\t') = true then "main".toList
  else if normalized.all isAllowed = true then normalized
  else "main".toList

/-- A skill found in the repository of a pack. Its metadata hold texts only. -/
structure PackSkillCandidate where
  name : String
  description : Option String := none
  sourceUrl : Url
  category : Option String := none
  risk : Option String := none
  source : Option String := none
  metadata : Dict String String := ∅

/-! ## Names and paths -/

/-- What names are read from: the texts of URLs, and `unquote`. -/
structure NameTexts extends UrlTexts where
  unquote : Url → Url

def spaced (name : Url) : Url := name.map fun c => if c = '-' ∨ c = '_' then ' ' else c

def removeDotGit (name : Url) : Url := if dotGit <:+ name then name.take (name.length - dotGit.length) else name

def inferSkillName (texts : NameTexts) (sourceUrl : Url) : Except String Url := do
  let parsed ← urlparse texts.toUrlTexts sourceUrl
  let path := stripSlashes parsed.path
  let candidate := if path = [] then parsed.netloc else path.rtakeWhile (· ≠ '/')
  let name := stripSpaces (spaced (removeDotGit (texts.unquote candidate)))
  return if name = [] then "Skill".toList else name

def dropDotSlash : Url → Url
  | '.' :: '/' :: cs => dropDotSlash cs
  | cs => cs

/-- Without a file SKILL.md at its end. -/
def normalizeRepoPath (texts : UrlTexts) (pathValue : Url) : Url :=
  let slashed := (stripSpaces pathValue).map fun c => if c = '\\' then '/' else c
  let cleaned := stripSlashes ((dropDotSlash slashed).dropWhile (· = '/'))
  let lowered := texts.lower cleaned
  if "/skill.md".toList <:+ lowered then
    if '/' ∈ cleaned then (cleaned.rdropWhile (· ≠ '/')).dropLast else cleaned
  else if lowered = "skill.md".toList then []
  else cleaned

/-- `Path(path).name`. -/
def pathName (path : Url) : Url :=
  ((path.splitOn '/').filter fun part => part ≠ [] ∧ part ≠ ['.']).getLast?.getD []

/-! ## The index -/

/-- `isinstance(value, str) and value.strip()`, with the value as it stands. -/
def filledText (entry : List (String × Json)) (k : String) : Option Url :=
  match Json.lookup entry k with
  | some (.str s) => if stripSpaces s.toList = [] then none else some s.toList
  | _ => none

def indexedLabel (entry : List (String × Json)) (k : String) : Option String :=
  (filledText entry k).map fun text => String.ofList (stripSpaces text)

/-- The part of a URL path behind "/tree/" and the branch. -/
def treePath (path : Url) : Option Url :=
  match splitFirst treeMarker path with
  | none => none
  | some (before, suffix) => if before = [] then none else some ((suffix.dropWhile (· ≠ '/')).drop 1)

/-- Where an entry of the index says its skill is. -/
structure IndexedSource where
  sourceUrl : Option Url := none
  path : Option Url := none
  metadata : Dict String String

def indexedSource (texts : UrlTexts) (sourceUrl branch relPath : Url) (entry : List (String × Json)) :
    Except String IndexedSource := do
  let metadata : Dict String String := (Dict.set ∅ "discovery_mode" "skills_index").set "pack_branch" (String.ofList branch)
  let path := if relPath = [] then none else some relPath
  match filledText entry "source_url", filledText entry "path" with
  | some source, _ =>
    let candidate := stripSpaces source
    let metadata := metadata.set "source_url" (String.ofList candidate)
    if "https://".toList <+: candidate ∨ "http://".toList <+: candidate then
      let parsed ← urlparse texts candidate
      return { sourceUrl := some candidate, path := ((treePath parsed.path).map (normalizeRepoPath texts)).or path,
               metadata }
    else
      let indexedRel := normalizeRepoPath texts candidate
      return { sourceUrl := if indexedRel = [] then none else some (toTreeSourceUrl sourceUrl branch indexedRel),
               path := path.or (some indexedRel), metadata := metadata.set "resolved_path" (String.ofList indexedRel) }
  | none, some _ =>
    return { sourceUrl := some (toTreeSourceUrl sourceUrl branch relPath), path,
             metadata := metadata.set "resolved_path" (String.ofList relPath) }
  | none, none => return { path, metadata }

/-- An entry without a place to be found at is passed over; a URL that cannot be parsed is an error. -/
def indexedCandidate (texts : NameTexts) (sourceUrl branch : Url) (entry : List (String × Json)) :
    Except String (Option PackSkillCandidate) := do
  let relPath := ((filledText entry "path").map (normalizeRepoPath texts.toUrlTexts)).getD []
  let source ← indexedSource texts.toUrlTexts sourceUrl branch relPath entry
  match source.sourceUrl with
  | none => return none
  | some candidateUrl =>
    let name ← match filledText entry "name" with
      | some name => pure (stripSpaces name)
      | none => inferSkillName texts (if relPath = [] then "Skill".toList else pathName relPath)
    return some
      { name := String.ofList name, description := indexedLabel entry "description", sourceUrl := candidateUrl,
        category := indexedLabel entry "category", risk := indexedLabel entry "risk",
        source := source.path.map String.ofList, metadata := source.metadata }

/-- The candidates by their URLs; a later one takes the place of an earlier one. -/
abbrev Found := Dict Url PackSkillCandidate

def Found.add (found : Found) (candidate : PackSkillCandidate) : Found := Dict.set found candidate.sourceUrl candidate

def addIndexed (texts : NameTexts) (sourceUrl branch : Url) (found : Found) (entry : Json) : Except String Found :=
  match entry with
  | .obj fields => do
    match ← indexedCandidate texts sourceUrl branch fields with
    | none => return found
    | some candidate => return found.add candidate
  | _ => return found

/-! ## The files -/

/-- A file SKILL.md: its directory in the repository, and its lines, unless it cannot be read. -/
structure SkillFile where
  dir : List Url
  lines : Option (List Url)

/-- `line.split(":", maxsplit=1)[-1].strip().strip("\"'")`. -/
def fieldValue (line : Url) : Url :=
  let isQuote := fun c : Char => c = '"' || c = '\''
  ((stripSpaces ((line.dropWhile (· ≠ ':')).drop 1)).dropWhile isQuote).rdropWhile isQuote

def firstDescription (texts : UrlTexts) (inFrontmatter : Bool) : List Url → Option Url
  | [] => none
  | line :: lines =>
    if line = "---".toList then firstDescription texts (!inFrontmatter) lines
    else if inFrontmatter then
      if "description:".toList <+: texts.lower line then
        if fieldValue line = [] then none else some (fieldValue line)
      else firstDescription texts inFrontmatter lines
    else if line = [] ∨ line.head? = some '#' then firstDescription texts inFrontmatter lines
    else some line

def inferSkillDescription (texts : UrlTexts) (file : SkillFile) : Option Url :=
  file.lines.bind fun lines => firstDescription texts false (lines.map stripSpaces)

def frontmatterName (texts : UrlTexts) (inFrontmatter : Bool) : List Url → Option Url
  | [] => none
  | line :: lines =>
    if line = "---".toList then frontmatterName texts (!inFrontmatter) lines
    else if inFrontmatter = true ∧ "name:".toList <+: texts.lower line ∧ fieldValue line ≠ [] then some (fieldValue line)
    else frontmatterName texts inFrontmatter lines

def heading (line : Url) : Option Url :=
  if line.head? = some '#' then
    let heading := stripSpaces (line.dropWhile (· = '#'))
    if heading = [] then none else some heading
  else none

def inferSkillDisplayName (texts : UrlTexts) (file : SkillFile) (fallback : Url) : Url :=
  let lines := (file.lines.getD []).map stripSpaces
  let normalizedFallback := stripSpaces (spaced fallback)
  match (frontmatterName texts false lines).or (lines.findSome? heading) with
  | some name => name
  | none => if normalizedFallback = [] then "Skill".toList else normalizedFallback

def fallbackName (texts : NameTexts) (sourceUrl : Url) (file : SkillFile) : Except String Url :=
  match file.dir.getLast? with
  | none => inferSkillName texts sourceUrl
  | some part => return part

/-- A file in a hidden directory is passed over. -/
def addFile (texts : NameTexts) (sourceUrl branch : Url) (found : Found) (file : SkillFile) : Except String Found := do
  if file.dir.any (fun part => part.head? = some '.') = true then return found
  let relDir := ['/'].intercalate file.dir
  let fallback ← fallbackName texts sourceUrl file
  return found.add
    { name := String.ofList (inferSkillDisplayName texts.toUrlTexts file fallback),
      description := (inferSkillDescription texts.toUrlTexts file).map String.ofList,
      sourceUrl := toTreeSourceUrl sourceUrl branch relDir,
      metadata := ((Dict.set ∅ "discovery_mode" "skills_md").set "pack_branch" (String.ofList branch)).set "skill_dir"
        (String.ofList relDir) }

/-! ## The checkout -/

/-- Why reading the index failed: `OSError`, or the text of the reader's error. -/
inductive IndexError where
  | unreadable
  | malformed (text : String)

/-- What a clone leaves behind: what the index reads as, if there is one, the files SKILL.md in order, and the branch
that is checked out, if git tells. -/
structure Checkout where
  index : Option (Except IndexError (List Json))
  files : List SkillFile
  head : Option Url

/-- `ValueError`, and `RuntimeError`. -/
inductive PackError where
  | value (text : String)
  | runtime (text : String)
  deriving DecidableEq

structure Discovery where
  candidates : List PackSkillCandidate
  warnings : List String := []

/-- No candidates when there is no index, or none that can be read. -/
def collectPackSkillsFromIndex (texts : NameTexts) (checkout : Checkout) (sourceUrl branch : Url) :
    Except PackError (Option Found × List String) :=
  match checkout.index with
  | none => return (none, [])
  | some (.error .unreadable) => throw (.runtime "unable to read skills_index.json")
  | some (.error (.malformed text)) => return (none, ["Failed to parse skills_index.json: " ++ text])
  | some (.ok entries) => do
    let found ← (entries.foldlM (addIndexed texts sourceUrl branch) ∅).mapError PackError.value
    return (some found, [])

def collectPackSkillsFromRepo (texts : NameTexts) (checkout : Checkout) (sourceUrl branch : Url) :
    Except PackError Discovery := do
  let (indexed, warnings) ← collectPackSkillsFromIndex texts checkout sourceUrl branch
  match indexed with
  | some found => return { candidates := found.values, warnings }
  | none =>
    let found ← (checkout.files.foldlM (addFile texts sourceUrl branch) ∅).mapError PackError.value
    return { candidates := found.values, warnings }

/-! ## The clone -/

/-- Why a clone failed; git may have told. -/
inductive CloneError where
  | noGit
  | timeout
  | failed (stderr : Url)

/-- `git clone` of a URL, on a branch or on the default one. -/
structure Git where
  clone : Url → Option Url → Except CloneError Checkout

def unableToClone (stderr : Url) : PackError :=
  let detail := "unable to clone pack repository"
  let shown := stripSpaces stderr
  .runtime (if shown = [] then detail
    else detail ++ ": " ++ String.ofList ((shown.takeWhile fun c => !isLineBreak c).take 200))

/-- The checkout, with the branch that was asked for in the clone that went through. A branch that cannot be cloned is
given up for the default one. -/
def clonePack (git : Git) (sourceUrl requestedBranch : Url) : Except PackError (Checkout × Option Url) :=
  match git.clone sourceUrl (some requestedBranch) with
  | .ok checkout => return (checkout, some requestedBranch)
  | .error .noGit => throw (.runtime "git binary not available on the server")
  | .error .timeout => throw (.runtime "timed out cloning pack repository")
  | .error (.failed stderr) =>
    if requestedBranch ≠ "main".toList then
      match git.clone sourceUrl none with
      | .ok checkout => return (checkout, none)
      | .error _ => throw (unableToClone stderr)
    else throw (unableToClone stderr)

/-- The candidates, with the branch that was cloned. -/
def collectPackSkillsWithWarnings (texts : NameTexts) (git : Git) (sourceUrl branch : Url) :
    Except PackError (Discovery × Option Url) := do
  (validatePackSourceUrl texts.toUrlTexts sourceUrl).mapError PackError.value
  let requestedBranch := normalizePackBranch branch
  let (checkout, cloned) ← clonePack git sourceUrl requestedBranch
  let usedBranch := cloned.getD "main".toList
  let discovery ← collectPackSkillsFromRepo texts checkout sourceUrl
    (normalizePackBranch ((checkout.head.map stripSpaces).getD usedBranch))
  return (discovery, cloned)

/-! ## One candidate for each URL -/

/-- What is found under a URL is a candidate of that URL. -/
def Found.Named (found : Found) : Prop := ∀ entry ∈ found, entry.value.sourceUrl = entry.name

section Named
variable {texts : NameTexts} {git : Git} {sourceUrl branch : Url} {found found' : Found}

theorem Found.Named.add (h : found.Named) (candidate : PackSkillCandidate) : (found.add candidate).Named := by
  intro entry hentry
  obtain rfl | hentry := Dict.mem_set hentry
  · rfl
  · exact h entry hentry

theorem Found.Named.nodup (h : found.Named) : (found.values.map PackSkillCandidate.sourceUrl).Nodup := by
  have hnames : found.values.map PackSkillCandidate.sourceUrl = found.rows.map key := by
    unfold Dict.values
    rw [List.map_map]
    exact List.map_congr_left h
  rw [hnames]
  exact found.nodup

theorem foldlM_named {α : Type} {step : Found → α → Except String Found}
    (hstep : ∀ {found found' a}, Found.Named found → step found a = .ok found' → Found.Named found') {as : List α}
    (h : as.foldlM step ∅ = .ok found') : found'.Named := by
  suffices hall : ∀ {found : Found}, found.Named → as.foldlM step found = .ok found' → found'.Named from
    hall (fun entry hentry => absurd hentry (Table.not_mem_empty entry)) h
  clear h
  intro found hfound h
  induction as generalizing found with
  | nil =>
    obtain rfl := pure_eq_ok.mp h
    exact hfound
  | cons a as ih =>
    rw [List.foldlM_cons] at h
    obtain ⟨found₁, hfirst, hrest⟩ := bind_eq_ok.mp h
    exact ih (hstep hfound hfirst) hrest

theorem addIndexed_named {entry : Json} (hfound : found.Named)
    (h : addIndexed texts sourceUrl branch found entry = .ok found') : found'.Named := by
  unfold addIndexed at h
  split at h
  · obtain ⟨candidate, -, h⟩ := bind_eq_ok.mp h
    cases candidate with
    | none =>
      obtain rfl := pure_eq_ok.mp h
      exact hfound
    | some candidate =>
      obtain rfl := pure_eq_ok.mp h
      exact hfound.add candidate
  · obtain rfl := pure_eq_ok.mp h
    exact hfound

theorem addFile_named {file : SkillFile} (hfound : found.Named)
    (h : addFile texts sourceUrl branch found file = .ok found') : found'.Named := by
  unfold addFile at h
  split at h
  · obtain rfl := pure_eq_ok.mp h
    exact hfound
  · obtain ⟨fallback, -, h⟩ := bind_eq_ok.mp h
    obtain rfl := pure_eq_ok.mp h
    exact hfound.add _

variable {discovery : Discovery}

theorem collectPackSkillsFromRepo_nodup {checkout : Checkout}
    (h : collectPackSkillsFromRepo texts checkout sourceUrl branch = .ok discovery) :
    (discovery.candidates.map PackSkillCandidate.sourceUrl).Nodup := by
  obtain ⟨⟨indexed, warnings⟩, hindex, h⟩ := bind_eq_ok.mp h
  cases indexed with
  | some found =>
    obtain rfl := pure_eq_ok.mp h
    refine Found.Named.nodup ?_
    unfold collectPackSkillsFromIndex at hindex
    split at hindex
    · cases hindex
    · cases hindex
    · cases hindex
    · obtain ⟨found', hfound, heq⟩ := bind_eq_ok.mp hindex
      obtain ⟨hsame, -⟩ := Prod.mk.inj (pure_eq_ok.mp heq)
      obtain rfl := Option.some.inj hsame
      exact foldlM_named addIndexed_named (mapError_eq_ok.mp hfound)
  | none =>
    obtain ⟨found, hfound, h⟩ := bind_eq_ok.mp h
    obtain rfl := pure_eq_ok.mp h
    exact (foldlM_named addFile_named (mapError_eq_ok.mp hfound)).nodup

/-- **No two candidates** have one URL. -/
theorem collectPackSkillsWithWarnings_nodup {cloned : Option Url}
    (h : collectPackSkillsWithWarnings texts git sourceUrl branch = .ok (discovery, cloned)) :
    (discovery.candidates.map PackSkillCandidate.sourceUrl).Nodup := by
  obtain ⟨-, h⟩ := then_eq_ok.mp h
  obtain ⟨⟨checkout, cloned'⟩, -, h⟩ := bind_eq_ok.mp h
  obtain ⟨discovery', hdiscovery, h⟩ := bind_eq_ok.mp h
  obtain ⟨rfl, -⟩ := Prod.mk.inj (pure_eq_ok.mp h)
  exact collectPackSkillsFromRepo_nodup hdiscovery

theorem cloned_main {cloned : Option Url} (hbranch : normalizePackBranch branch = "main".toList)
    (h : collectPackSkillsWithWarnings texts git sourceUrl branch = .ok (discovery, cloned)) :
    cloned = some "main".toList := by
  obtain ⟨-, h⟩ := then_eq_ok.mp h
  obtain ⟨⟨checkout, cloned'⟩, hclone, h⟩ := bind_eq_ok.mp h
  obtain ⟨discovery', -, h⟩ := bind_eq_ok.mp h
  obtain ⟨-, rfl⟩ := Prod.mk.inj (pure_eq_ok.mp h)
  rw [hbranch] at hclone
  unfold clonePack at hclone
  split at hclone
  · exact (Prod.mk.inj (pure_eq_ok.mp hclone)).2.symm
  · cases hclone
  · cases hclone
  · rw [if_neg (not_not_intro rfl)] at hclone
    cases hclone

end Named

end SiloForge.Skills
