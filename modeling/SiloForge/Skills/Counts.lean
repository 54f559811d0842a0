import SiloForge.Lib.Dicts
import SiloForge.Skills.Rows

/-!
# Counts and listings of packs

A pack is shown with the number of the skills whose URLs have its repository as their base. The listing of a pack takes
the skills whose URLs match the URL of the pack with anything behind it.

* `getSkillPack`, `listMarketplaceSkills` : the two endpoints;
* `strays` : the skills that match the URL of the pack and have another base, or none;
* `missed` : the skills that have the base and do not match;
* `countsAgree_iff` : the numbers agree exactly when there are as many of the ones as of the others.
-/

namespace SiloForge.Skills

open Lib

/-! ## The count -/

/-- One skill more; a URL that cannot be parsed fails the request. -/
def countSkill (texts : UrlTexts) (counts : Dict Url Nat) (skill : MarketplaceSkill) : Except Failure (Dict Url Nat) := do
  let repoBase ← (repoBaseFromTreeSourceUrl texts skill.sourceUrl).mapError Failure.valueError
  match repoBase with
  | none => return counts
  | some repoBase => return counts.increment repoBase

def buildSkillCountByRepo (texts : UrlTexts) (skills : List MarketplaceSkill) : Except Failure (Dict Url Nat) :=
  skills.foldlM (countSkill texts) ∅

def packSkillCount (pack : SkillPackRow) (countByRepo : Dict Url Nat) : Nat :=
  countByRepo.count (normalizeRepoSourceUrl pack.sourceUrl)

structure SkillPackRead where
  pack : SkillPackRow
  skillCount : Nat
  deriving DecidableEq

/-- A pack without a branch is shown on "main". -/
def asSkillPackReadWithCount (pack : SkillPackRow) (countByRepo : Dict Url Nat) : SkillPackRead where
  pack := { pack with branch := if pack.branch = "" then "main" else pack.branch }
  skillCount := packSkillCount pack countByRepo

def getSkillPack (texts : UrlTexts) (db : SkillsDb) (organizationId packId : Uuid) : Except Failure SkillPackRead := do
  let pack ← requireSkillPackForOrg db organizationId packId
  let countByRepo ← buildSkillCountByRepo texts (db.skillsOf organizationId)
  return asSkillPackReadWithCount pack countByRepo

/-! ## The listing -/

structure SkillsQuery where
  search : Option String := none
  category : Option String := none
  risk : Option String := none
  packId : Option Uuid := none
  limit : Option Nat := none
  offset : Nat := 0

/-- `func.trim`. -/
def sqlTrim (text : String) : String :=
  String.ofList ((text.toList.dropWhile (· = ' ')).rdropWhile (· = ' '))

/-- `(value or "").strip().lower()`. -/
def normalizedFilter (texts : UrlTexts) (value : Option String) : List Char :=
  texts.lower (stripSpaces (value.getD "").toList)

/-- `text ILIKE pattern`, for a text that may be absent; a pattern that ends in `%` never fails. -/
def isLike (casing : LetterCase) (pattern : List Char) (text : Option String) : Bool :=
  text.any fun text => casing.ilike (String.ofList pattern) text = some true

/-- The rows without a value, or with the value asked for. -/
def keepsLabel (casing : LetterCase) (asked : List Char) (label : Option String) : Bool :=
  if asked = [] then true
  else if asked = "uncategorized".toList then label.all fun label => sqlTrim label = ""
  else label.any fun label => casing.lowerText (sqlTrim label) = asked

/-- A row without a risk counts as one with an empty risk. -/
def keepsRisk (casing : LetterCase) (asked : List Char) (risk : Option String) : Bool :=
  if asked = [] then true
  else if asked = "uncategorized".toList then risk.all fun risk => sqlTrim risk = ""
  else casing.lowerText (sqlTrim (risk.getD "")) = asked

def keepsSearch (casing : LetterCase) (search : Option String) (skill : MarketplaceSkill) : Bool :=
  let normalizedSearch := stripSpaces (search.getD "").toList
  let searchLike := '%' :: (normalizedSearch ++ ['%'])
  normalizedSearch = [] || isLike casing searchLike skill.name || isLike casing searchLike skill.description ||
    isLike casing searchLike skill.category || isLike casing searchLike skill.risk || isLike casing searchLike skill.source

def matchesPack (casing : LetterCase) (pack : SkillPackRow) (skill : MarketplaceSkill) : Bool :=
  isLike casing (normalizePackSourceUrl pack.sourceUrl ++ ['%']) (String.ofList skill.sourceUrl)

structure MarketplaceSkillCard where
  skill : MarketplaceSkill
  installedAt : Option Time
  deriving DecidableEq

def listMarketplaceSkills (texts : UrlTexts) (casing : LetterCase) (db : SkillsDb) (organizationId gatewayId : Uuid)
    (query : SkillsQuery) : Except Failure (List MarketplaceSkillCard) := do
  let gateway ← requireGatewayForOrg db organizationId gatewayId
  let pack ← query.packId.mapM (requireSkillPackForOrg db organizationId)
  let kept := (db.skillsOf organizationId).filter fun skill =>
    keepsLabel casing (normalizedFilter texts query.category) skill.category &&
      keepsRisk casing (normalizedFilter texts query.risk) skill.risk &&
      pack.all (matchesPack casing · skill) && keepsSearch casing query.search skill
  let ordered := kept.mergeSort fun a b => b.createdAt ≤ a.createdAt
  let page := match query.limit with
    | none => ordered
    | some limit => (ordered.drop query.offset).take limit
  return page.map fun skill =>
    { skill, installedAt := (db.installed.get? (gateway.id, skill.id)).map GatewayInstalledSkill.createdAt }

/-! ## What is counted -/

def hasBase (texts : UrlTexts) (repoBase : Url) (skill : MarketplaceSkill) : Bool :=
  repoBaseFromTreeSourceUrl texts skill.sourceUrl = .ok (some repoBase)

/-- The URL of the skill can be parsed. -/
def Parses (texts : UrlTexts) (skill : MarketplaceSkill) : Prop :=
  ∃ repoBase, repoBaseFromTreeSourceUrl texts skill.sourceUrl = .ok repoBase

section Counted
variable {texts : UrlTexts} {skills : List MarketplaceSkill} {counts counts' : Dict Url Nat}

variable {skill : MarketplaceSkill}

theorem hasBase_eq {repoBase : Option Url} (h : repoBaseFromTreeSourceUrl texts skill.sourceUrl = .ok repoBase)
    (base : Url) :
    hasBase texts base skill = decide (repoBase = some base) := by
  unfold hasBase
  rw [h]
  simp

theorem countSkill_eq_ok (h : countSkill texts counts skill = .ok counts') :
    Parses texts skill ∧ ∀ base, counts'.count base = counts.count base + if hasBase texts base skill then 1 else 0 := by
  obtain ⟨repoBase, hparse, h⟩ := bind_eq_ok.mp h
  have hbase := mapError_eq_ok.mp hparse
  refine ⟨⟨repoBase, hbase⟩, fun base => ?_⟩
  rw [hasBase_eq hbase]
  cases repoBase with
  | none =>
    obtain rfl := pure_eq_ok.mp h
    simp
  | some repoBase =>
    obtain rfl := pure_eq_ok.mp h
    rw [Dict.count_increment]
    simp [eq_comm]

theorem exists_countSkill (h : Parses texts skill) (counts : Dict Url Nat) :
    ∃ counts', countSkill texts counts skill = .ok counts' := by
  obtain ⟨repoBase, hbase⟩ := h
  unfold countSkill
  rw [hbase]
  cases repoBase with
  | none => exact ⟨counts, rfl⟩
  | some repoBase => exact ⟨counts.increment repoBase, rfl⟩

theorem count_foldlM (h : skills.foldlM (countSkill texts) counts = .ok counts') :
    (∀ skill ∈ skills, Parses texts skill) ∧
      ∀ base, counts'.count base = counts.count base + skills.countP (hasBase texts base) := by
  induction skills generalizing counts with
  | nil =>
    obtain rfl := pure_eq_ok.mp h
    exact ⟨fun _ hskill => absurd hskill List.not_mem_nil, fun _ => rfl⟩
  | cons skill skills ih =>
    rw [List.foldlM_cons] at h
    obtain ⟨counts₁, hfirst, hrest⟩ := bind_eq_ok.mp h
    obtain ⟨hparses, hcount⟩ := countSkill_eq_ok hfirst
    obtain ⟨hall, hcounts⟩ := ih hrest
    refine ⟨List.forall_mem_cons.mpr ⟨hparses, hall⟩, fun base => ?_⟩
    rw [hcounts base, hcount base, List.countP_cons, Nat.add_assoc, Nat.add_comm (skills.countP _)]

theorem exists_foldlM (h : ∀ skill ∈ skills, Parses texts skill) (counts : Dict Url Nat) :
    ∃ counts', skills.foldlM (countSkill texts) counts = .ok counts' := by
  induction skills generalizing counts with
  | nil => exact ⟨counts, rfl⟩
  | cons skill skills ih =>
    obtain ⟨hfirst, hrest⟩ := List.forall_mem_cons.mp h
    obtain ⟨counts₁, hcounts₁⟩ := exists_countSkill hfirst counts
    obtain ⟨counts', hcounts'⟩ := ih hrest counts₁
    refine ⟨counts', ?_⟩
    rw [List.foldlM_cons, hcounts₁]
    exact hcounts'

end Counted

/-! ## What is listed -/

section Listed
variable {texts : UrlTexts} {casing : LetterCase} {db : SkillsDb} {organizationId gatewayId packId : Uuid}
  {pack : SkillPackRow} {gateway : OrgGateway}

theorem normalizedFilter_none (texts : UrlTexts) : normalizedFilter texts none = [] :=
  texts.lower_ascii [] nofun

theorem exists_listing (texts : UrlTexts) (casing : LetterCase)
    (hgateway : requireGatewayForOrg db organizationId gatewayId = .ok gateway)
    (hpack : requireSkillPackForOrg db organizationId packId = .ok pack) : ∃ cards,
      listMarketplaceSkills texts casing db organizationId gatewayId { packId := some packId } = .ok cards ∧
        cards.length = (db.skillsOf organizationId).countP (matchesPack casing pack) := by
  have hkept : ∀ skill : MarketplaceSkill, (keepsLabel casing (normalizedFilter texts none) skill.category &&
      keepsRisk casing (normalizedFilter texts none) skill.risk && (some pack).all (matchesPack casing · skill) &&
        keepsSearch casing none skill) = matchesPack casing pack skill := by
    intro skill
    have hlabel : keepsLabel casing (normalizedFilter texts none) skill.category = true := by
      rw [normalizedFilter_none]
      rfl
    have hrisk : keepsRisk casing (normalizedFilter texts none) skill.risk = true := by
      rw [normalizedFilter_none]
      rfl
    have hsearch : keepsSearch casing none skill = true := rfl
    rw [hlabel, hrisk, hsearch, Option.all_some, Bool.true_and, Bool.true_and, Bool.and_true]
  unfold listMarketplaceSkills
  rw [hgateway]
  simp only [Option.mapM_some, hpack]
  refine ⟨_, rfl, ?_⟩
  rw [List.length_map, List.length_mergeSort, List.countP_eq_length_filter]
  exact congrArg List.length (List.filter_congr fun skill _ => hkept skill)

/-- A pack whose URL holds no wildcards is matched by the URLs that begin with it, whatever the case of their letters. -/
theorem matchesPack_plain (h : PlainPattern (normalizePackSourceUrl pack.sourceUrl)) (skill : MarketplaceSkill) :
    matchesPack casing pack skill =
      decide ((normalizePackSourceUrl pack.sourceUrl).map casing.lower <+: skill.sourceUrl.map casing.lower) := by
  have hpercent : casing.lower '%' = '%' := (casing.wildcards '%' (by decide) '%').mpr rfl
  have hplain : PlainPattern ((normalizePackSourceUrl pack.sourceUrl).map casing.lower) := by
    intro c hc hwild
    obtain ⟨d, hd, rfl⟩ := List.mem_map.mp hc
    exact h d hd ((casing.wildcards _ hwild d).mp rfl ▸ hwild)
  unfold matchesPack isLike LetterCase.ilike LetterCase.lowerText
  rw [Option.any_some, String.toList_ofList, String.toList_ofList, List.map_append, List.map_singleton, hpercent,
    like_plain_any hplain]
  simp

/-! ## Whether they agree -/

/-- The count shown for a pack is the number of the skills listed for it. -/
def CountsAgree (texts : UrlTexts) (casing : LetterCase) (db : SkillsDb) (organizationId gatewayId packId : Uuid) : Prop :=
  ∃ read cards, getSkillPack texts db organizationId packId = .ok read ∧
    listMarketplaceSkills texts casing db organizationId gatewayId { packId := some packId } = .ok cards ∧
    read.skillCount = cards.length

/-- The skills that match the URL of a pack and have another base, or none. -/
def strays (texts : UrlTexts) (casing : LetterCase) (pack : SkillPackRow) (skills : List MarketplaceSkill) :
    List MarketplaceSkill :=
  skills.filter fun skill =>
    matchesPack casing pack skill && !hasBase texts (normalizeRepoSourceUrl pack.sourceUrl) skill

/-- The skills that have the repository of a pack as their base and do not match its URL. -/
def missed (texts : UrlTexts) (casing : LetterCase) (pack : SkillPackRow) (skills : List MarketplaceSkill) :
    List MarketplaceSkill :=
  skills.filter fun skill =>
    hasBase texts (normalizeRepoSourceUrl pack.sourceUrl) skill && !matchesPack casing pack skill

theorem countP_add_length_filter {α : Type} (p q : α → Bool) (as : List α) :
    as.countP p + (as.filter fun a => q a && !p a).length = as.countP q + (as.filter fun a => p a && !q a).length := by
  induction as with
  | nil => rfl
  | cons a as ih => cases hp : p a <;> cases hq : q a <;> simp [hp, hq] <;> omega

/-- **The numbers agree exactly when** every URL can be parsed and there are as many strays as missed skills. -/
theorem countsAgree_iff (hgateway : requireGatewayForOrg db organizationId gatewayId = .ok gateway)
    (hpack : requireSkillPackForOrg db organizationId packId = .ok pack) :
    CountsAgree texts casing db organizationId gatewayId packId ↔
      (∀ skill ∈ db.skillsOf organizationId, Parses texts skill) ∧
        (strays texts casing pack (db.skillsOf organizationId)).length =
          (missed texts casing pack (db.skillsOf organizationId)).length := by
  have hdifference := countP_add_length_filter (hasBase texts (normalizeRepoSourceUrl pack.sourceUrl))
    (matchesPack casing pack) (db.skillsOf organizationId)
  obtain ⟨cards, hcards, hlength⟩ := exists_listing texts casing hgateway hpack
  have hread : ∀ counts, buildSkillCountByRepo texts (db.skillsOf organizationId) = .ok counts →
      getSkillPack texts db organizationId packId = .ok (asSkillPackReadWithCount pack counts) := by
    intro counts hcounts
    unfold getSkillPack
    rw [hpack, hcounts]
    rfl
  have hnumber : ∀ counts, buildSkillCountByRepo texts (db.skillsOf organizationId) = .ok counts →
      (asSkillPackReadWithCount pack counts).skillCount =
        (db.skillsOf organizationId).countP (hasBase texts (normalizeRepoSourceUrl pack.sourceUrl)) := by
    intro counts hcounts
    have hcount := (count_foldlM hcounts).2 (normalizeRepoSourceUrl pack.sourceUrl)
    rw [Dict.count_empty, Nat.zero_add] at hcount
    exact hcount
  constructor
  · rintro ⟨read, cards', hget, hlist, hsame⟩
    obtain ⟨_, -, hcount⟩ := bind_eq_ok.mp hget
    obtain ⟨counts, hcounts, -⟩ := bind_eq_ok.mp hcount
    rw [hread counts hcounts] at hget
    rw [hcards] at hlist
    rw [← Except.ok.inj hget, ← Except.ok.inj hlist, hnumber counts hcounts, hlength] at hsame
    exact ⟨(count_foldlM hcounts).1, by unfold strays missed; omega⟩
  · rintro ⟨hparses, hsame⟩
    obtain ⟨counts, hcounts⟩ := exists_foldlM hparses ∅
    refine ⟨_, cards, hread counts hcounts, hcards, ?_⟩
    rw [hnumber counts hcounts, hlength]
    unfold strays missed at hsame
    omega

end Listed

namespace Sample

/-- A database in which letters have one case. -/
def oneCase : LetterCase := ⟨id, LetterCase.id_lower, LetterCase.id_wildcards⟩

def gateway : OrgGateway := { id := 2, url := "", workspaceRoot := "", organizationId := 1 }

def packB : SkillPackRow := { id := 3, organizationId := 1, name := "b", sourceUrl := "https://github.com/a/b".toList }

def skillOf (id : Uuid) (sourceUrl : String) : MarketplaceSkill :=
  { id, organizationId := 1, name := "x", sourceUrl := sourceUrl.toList }

def neighbours : SkillsDb where
  gateways := ⟨[gateway], by decide⟩
  packs := ⟨[packB], by decide⟩
  skills := ⟨[skillOf 4 "https://github.com/a/bc/tree/main/x"], by decide⟩

def onePack : SkillsDb := { neighbours with skills := ⟨[skillOf 4 "https://github.com/a/b/tree/main/x"], by decide⟩ }

end Sample

section
open Skills.Sample

theorem countsAgree_onePack : CountsAgree asciiTexts oneCase onePack 1 2 3 := by
  have hbase : repoBaseFromTreeSourceUrl asciiTexts "https://github.com/a/b/tree/main/x".toList =
      .ok (some packB.sourceUrl) := by decide
  have hmatch : matchesPack oneCase packB (skillOf 4 "https://github.com/a/b/tree/main/x") = true := by
    rw [matchesPack_plain (by decide)]
    decide
  have hown : hasBase asciiTexts (normalizeRepoSourceUrl packB.sourceUrl)
      (skillOf 4 "https://github.com/a/b/tree/main/x") = true := decide_eq_true hbase
  refine (countsAgree_iff (show requireGatewayForOrg onePack 1 2 = .ok gateway from rfl)
    (show requireSkillPackForOrg onePack 1 3 = .ok packB from rfl)).mpr
    ⟨List.forall_mem_singleton.mpr ⟨_, hbase⟩, ?_⟩
  show (List.filter _ [_]).length = (List.filter _ [_]).length
  rw [List.filter_singleton, List.filter_singleton, hmatch, hown]

/-- The skill of a neighbour is listed and not counted. -/
theorem not_countsAgree : ¬ ∀ (texts : UrlTexts) (casing : LetterCase) (db : SkillsDb)
    (organizationId gatewayId packId : Uuid) (gateway : OrgGateway) (pack : SkillPackRow),
    requireGatewayForOrg db organizationId gatewayId = .ok gateway →
      requireSkillPackForOrg db organizationId packId = .ok pack →
        CountsAgree texts casing db organizationId gatewayId packId := by
  intro h
  obtain ⟨read, cards, hget, hlist, hsame⟩ := h asciiTexts oneCase neighbours 1 2 3 gateway packB rfl rfl
  obtain ⟨cards', hlist', hlength⟩ := exists_listing asciiTexts oneCase
    (show requireGatewayForOrg neighbours 1 2 = .ok gateway from rfl)
    (show requireSkillPackForOrg neighbours 1 3 = .ok packB from rfl)
  have hcount : (getSkillPack asciiTexts neighbours 1 3).map SkillPackRead.skillCount = .ok 0 := by decide
  have hlisted : (neighbours.skillsOf 1).countP (matchesPack oneCase packB) = 1 := by
    show List.countP _ [_] = 1
    rw [List.countP_singleton, matchesPack_plain (by decide)]
    decide
  rw [hget] at hcount
  rw [hlist'] at hlist
  rw [Except.ok.inj hcount, ← Except.ok.inj hlist, hlength, hlisted] at hsame
  cases hsame

end

end SiloForge.Skills
