import SiloForge.Core.Json

/-!
# TOOLS.md

An agent finds its token in the file TOOLS.md of its workspace. The file is rendered from a template, with a bullet for
the token; the template sync reads lines of the form `KEY=value` from it.

* `splitlines` : the lines of a text;
* `toolsMd`, `shownToken` : the rendered file, and the token a file shows;
* `parseToolsMd`, `existingAuthToken` : what the template sync reads;
* `shownToken_toolsMd` : a rendered file shows the token it was rendered with.
-/

namespace SiloForge

/-! ## Lines -/

def isLineBreak (c : Char) : Bool := c.toNat ∈ [0xa, 0xb, 0xc, 0xd, 0x1c, 0x1d, 0x1e, 0x85, 0x2028, 0x2029]

def OneLine (cs : List Char) : Prop := ∀ c ∈ cs, isLineBreak c = false

instance (cs : List Char) : Decidable (OneLine cs) :=
  decidable_of_iff (cs.all (fun c => !isLineBreak c) = true) <| by
    unfold OneLine
    rw [List.all_eq_true]
    exact forall₂_congr fun c _ => by rw [Bool.not_eq_true']

def linesFrom (line : List Char) : List Char → List (List Char)
  | [] => if line = [] then [] else [line.reverse]
  | '\r' :: '\n' :: cs => line.reverse :: linesFrom [] cs
  | c :: cs => if isLineBreak c then line.reverse :: linesFrom [] cs else linesFrom (c :: line) cs

def splitlines (text : String) : List (List Char) := linesFrom [] text.toList

theorem linesFrom_cons {c : Char} (hc : c ≠ '\r') (line cs : List Char) :
    linesFrom line (c :: cs) = if isLineBreak c then line.reverse :: linesFrom [] cs else linesFrom (c :: line) cs := by
  rw [linesFrom]
  rintro _ rfl
  exact absurd rfl hc

variable {cs : List Char} {baseUrl authToken : String}

theorem linesFrom_append (h : OneLine cs) (line rest : List Char) :
    linesFrom line (cs ++ '\n' :: rest) = (line.reverse ++ cs) :: linesFrom [] rest := by
  induction cs generalizing line with
  | nil =>
    rw [List.nil_append, linesFrom_cons (by decide), if_pos (by decide), List.append_nil]
  | cons c cs ih =>
    have hc : isLineBreak c = false := h c List.mem_cons_self
    have hne : c ≠ '\r' := by
      rintro rfl
      exact absurd hc (by decide)
    rw [List.cons_append, linesFrom_cons hne, hc, if_neg Bool.false_ne_true,
      ih fun c' hc' => h c' (List.mem_cons_of_mem c hc'), List.reverse_cons, List.append_assoc, List.singleton_append]

theorem OneLine.reverse (h : OneLine cs) : OneLine cs.reverse :=
  fun c hc => h c (List.mem_reverse.mp hc)

theorem oneLine_of_mem_linesFrom {line : List Char} (hline : OneLine line) : ∀ l ∈ linesFrom line cs, OneLine l := by
  have hnil : OneLine [] := fun c hc => absurd hc List.not_mem_nil
  induction line, cs using linesFrom.induct with
  | case1 => intro l hl; exact absurd hl List.not_mem_nil
  | case2 line hne =>
    intro l hl
    rw [linesFrom, if_neg hne] at hl
    rw [List.mem_singleton.mp hl]
    exact hline.reverse
  | case3 line cs ih =>
    intro l hl
    rw [linesFrom] at hl
    rcases List.mem_cons.mp hl with rfl | hl
    · exact hline.reverse
    · exact ih hnil l hl
  | case4 line c cs hnot hbreak ih =>
    intro l hl
    rw [linesFrom, if_pos hbreak] at hl
    · rcases List.mem_cons.mp hl with rfl | hl
      · exact hline.reverse
      · exact ih hnil l hl
    · exact hnot
  | case5 line c cs hnot hbreak ih =>
    intro l hl
    rw [linesFrom, if_neg hbreak] at hl
    · refine ih (fun c' hc' => ?_) l hl
      rcases List.mem_cons.mp hc' with rfl | hc'
      · exact Bool.eq_false_iff.mpr hbreak
      · exact hline c' hc'
    · exact hnot

theorem oneLine_of_mem_splitlines {text : String} : ∀ l ∈ splitlines text, OneLine l :=
  oneLine_of_mem_linesFrom fun _ hc => absurd hc List.not_mem_nil

/-! ## The file an agent reads -/

def toolsMd (baseUrl authToken rest : String) : String :=
  "# TOOLS.md" ++ "\n" ++ "\n" ++ "- `BASE_URL=" ++ baseUrl ++ "`" ++ "\n" ++ "- `AUTH_TOKEN=" ++ authToken ++ "`" ++ "\n" ++
    rest

/-- The token a line shows: a bullet of the template, or a plain `AUTH_TOKEN=`. -/
def lineToken? (line : List Char) : Option String :=
  if "- `AUTH_TOKEN=".toList.isPrefixOf line ∧ "`".toList.isSuffixOf line then
    some (String.ofList (line.drop "- `AUTH_TOKEN=".length).dropLast)
  else if "AUTH_TOKEN=".toList.isPrefixOf line then some (String.ofList (line.drop "AUTH_TOKEN=".length))
  else none

/-- The token a file shows to the agent, in its first line that has one. -/
def shownToken (content : String) : Option String := (splitlines content).findSome? lineToken?

theorem splitlines_toolsMd (hbase : OneLine baseUrl.toList) (htoken : OneLine authToken.toList) (rest : String) :
    splitlines (toolsMd baseUrl authToken rest) =
      "# TOOLS.md".toList :: [] :: ("- `BASE_URL=".toList ++ baseUrl.toList ++ "`".toList) ::
        ("- `AUTH_TOKEN=".toList ++ authToken.toList ++ "`".toList) :: splitlines rest := by
  have htext : (toolsMd baseUrl authToken rest).toList =
      "# TOOLS.md".toList ++ '\n' :: ([] ++ '\n' ::
        (("- `BASE_URL=".toList ++ baseUrl.toList ++ "`".toList) ++ '\n' ::
          (("- `AUTH_TOKEN=".toList ++ authToken.toList ++ "`".toList) ++ '\n' :: rest.toList))) := by
    have hbreak : "\n".toList = ['\n'] := rfl
    unfold toolsMd
    simp only [String.toList_append, hbreak, List.append_assoc, List.cons_append, List.nil_append]
  have hline : ∀ {before cs after : List Char}, OneLine before → OneLine cs → OneLine after →
      OneLine (before ++ cs ++ after) := by
    intro before cs after hbefore hcs hafter c hc
    rcases List.mem_append.mp hc with hc | hc
    · rcases List.mem_append.mp hc with hc | hc
      · exact hbefore c hc
      · exact hcs c hc
    · exact hafter c hc
  have hfixed : OneLine "# TOOLS.md".toList ∧ OneLine "- `BASE_URL=".toList ∧ OneLine "- `AUTH_TOKEN=".toList ∧
      OneLine "`".toList := by
    decide
  obtain ⟨htitle, hurl, hauth, htick⟩ := hfixed
  rw [splitlines, htext, linesFrom_append htitle, linesFrom_append fun c hc => absurd hc List.not_mem_nil,
    linesFrom_append (hline hurl hbase htick), linesFrom_append (hline hauth htoken htick)]
  simp only [List.reverse_nil, List.nil_append]
  rfl

theorem lineToken?_bullet (token : List Char) :
    lineToken? ("- `AUTH_TOKEN=".toList ++ token ++ "`".toList) = some (String.ofList token) := by
  have hstart : "- `AUTH_TOKEN=".toList.isPrefixOf ("- `AUTH_TOKEN=".toList ++ token ++ "`".toList) = true := by
    rw [List.isPrefixOf_iff_prefix, List.append_assoc]
    exact List.prefix_append _ _
  have hsuffix : "`".toList.isSuffixOf ("- `AUTH_TOKEN=".toList ++ token ++ "`".toList) = true :=
    List.isSuffixOf_iff_suffix.mpr (List.suffix_append _ _)
  have hdrop : ("- `AUTH_TOKEN=".toList ++ token ++ "`".toList).drop "- `AUTH_TOKEN=".length = token ++ "`".toList := by
    rw [List.append_assoc]
    exact List.drop_left
  have htick : "`".toList = [Char.ofNat 0x60] := rfl
  unfold lineToken?
  rw [if_pos ⟨hstart, hsuffix⟩, hdrop, htick, List.dropLast_concat]

/-- **A rendered file shows its token.** -/
theorem shownToken_toolsMd (hbase : OneLine baseUrl.toList) (htoken : OneLine authToken.toList) (rest : String) :
    shownToken (toolsMd baseUrl authToken rest) = some authToken := by
  have htitle : lineToken? "# TOOLS.md".toList = none ∧ lineToken? [] = none := by decide
  have hurl : lineToken? ("- `BASE_URL=".toList ++ baseUrl.toList ++ "`".toList) = none := by
    have hbullet : "- `AUTH_TOKEN=".toList.isPrefixOf ("- `BASE_URL=".toList ++ baseUrl.toList ++ "`".toList) = false := rfl
    have hplain : "AUTH_TOKEN=".toList.isPrefixOf ("- `BASE_URL=".toList ++ baseUrl.toList ++ "`".toList) = false := rfl
    unfold lineToken?
    rw [hbullet, hplain, if_neg fun h => Bool.false_ne_true h.1, if_neg Bool.false_ne_true]
  unfold shownToken
  rw [splitlines_toolsMd hbase htoken, List.findSome?_cons, htitle.1, List.findSome?_cons, htitle.2,
    List.findSome?_cons, hurl, List.findSome?_cons, lineToken?_bullet, String.ofList_toList]

/-! ## What the template sync reads -/

def isToolsKeyChar (c : Char) : Bool := c.isUpper || c.isDigit || c = '_'

/-- `_TOOLS_KV_RE`: a key and a value. -/
def toolsKeyValue? (line : List Char) : Option (String × String) :=
  match line.dropWhile isToolsKeyChar with
  | '=' :: value =>
    if line.takeWhile isToolsKeyChar = [] then none
    else some (String.ofList (line.takeWhile isToolsKeyChar), strip (String.ofList value))
  | _ => none

def toolsLine? (raw : List Char) : Option (String × String) :=
  let line := (strip (String.ofList raw)).toList
  if line = [] ∨ line.head? = some '#' then none else toolsKeyValue? line

/-- `_parse_tools_md`, in the order of the lines; the last value of a key counts. -/
def parseToolsMd (content : String) : List (String × String) := (splitlines content).filterMap toolsLine?

/-- `_get_existing_auth_token`, of the content of the file. -/
def existingAuthToken (content : String) : Option String :=
  (((parseToolsMd content).reverse.find? fun f => f.1 = "AUTH_TOKEN").map fun f => strip f.2).filter (· ≠ "")

theorem mem_of_mem_strip {text : String} {c : Char} (h : c ∈ (strip text).toList) : c ∈ text.toList := by
  unfold strip at h
  rw [String.toList_ofList, List.mem_reverse] at h
  exact (List.dropWhile_sublist _).mem (List.mem_reverse.mp ((List.dropWhile_sublist _).mem h))

theorem oneLine_strip {text : String} (h : OneLine text.toList) : OneLine (strip text).toList :=
  fun c hc => h c (mem_of_mem_strip hc)

theorem oneLine_of_toolsLine? {raw : List Char} {f : String × String} (hraw : OneLine raw)
    (h : toolsLine? raw = some f) : OneLine f.2.toList := by
  have hline : OneLine (strip (String.ofList raw)).toList := by
    refine oneLine_strip ?_
    rwa [String.toList_ofList]
  unfold toolsLine? at h
  dsimp only at h
  split at h
  · cases h
  unfold toolsKeyValue? at h
  split at h
  · rename_i value hdrop
    split at h
    · cases h
    obtain rfl := Option.some.inj h
    refine oneLine_strip fun c hc => hline c ?_
    rw [String.toList_ofList] at hc
    refine (List.dropWhile_sublist isToolsKeyChar).mem ?_
    rw [hdrop]
    exact List.mem_cons_of_mem _ hc
  · cases h

theorem oneLine_existingAuthToken {content token : String} (h : existingAuthToken content = some token) :
    OneLine token.toList ∧ token ≠ "" := by
  obtain ⟨hfound, hne⟩ := Option.filter_eq_some_iff.mp h
  obtain ⟨f, hf, rfl⟩ := Option.map_eq_some_iff.mp hfound
  obtain ⟨raw, hraw, hline⟩ := List.mem_filterMap.mp (List.mem_reverse.mp (List.mem_of_find?_eq_some hf))
  exact ⟨oneLine_strip (oneLine_of_toolsLine? (oneLine_of_mem_splitlines raw hraw) hline), of_decide_eq_true hne⟩

end SiloForge
