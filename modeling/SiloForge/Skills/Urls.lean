import SiloForge.Core.Failure
import SiloForge.Core.Json
import SiloForge.Lib.Markers

/-!
# The URLs of packs and skills

A pack is registered by the URL of its repository, a skill by a URL inside it, with the branch and the path behind
"/tree/".

* `urlparse` : the parts of a URL;
* `normalizeRepoSourceUrl`, `validatePackSourceUrl` : the URL of a pack;
* `toTreeSourceUrl`, `repoBaseFromTreeSourceUrl` : to the URL of a skill, and back.
-/

namespace SiloForge.Skills

open Lib

abbrev Url := List Char

/-! ## The parts of a URL -/

def isAscii (c : Char) : Bool := c.toNat < 128

/-- What parsing a URL depends on: `str.lower`, and the errors of network locations, by `_check_bracketed_netloc` and
`_checknetloc`. -/
structure UrlTexts where
  lower : List Char → List Char
  lower_ascii : ∀ cs, (∀ c ∈ cs, isAscii c = true) → lower cs = cs.map Char.toLower
  netlocError : List Char → Option String
  netlocError_nil : netlocError [] = none

structure ParseResult where
  scheme : Url
  netloc : Url
  path : Url
  deriving DecidableEq

/-- What a URL may begin with and is cut off there. -/
def isC0OrSpace (c : Char) : Bool := c.toNat ≤ 0x20

def isRemoved (c : Char) : Bool := c = '\t' || c = '\r' || c = '\n'

def isSchemeChar (c : Char) : Bool := c.isAlphanum || c = '+' || c = '-' || c = '.'

/-- The characters that end a network location. -/
def isDelim (c : Char) : Bool := c = '/' || c = '?' || c = '#'

def splitScheme (url : Url) : Url × Url :=
  let front := url.takeWhile (· ≠ ':')
  match url.dropWhile (· ≠ ':') with
  | [] => ([], url)
  | _ :: rest =>
    if (front.head?.any Char.isAlpha && front.all isSchemeChar) = true then (front.map Char.toLower, rest) else ([], url)

/-- The network location behind two slashes, and the rest. -/
def splitNetloc : Url → Url × Url
  | '/' :: '/' :: rest => (rest.takeWhile fun c => !isDelim c, rest.dropWhile fun c => !isDelim c)
  | url => ([], url)

/-- `_splitparams`: without the parameters of the last segment. -/
def splitParams (path : Url) : Url :=
  path.rdropWhile (· ≠ '/') ++ (path.rtakeWhile (· ≠ '/')).takeWhile (· ≠ ';')

def usesParams : List Url :=
  ["", "ftp", "hdl", "prospero", "http", "https", "shttp", "rtsp", "rtsps", "sip", "sips", "mms", "sftp", "tel"].map
    String.toList

def cleaned (url : Url) : Url := (url.dropWhile isC0OrSpace).filter fun c => !isRemoved c

def pathOf (scheme rest : Url) : Url :=
  let path := (rest.takeWhile (· ≠ '#')).takeWhile (· ≠ '?')
  if scheme ∈ usesParams then splitParams path else path

def urlparse (texts : UrlTexts) (url : Url) : Except String ParseResult := do
  let (scheme, url) := splitScheme (cleaned url)
  let (netloc, url) := splitNetloc url
  require ('[' ∈ netloc ↔ ']' ∈ netloc) "Invalid IPv6 URL"
  match texts.netlocError netloc with
  | some text => throw text
  | none => return { scheme, netloc, path := pathOf scheme url }

/-- The name of the host, without user and port; the zone of an address keeps its case. -/
def ParseResult.hostname (texts : UrlTexts) (parsed : ParseResult) : Url :=
  let hostinfo := parsed.netloc.rtakeWhile (· ≠ '@')
  let hostname :=
    if '[' ∈ hostinfo then ((hostinfo.dropWhile (· ≠ '[')).drop 1).takeWhile (· ≠ ']')
    else hostinfo.takeWhile (· ≠ ':')
  texts.lower (hostname.takeWhile (· ≠ '%')) ++ hostname.dropWhile (· ≠ '%')

/-! ## The URL of a pack -/

/-- `str.strip`, and `str.rstrip("/")`. -/
def stripSpaces (cs : Url) : Url := (cs.dropWhile isSpace).rdropWhile isSpace

def stripSlashes (cs : Url) : Url := cs.rdropWhile (· = '/')

def dotGit : Url := ".git".toList

def normalizeRepoSourceUrl (sourceUrl : Url) : Url :=
  let normalized := stripSlashes (stripSpaces sourceUrl)
  if dotGit <:+ normalized then normalized.take (normalized.length - dotGit.length) else normalized

def normalizePackSourceUrl (sourceUrl : Url) : Url := normalizeRepoSourceUrl sourceUrl

def allowedPackSourceSchemes : List Url := ["https".toList]

def notRepositoryUrl : String := "Pack source URL must be a GitHub repository URL (https://github.com/<owner>/<repo>)"

/-- The last check, of addresses, is for hosts other than the only one that is left by then. -/
def validatePackSourceUrl (texts : UrlTexts) (sourceUrl : Url) : Except String Unit := do
  let parsed ← urlparse texts sourceUrl
  require (texts.lower parsed.scheme ∈ allowedPackSourceSchemes)
    ("Unsupported pack source URL scheme: '" ++ String.ofList parsed.scheme ++ "'")
  let host := texts.lower (stripSpaces (parsed.hostname texts))
  require (host ≠ []) "Pack source URL must include a hostname"
  require (host ≠ "localhost".toList) "Pack source URL hostname is not allowed"
  require (host = "github.com".toList) notRepositoryUrl
  let path := stripSlashes (parsed.path.dropWhile (· = '/'))
  require (path ≠ [] ∧ 1 ≤ path.count '/') notRepositoryUrl

/-! ## The URL of a skill -/

def treeMarker : Url := "/tree/".toList

def toTreeSourceUrl (repoSourceUrl branch relPath : Url) : Url :=
  let repoUrl := normalizeRepoSourceUrl repoSourceUrl
  let safeBranch := if stripSpaces branch = [] then "main".toList else stripSpaces branch
  let rel := (stripSpaces relPath).dropWhile (· = '/')
  if rel = [] then repoUrl ++ treeMarker ++ safeBranch else repoUrl ++ treeMarker ++ safeBranch ++ '/' :: rel

/-- An error is that of the parser; a URL outside of any tree has no base. -/
def repoBaseFromTreeSourceUrl (texts : UrlTexts) (sourceUrl : Url) : Except String (Option Url) := do
  let parsed ← urlparse texts sourceUrl
  match splitFirst treeMarker parsed.path with
  | none => return none
  | some (repoPath, _) =>
    if repoPath = [] then return none
    else return some (normalizeRepoSourceUrl (parsed.scheme ++ "://".toList ++ parsed.netloc ++ repoPath))

namespace Sample

def asciiTexts : UrlTexts where
  lower cs := cs.map Char.toLower
  lower_ascii _ _ := rfl
  netlocError _ := none
  netlocError_nil := rfl

end Sample

end SiloForge.Skills
