import SiloForge.Frontend.CustomFields

/-!
# The runs in the feed

The payload of an event of a run is any value. Each of its fields is read as a text, or as a number, only if it is
one, so that whatever the payload is, the feed shows the run.

* `readString`, `readNumber` : fields of a record that are texts, or numbers;
* `extractRuntimeRunMessageParts`, `extractRuntimeRunDetailsFromPayload` : the details of a run, from a message and a payload;
* `resolveRuntimeRunFeedContent` : what the feed shows.
-/

namespace SiloForge.Frontend

/-- What the browser knows of numbers and letters: `new Intl.NumberFormat("en-US").format` groups the digits of a number. -/
structure Browser where
  numbers : NumberTexts
  letters : Letters
  formatNumber : Number → String

structure ActivityDetailRow where
  label : String
  value : String
  deriving DecidableEq

/-! ## Texts -/

/-- `String.prototype.trim`. -/
def trimText (s : String) : String := String.ofList (Skills.Frontend.trim s.toList)

/-- `s.trim() || null`. -/
def nonBlank (s : String) : Option String := if trimText s = "" then none else some (trimText s)

/-- `text.startsWith(start)`. -/
def startsWith (text start : String) : Bool := start.toList.isPrefixOf text.toList

/-- `text.includes(part)`. -/
def includes (text part : List Char) : Bool := decide (part <:+: text)

/-- `text || other`. -/
def orText (text other : String) : String := if text = "" then other else text

/-- `slice(0, n)`, which counts code units of UTF-16: it may cut a character in two. -/
def takeUnits : Nat → List Char → List Char
  | 0, _ => []
  | _, [] => []
  | n + 1, c :: cs =>
    if c.toNat < 0x10000 then c :: takeUnits n cs
    else if n = 0 then [replacement]
    else c :: takeUnits (n - 1) cs

def shortId (id : String) : String := String.ofList (takeUnits 8 id.toList)

/-! ## Fields of a record -/

def toRecord : JsValue → Option Fields
  | .obj fields => some fields
  | _ => none

def fieldOf (record : Option Fields) (key : String) : Option JsValue := record.bind fun fields => fields.lookup key

/-- A text with more than white space in it. -/
def textOf? : Option JsValue → Option String
  | some (.str s) => nonBlank s
  | _ => none

/-- The first of some fields that is a text with more than white space in it. -/
def readString (record : Option Fields) (keys : List String) : Option String :=
  keys.findSome? fun key => textOf? (fieldOf record key)

def Number.finite? : Number → Option Number
  | .finite x => some (.finite x)
  | .infinite _ => none

def numberOf? : Option JsValue → Option Number
  | some (.num x) => x.finite?
  | some (.str s) => (parseFloat (Skills.Frontend.trim s.toList)).bind Number.finite?
  | _ => none

/-- The first of some fields that is a number, or a text that begins with one. -/
def readNumber (record : Option Fields) (keys : List String) : Option Number :=
  keys.findSome? fun key => numberOf? (fieldOf record key)

def finiteField (record : Option Fields) (key : String) : Option Double :=
  match fieldOf record key with
  | some (.num (.finite x)) => some x
  | _ => none

def detailRows (rows : List (String × Option String)) : List ActivityDetailRow :=
  rows.filterMap fun (label, value) => value.map fun value => { label, value }

/-! ## Numbers -/

section Numbers
variable (browser : Browser)

def numberText (x : Number) : String := String.ofList (x.toString browser.numbers)

def integerText (n : ℤ) : String := numberText browser (.ofRat n)

/-- `String(Math.trunc(x))`. -/
def truncText (x : Double) : String := integerText browser (if x.value < 0 then ⌈x.value⌉ else ⌊x.value⌋)

/-- `Math.floor(x / y)`: the quotient is a number of the browser. -/
def floorQuotient (x : ℚ) (y : ℕ) : ℤ := ⌊Lib.binary64.toUnit (x / y)⌋

def formatRuntimeDurationMs (value : Number) : String :=
  match value with
  | .infinite _ => "—"
  | .finite x =>
    if x.value ≤ 0 then "—"
    else
      let totalSeconds := floorQuotient x.value 1000
      if totalSeconds < 60 then integerText browser totalSeconds ++ "s"
      else
        let totalMinutes := floorQuotient totalSeconds 60
        if totalMinutes < 60 then
          let seconds := totalSeconds % 60
          if 0 < seconds then integerText browser totalMinutes ++ "m " ++ integerText browser seconds ++ "s"
          else integerText browser totalMinutes ++ "m"
        else
          let totalHours := floorQuotient totalMinutes 60
          if totalHours < 24 then
            let minutes := totalMinutes % 60
            if 0 < minutes then integerText browser totalHours ++ "h " ++ integerText browser minutes ++ "m"
            else integerText browser totalHours ++ "h"
          else
            let days := floorQuotient totalHours 24
            let hours := totalHours % 24
            if 0 < hours then integerText browser days ++ "d " ++ integerText browser hours ++ "h"
            else integerText browser days ++ "d"

end Numbers

/-! ## The message of a run -/

structure MessageParts where
  summary : String
  details : List ActivityDetailRow

def detailLabels : List String := ["PR #", "PR:", "Tokens:", "Branch:", "Workspace:", "External run:", "Error:"]

/-- `label.replace(/:$/, "")`. -/
def withoutColon (label : String) : String :=
  String.ofList (if label.toList.getLast? = some ':' then label.toList.dropLast else label.toList)

/-- The lines of a message, without blank ones: those with a label are details, the others are the summary. -/
def extractRuntimeRunMessageParts (message : String) : MessageParts :=
  let lines := ((message.toList.splitOn '\n').map fun rawLine => trimText (String.ofList rawLine)).filter (· ≠ "")
  let labelled := lines.map fun line => (line, detailLabels.find? fun label => startsWith line label)
  { summary := "\n".intercalate ((labelled.filter fun entry => entry.2 = none).map Prod.fst)
    details := labelled.filterMap fun (line, matchedLabel) => matchedLabel.map fun label =>
      { label := withoutColon label
        value := orText (trimText (String.ofList (line.toList.drop label.toList.length))) "—" } }

/-! ## The payload of a run -/

def parseRuntimeRunActivityPayload (payload : JsValue) : Option Fields := toRecord payload

def extractRuntimeRunDetailsFromPayload (browser : Browser) (payload : JsValue) : List ActivityDetailRow :=
  let parsed := parseRuntimeRunActivityPayload payload
  detailRows [
    ("PR #", (finiteField parsed "pull_request").map (truncText browser)),
    ("PR", readString parsed ["pr_url"]),
    ("Branch", readString parsed ["branch_name", "branch_hint"]),
    ("Workspace", readString parsed ["workspace_path"]),
    ("External run", readString parsed ["external_run_id"]),
    ("Issue", readString parsed ["issue_identifier"]),
    ("Runner", readString parsed ["runner_kind"]),
    ("Completion", readString parsed ["completion_kind"]),
    ("Turns", (finiteField parsed "turn_count").map (truncText browser)),
    ("Session", readString parsed ["session_id"]),
    ("Event", readString parsed ["last_event"]),
    ("Duration", (finiteField parsed "duration_ms").map fun x => formatRuntimeDurationMs browser (.finite x)),
    ("Tokens", (finiteField parsed "total_tokens").map fun x => browser.formatNumber (.finite x)),
    ("Error", readString parsed ["error_message"])]

def runtimeRunSummaryFromPayload (payload : JsValue) : Option String :=
  readString (parseRuntimeRunActivityPayload payload) ["summary"]

def runMark : String := "\x60"

def runtimeRunFallbackSummary (eventType : String) (payload : JsValue) : Option String :=
  match parseRuntimeRunActivityPayload payload with
  | none => none
  | some parsed =>
    let runShortId := (readString parsed ["run_short_id"]).or ((readString parsed ["run_id"]).map shortId)
    let status := readString parsed ["status"]
    let siloSlug := readString parsed ["silo_slug"]
    let roleSlug := readString parsed ["role_slug"]
    if eventType = "task.execution_run.created" then
      let destination :=
        match siloSlug, roleSlug with
        | some siloSlug, some roleSlug => some (siloSlug ++ "/" ++ roleSlug)
        | siloSlug, roleSlug => roleSlug.or siloSlug
      match runShortId, destination with
      | some runShortId, some destination =>
        some ("Queued Symphony run " ++ runMark ++ runShortId ++ runMark ++ " for " ++ destination ++ ".")
      | some runShortId, none => some ("Queued Symphony run " ++ runMark ++ runShortId ++ runMark ++ ".")
      | none, some destination => some ("Queued Symphony run for " ++ destination ++ ".")
      | none, none => some "Queued Symphony run."
    else if eventType = "task.execution_run.retried" then
      match (readString parsed ["retried_from_run_id"]).map shortId, runShortId with
      | some originalRunId, some runShortId =>
        some ("Retried Symphony run " ++ runMark ++ originalRunId ++ runMark ++ " as " ++ runMark ++ runShortId ++
          runMark ++ ".")
      | none, some runShortId => some ("Retried Symphony run as " ++ runMark ++ runShortId ++ runMark ++ ".")
      | _, none => some "Retried Symphony run."
    else if eventType = "task.execution_run.dispatched" then
      match runShortId, readString parsed ["adapter_mode"] with
      | some runShortId, some adapterMode =>
        some ("Dispatched Symphony run " ++ runMark ++ runShortId ++ runMark ++ " via " ++ adapterMode ++ " adapter.")
      | some runShortId, none => some ("Dispatched Symphony run " ++ runMark ++ runShortId ++ runMark ++ ".")
      | none, _ => some "Dispatched Symphony run."
    else if eventType = "task.execution_run.updated" ∨ eventType = "task.execution_run.report" then
      match runShortId, status with
      | some runShortId, some status => some ("Symphony run " ++ runMark ++ runShortId ++ runMark ++ " is " ++ status ++ ".")
      | none, some status => some ("Symphony run is " ++ status ++ ".")
      | some runShortId, none => some ("Symphony run " ++ runMark ++ runShortId ++ runMark ++ " updated.")
      | none, none => none
    else none

def knownStatuses : List String := ["succeeded", "failed", "cancelled", "blocked", "running", "dispatching", "queued"]

def inferRuntimeRunStatusFromEvent (browser : Browser) (eventType message : String) (payload : JsValue) : Option String :=
  match readString (parseRuntimeRunActivityPayload payload) ["status"] with
  | some status => some status
  | none =>
    if eventType = "task.execution_run.created" then some "queued"
    else if eventType = "task.execution_run.retried" then some "queued"
    else if eventType = "task.execution_run.dispatched" then some "dispatching"
    else
      let normalized := browser.letters.toLowerCase message.toList
      knownStatuses.find? fun status =>
        includes normalized (' ' :: (status.toList ++ [' '])) || status.toList.isPrefixOf normalized ||
          includes normalized (status.toList ++ ['.'])

/-- What the feed shows of an event. -/
structure FeedContent where
  summary : String
  details : List ActivityDetailRow
  runtimeStatus : Option String
  deriving DecidableEq

def resolveRuntimeRunFeedContent (browser : Browser) (eventType : String) (message : Option String) (payload : JsValue) :
    FeedContent :=
  let normalizedMessage := trimText (message.getD "")
  let parsedMessage := if normalizedMessage = "" then none else some (extractRuntimeRunMessageParts normalizedMessage)
  let details := extractRuntimeRunDetailsFromPayload browser payload
  { runtimeStatus := inferRuntimeRunStatusFromEvent browser eventType normalizedMessage payload
    summary := ((runtimeRunSummaryFromPayload payload).or ((runtimeRunFallbackSummary eventType payload).or
      (parsedMessage.map MessageParts.summary))).getD normalizedMessage
    details := if details ≠ [] then details else (parsedMessage.map MessageParts.details).getD [] }

end SiloForge.Frontend
