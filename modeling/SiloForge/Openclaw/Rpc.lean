import SiloForge.Openclaw.Gateway

/-!
# The frames of a gateway call

A call opens a connection, introduces itself, sends its request and waits for the frame with its id. Frames are what the
gateway sends: texts or bytes, with JSON of any shape in them or none. A connection that is closed sends no more.

* `awaitResponse`, `openclawCallOnce`, `openclawCall` : the call, and the errors that are made the gateway's;
* `PassedOver`, `Answers`, `Breaks` : what a frame is to a request that waits;
* `awaitResponse_eq_ok` : a request is answered by the first frame that is not passed over;
* `endsCleanly_iff` : when a call ends with its answer or with an error of the gateway.
-/

namespace SiloForge

/-! ## Frames -/

inductive SocketFrame where
  | text (text : String)
  | binary (bytes : List UInt8)
  deriving DecidableEq

/-- How `json.loads` fails: with a `ValueError`, for a text that is no JSON or bytes that are no text, or with a
`RecursionError`, for a value that is nested too deeply. -/
inductive LoadsError where
  | value (text : String)
  | recursion
  deriving DecidableEq

/-- `json.loads`, `bytes.decode("utf-8")` with the text of its error, and the text of the error for a connection that is
closed. -/
structure FrameReader where
  loads : SocketFrame → Except LoadsError Json
  decode : List UInt8 → Except String String
  closedText : String

/-- How a call fails. An attribute is looked up on a value that has none. -/
inductive CallError where
  | gateway (message : Json)
  | value (text : String)
  | closed
  | noAttribute
  | recursion
  deriving DecidableEq

def CallError.ofLoads : LoadsError → CallError
  | .value text => .value text
  | .recursion => .recursion

/-- `data.get(k)`, with `None` for a key that is absent. -/
def Json.getOrNone (fields : List (String × Json)) (k : String) : Json := (Json.lookup fields k).getD .null

def errorMessage : Json → Except CallError Json
  | .obj fields => .ok ((Json.lookup fields "message").getD (.str "Gateway error"))
  | _ => .error .noAttribute

/-! ## A call -/

section Call
variable (reader : FrameReader)

/-- What a frame does to a request: nothing, or it ends the wait. -/
def inspectFrame (requestId : String) (frame : SocketFrame) : Except CallError (Option Json) := do
  let data ← (reader.loads frame).mapError CallError.ofLoads
  match data with
  | .obj fields =>
    if Json.getOrNone fields "type" = .str "res" ∧ Json.getOrNone fields "id" = .str requestId then
      let ok := Json.getOrNone fields "ok"
      if ok ≠ .null ∧ ok.truthy = false then
        let message ← errorMessage ((Json.lookup fields "error").getD (.obj []))
        throw (.gateway message)
      return some (Json.getOrNone fields "payload")
    else if Json.getOrNone fields "id" = .str requestId then
      if (Json.getOrNone fields "error").truthy = true then
        let message ← errorMessage (Json.getOrNone fields "error")
        throw (.gateway message)
      return some (Json.getOrNone fields "result")
    else return none
  | _ => throw .noAttribute

def awaitResponse (requestId : String) : List SocketFrame → Except CallError (Json × List SocketFrame)
  | [] => throw .closed
  | frame :: frames => do
    match ← inspectFrame reader requestId frame with
    | some answer => return (answer, frames)
    | none => awaitResponse requestId frames

def decodeFrame : SocketFrame → Except CallError String
  | .text text => .ok text
  | .binary bytes => (reader.decode bytes).mapError CallError.value

/-- The first frame must be a JSON object, unless it is empty. Its nonce goes into the introduction. -/
def inspectFirst (frame : SocketFrame) : Except CallError Unit := do
  if frame = .text "" ∨ frame = .binary [] then return ()
  let text ← decodeFrame reader frame
  let data ← (reader.loads (.text text)).mapError CallError.ofLoads
  match data with
  | .obj _ => return ()
  | _ => throw .noAttribute

/-- The frames behind the first one, if that comes in time. -/
def recvFirstMessageOrNone (inTime : Bool) (frames : List SocketFrame) :
    Except CallError (Option SocketFrame × List SocketFrame) :=
  if inTime then
    match frames with
    | [] => throw .closed
    | frame :: frames => return (some frame, frames)
  else return (none, frames)

structure RequestIds where
  connectId : String
  requestId : String

def ensureConnected (connectId : String) (firstMessage : Option SocketFrame) (frames : List SocketFrame) :
    Except CallError (Json × List SocketFrame) := do
  (firstMessage.elim (.ok ()) (inspectFirst reader))
  awaitResponse reader connectId frames

def openclawCallOnce (ids : RequestIds) (inTime : Bool) (frames : List SocketFrame) : Except CallError Json := do
  let (firstMessage, frames) ← recvFirstMessageOrNone inTime frames
  let (_, frames) ← ensureConnected reader ids.connectId firstMessage frames
  let (answer, _) ← awaitResponse reader ids.requestId frames
  return answer

/-- The errors of values and of the connection are made the gateway's, with their texts. -/
def toGatewayError : CallError → CallError
  | .value text => .gateway (.str text)
  | .closed => .gateway (.str reader.closedText)
  | e => e

def openclawCall (ids : RequestIds) (inTime : Bool) (frames : List SocketFrame) : Except CallError Json :=
  (openclawCallOnce reader ids inTime frames).mapError (toGatewayError reader)

end Call

/-! ## What a frame is to a request -/

section Frames
variable (reader : FrameReader) (requestId : String)

def PassedOver (frame : SocketFrame) : Prop :=
  ∃ fields, reader.loads frame = .ok (.obj fields) ∧ Json.getOrNone fields "id" ≠ .str requestId

/-- The answer: the payload or the result of an object with the id of the request. -/
def Answers (frame : SocketFrame) (answer : Json) : Prop :=
  ∃ fields, reader.loads frame = .ok (.obj fields) ∧ Json.getOrNone fields "id" = .str requestId ∧
    (Json.getOrNone fields "type" = .str "res" ∧
        ¬ (Json.getOrNone fields "ok" ≠ .null ∧ (Json.getOrNone fields "ok").truthy = false) ∧
        answer = Json.getOrNone fields "payload" ∨
      Json.getOrNone fields "type" ≠ .str "res" ∧ (Json.getOrNone fields "error").truthy = false ∧
        answer = Json.getOrNone fields "result")

def IsObject (value : Json) : Prop := ∃ fields, value = .obj fields

def errorOf (fields : List (String × Json)) : Option Json :=
  if Json.getOrNone fields "id" ≠ .str requestId then none
  else if Json.getOrNone fields "type" = .str "res" then
    if Json.getOrNone fields "ok" ≠ .null ∧ (Json.getOrNone fields "ok").truthy = false then
      some ((Json.lookup fields "error").getD (.obj []))
    else none
  else if (Json.getOrNone fields "error").truthy = true then some (Json.getOrNone fields "error")
  else none

/-- A value that is nested too deeply or is no object, or an answer whose error is no object. -/
def Breaks (frame : SocketFrame) : Prop :=
  reader.loads frame = .error .recursion ∨ (∃ value, reader.loads frame = .ok value ∧ ¬ IsObject value) ∨
    ∃ fields error, reader.loads frame = .ok (.obj fields) ∧ errorOf requestId fields = some error ∧ ¬ IsObject error

def Derails (frames : List SocketFrame) : Prop :=
  ∃ before frame rest, frames = before ++ frame :: rest ∧ (∀ f ∈ before, PassedOver reader requestId f) ∧
    Breaks reader requestId frame

/-- An error that nothing makes the gateway's. -/
def CallError.Escapes : CallError → Prop
  | .noAttribute | .recursion => True
  | _ => False

end Frames

section Specs
variable {reader : FrameReader} {requestId : String} {frame : SocketFrame} {frames rest : List SocketFrame} {answer : Json}

theorem errorMessage_escapes {error : Json} :
    (∃ e, errorMessage error = .error e ∧ e.Escapes) ↔ ¬ IsObject error := by
  cases error with
  | obj fields =>
    refine iff_of_false ?_ (not_not_intro ⟨fields, rfl⟩)
    rintro ⟨e, he, -⟩
    cases he
  | _ =>
    refine iff_of_true ⟨.noAttribute, rfl, trivial⟩ ?_
    rintro ⟨fields, hfields⟩
    cases hfields

theorem raise_escapes {error : Json} :
    (∃ e, (do let message ← errorMessage error; throw (CallError.gateway message) : Except CallError (Option Json)) =
      .error e ∧ e.Escapes) ↔ ¬ IsObject error := by
  rw [← errorMessage_escapes]
  cases errorMessage error with
  | error e =>
    constructor
    · rintro ⟨e', he, hescapes⟩
      obtain rfl := Except.error.inj he
      exact ⟨e, rfl, hescapes⟩
    · rintro ⟨e', he, hescapes⟩
      obtain rfl := Except.error.inj he
      exact ⟨e, rfl, hescapes⟩
  | ok message =>
    refine iff_of_false ?_ ?_
    · rintro ⟨e, he, hescapes⟩
      obtain rfl := Except.error.inj he
      exact hescapes
    · rintro ⟨e, he, -⟩
      cases he

theorem raise_ne_ok {error : Json} {value : Option Json} :
    (do let message ← errorMessage error; throw (CallError.gateway message) : Except CallError (Option Json)) ≠
      .ok value := by
  intro h
  obtain ⟨message, -, h⟩ := bind_eq_ok.mp h
  cases h

variable {fields : List (String × Json)}

theorem inspectFrame_obj (h : reader.loads frame = .ok (.obj fields)) : inspectFrame reader requestId frame =
      match errorOf requestId fields with
      | some error => do let message ← errorMessage error; throw (.gateway message)
      | none =>
        if Json.getOrNone fields "id" ≠ .str requestId then .ok none
        else if Json.getOrNone fields "type" = .str "res" then .ok (some (Json.getOrNone fields "payload"))
        else .ok (some (Json.getOrNone fields "result")) := by
  have hinspect : inspectFrame reader requestId frame =
      if Json.getOrNone fields "type" = .str "res" ∧ Json.getOrNone fields "id" = .str requestId then
        if Json.getOrNone fields "ok" ≠ .null ∧ (Json.getOrNone fields "ok").truthy = false then do
          let message ← errorMessage ((Json.lookup fields "error").getD (.obj []))
          throw (.gateway message)
        else .ok (some (Json.getOrNone fields "payload"))
      else if Json.getOrNone fields "id" = .str requestId then
        if (Json.getOrNone fields "error").truthy = true then do
          let message ← errorMessage (Json.getOrNone fields "error")
          throw (.gateway message)
        else .ok (some (Json.getOrNone fields "result"))
      else .ok none := by
    unfold inspectFrame
    rw [h]
    rfl
  rw [hinspect]
  unfold errorOf
  by_cases hid : Json.getOrNone fields "id" = .str requestId
  · by_cases htype : Json.getOrNone fields "type" = .str "res"
    · rw [if_pos ⟨htype, hid⟩, if_neg (not_not_intro hid), if_pos htype]
      split
      · rfl
      · exact (if_neg (not_not_intro hid)).symm
    · rw [if_neg fun hboth => htype hboth.1, if_pos hid, if_neg (not_not_intro hid), if_neg htype]
      split
      · rfl
      · exact (if_neg (not_not_intro hid)).symm
  · rw [if_neg fun hboth => hid hboth.2, if_neg hid, if_pos hid]
    exact (if_pos hid).symm

theorem errorOf_foreign (h : Json.getOrNone fields "id" ≠ .str requestId) : errorOf requestId fields = none := if_pos h

theorem inspectFrame_eq_none : inspectFrame reader requestId frame = .ok none ↔ PassedOver reader requestId frame := by
  constructor
  · intro h
    obtain ⟨data, hloads, -⟩ := bind_eq_ok.mp h
    have hloads := mapError_eq_ok.mp hloads
    cases data with
    | obj fields =>
      refine ⟨fields, hloads, fun hid => ?_⟩
      rw [inspectFrame_obj hloads] at h
      split at h
      · exact raise_ne_ok h
      · rw [if_neg (not_not_intro hid)] at h
        split at h
        · cases h
        · cases h
    | _ =>
      unfold inspectFrame at h
      rw [hloads] at h
      cases h
  · rintro ⟨fields, hloads, hid⟩
    rw [inspectFrame_obj hloads, errorOf_foreign hid]
    exact if_pos hid

theorem inspectFrame_eq_some : inspectFrame reader requestId frame = .ok (some answer) ↔
    Answers reader requestId frame answer := by
  constructor
  · intro h
    obtain ⟨data, hloads, -⟩ := bind_eq_ok.mp h
    have hloads := mapError_eq_ok.mp hloads
    cases data with
    | obj fields =>
      rw [inspectFrame_obj hloads] at h
      cases herror : errorOf requestId fields with
      | some error =>
        rw [herror] at h
        exact absurd h raise_ne_ok
      | none =>
        rw [herror] at h
        dsimp only at h
        split at h
        · cases h
        · rename_i hid
          have hid := not_not.mp hid
          refine ⟨fields, hloads, hid, ?_⟩
          unfold errorOf at herror
          rw [if_neg (not_not_intro hid)] at herror
          split at h
          · rename_i htype
            rw [if_pos htype] at herror
            refine .inl ⟨htype, fun hfails => ?_, (Option.some.inj (Except.ok.inj h)).symm⟩
            rw [if_pos hfails] at herror
            cases herror
          · rename_i htype
            rw [if_neg htype] at herror
            refine .inr ⟨htype, ?_, (Option.some.inj (Except.ok.inj h)).symm⟩
            rw [← Bool.not_eq_true]
            intro htruthy
            rw [if_pos htruthy] at herror
            cases herror
    | _ =>
      unfold inspectFrame at h
      rw [hloads] at h
      cases h
  · rintro ⟨fields, hloads, hid, ⟨htype, hok, rfl⟩ | ⟨htype, herror, rfl⟩⟩
    · have hnone : errorOf requestId fields = none := by
        unfold errorOf
        rw [if_neg (not_not_intro hid), if_pos htype, if_neg hok]
      rw [inspectFrame_obj hloads, hnone]
      dsimp only
      rw [if_neg (not_not_intro hid), if_pos htype]
    · have hnone : errorOf requestId fields = none := by
        unfold errorOf
        rw [if_neg (not_not_intro hid), if_neg htype, if_neg (by rw [herror]; exact Bool.false_ne_true)]
      rw [inspectFrame_obj hloads, hnone]
      dsimp only
      rw [if_neg (not_not_intro hid), if_neg htype]

/-- A frame breaks a request exactly when looking at it raises an error that escapes. -/
theorem inspectFrame_escapes : (∃ e, inspectFrame reader requestId frame = .error e ∧ e.Escapes) ↔
    Breaks reader requestId frame := by
  cases hloads : reader.loads frame with
  | error e =>
    have hinspect : inspectFrame reader requestId frame = .error (.ofLoads e) := by
      unfold inspectFrame
      rw [hloads]
      rfl
    rw [hinspect]
    unfold Breaks
    rw [hloads]
    cases e with
    | recursion => exact iff_of_true ⟨_, rfl, trivial⟩ (.inl rfl)
    | value text =>
      refine iff_of_false ?_ ?_
      · rintro ⟨e, he, hescapes⟩
        obtain rfl := Except.error.inj he
        exact hescapes
      · rintro (h | ⟨_, h, -⟩ | ⟨_, _, h, -⟩) <;> cases h
  | ok data =>
    unfold Breaks
    rw [hloads]
    cases data with
    | obj fields =>
      rw [inspectFrame_obj hloads]
      cases herror : errorOf requestId fields with
      | some error =>
        refine raise_escapes.trans ⟨fun h => .inr (.inr ⟨fields, error, rfl, herror, h⟩), ?_⟩
        rintro (h | ⟨value, h, hvalue⟩ | ⟨fields', error', h, herror', hobject⟩)
        · cases h
        · exact absurd ⟨fields, (Except.ok.inj h).symm⟩ hvalue
        · obtain rfl := Json.obj.inj (Except.ok.inj h)
          obtain rfl := Option.some.inj (herror.symm.trans herror')
          exact hobject
      | none =>
        refine iff_of_false ?_ ?_
        · rintro ⟨e, he, -⟩
          dsimp only at he
          split at he
          · cases he
          · split at he <;> cases he
        · rintro (h | ⟨value, h, hvalue⟩ | ⟨fields', error', h, herror', hobject⟩)
          · cases h
          · exact absurd ⟨fields, (Except.ok.inj h).symm⟩ hvalue
          · obtain rfl := Json.obj.inj (Except.ok.inj h)
            rw [herror] at herror'
            cases herror'
    | _ =>
      refine iff_of_true ⟨.noAttribute, ?_, trivial⟩ (.inr (.inl ⟨_, rfl, ?_⟩))
      · unfold inspectFrame
        rw [hloads]
        rfl
      · rintro ⟨fields, h⟩
        cases h

theorem awaitResponse_eq_ok : awaitResponse reader requestId frames = .ok (answer, rest) ↔ ∃ before frame,
    frames = before ++ frame :: rest ∧ (∀ f ∈ before, PassedOver reader requestId f) ∧
      Answers reader requestId frame answer := by
  induction frames with
  | nil =>
    refine iff_of_false nofun ?_
    rintro ⟨before, frame, h, -⟩
    exact absurd h.symm (by simp)
  | cons first frames ih =>
    rw [awaitResponse]
    constructor
    · intro h
      obtain ⟨inspected, hinspect, h⟩ := bind_eq_ok.mp h
      cases inspected with
      | some answer' =>
        obtain ⟨rfl, rfl⟩ := Prod.mk.inj (pure_eq_ok.mp h)
        exact ⟨[], first, rfl, nofun, inspectFrame_eq_some.mp hinspect⟩
      | none =>
        obtain ⟨before, frame, rfl, hbefore, hanswers⟩ := ih.mp h
        exact ⟨first :: before, frame, rfl,
          List.forall_mem_cons.mpr ⟨inspectFrame_eq_none.mp hinspect, hbefore⟩, hanswers⟩
    · rintro ⟨before, frame, heq, hbefore, hanswers⟩
      cases before with
      | nil =>
        obtain ⟨rfl, rfl⟩ := List.cons.inj heq
        rw [inspectFrame_eq_some.mpr hanswers]
        rfl
      | cons f before =>
        obtain ⟨rfl, rfl⟩ := List.cons.inj heq
        obtain ⟨hfirst, hbefore⟩ := List.forall_mem_cons.mp hbefore
        rw [inspectFrame_eq_none.mpr hfirst]
        exact ih.mpr ⟨before, frame, rfl, hbefore, hanswers⟩

theorem awaitResponse_escapes : (∃ e, awaitResponse reader requestId frames = .error e ∧ e.Escapes) ↔
    Derails reader requestId frames := by
  induction frames with
  | nil =>
    refine iff_of_false ?_ ?_
    · rintro ⟨e, he, hescapes⟩
      obtain rfl := Except.error.inj he
      exact hescapes
    · rintro ⟨before, frame, rest, h, -⟩
      exact absurd h.symm (by simp)
  | cons first frames ih =>
    have hpassed : Derails reader requestId (first :: frames) ↔ Breaks reader requestId first ∨
        PassedOver reader requestId first ∧ Derails reader requestId frames := by
      constructor
      · rintro ⟨before, frame, rest, heq, hbefore, hbreaks⟩
        cases before with
        | nil =>
          obtain ⟨rfl, rfl⟩ := List.cons.inj heq
          exact .inl hbreaks
        | cons f before =>
          obtain ⟨rfl, rfl⟩ := List.cons.inj heq
          obtain ⟨hfirst, hbefore⟩ := List.forall_mem_cons.mp hbefore
          exact .inr ⟨hfirst, before, frame, rest, rfl, hbefore, hbreaks⟩
      · rintro (hbreaks | ⟨hfirst, before, frame, rest, rfl, hbefore, hbreaks⟩)
        · exact ⟨[], first, frames, rfl, nofun, hbreaks⟩
        · exact ⟨first :: before, frame, rest, rfl, List.forall_mem_cons.mpr ⟨hfirst, hbefore⟩, hbreaks⟩
    rw [hpassed, ← ih, ← inspectFrame_escapes, ← inspectFrame_eq_none, awaitResponse]
    cases inspectFrame reader requestId first with
    | error e =>
      refine ⟨fun ⟨e', he, hescapes⟩ => .inl ⟨e', ?_, hescapes⟩, ?_⟩
      · exact congrArg Except.error (Except.error.inj he)
      · rintro (⟨e', he, hescapes⟩ | ⟨h, -⟩)
        · exact ⟨e', congrArg Except.error (Except.error.inj he), hescapes⟩
        · cases h
    | ok inspected =>
      cases inspected with
      | some answer' =>
        refine iff_of_false ?_ ?_
        · rintro ⟨e, he, -⟩
          cases he
        · rintro (⟨e, he, -⟩ | ⟨h, -⟩)
          · cases he
          · cases h
      | none =>
        refine ⟨fun h => .inr ⟨rfl, h⟩, ?_⟩
        rintro (⟨e, he, -⟩ | ⟨-, h⟩)
        · cases he
        · exact h

/-! ## The first frame -/

variable {ids : RequestIds} {inTime : Bool}

def FirstText (reader : FrameReader) (frame : SocketFrame) (text : String) : Prop :=
  frame ≠ .text "" ∧ frame ≠ .binary [] ∧ decodeFrame reader frame = .ok text

/-- The first frame is a value that is nested too deeply, or no object. -/
def FirstBreaks (reader : FrameReader) (frame : SocketFrame) : Prop :=
  ∃ text, FirstText reader frame text ∧ (reader.loads (.text text) = .error .recursion ∨
    ∃ value, reader.loads (.text text) = .ok value ∧ ¬ IsObject value)

def FirstPasses (reader : FrameReader) (frame : SocketFrame) : Prop :=
  frame = .text "" ∨ frame = .binary [] ∨ ∃ text fields, FirstText reader frame text ∧
    reader.loads (.text text) = .ok (.obj fields)

theorem inspectFirst_of_text {text : String} (h : FirstText reader frame text) : inspectFirst reader frame =
    match (reader.loads (.text text)).mapError CallError.ofLoads with
    | .ok (.obj _) => .ok ()
    | .ok _ => .error .noAttribute
    | .error e => .error e := by
  unfold inspectFirst
  rw [if_neg fun hempty => hempty.elim h.1 h.2.1, h.2.2]
  show ((reader.loads (.text text)).mapError CallError.ofLoads >>= _) = _
  cases (reader.loads (.text text)).mapError CallError.ofLoads with
  | error e => rfl
  | ok data => cases data <;> rfl

theorem inspectFirst_cases (reader : FrameReader) (frame : SocketFrame) :
    FirstPasses reader frame ∧ inspectFirst reader frame = .ok () ∨
    FirstBreaks reader frame ∧ (∃ e, inspectFirst reader frame = .error e ∧ e.Escapes) ∨
      ¬ FirstPasses reader frame ∧ ¬ FirstBreaks reader frame ∧ ∃ text, inspectFirst reader frame = .error (.value text) := by
  by_cases hempty : frame = .text "" ∨ frame = .binary []
  · refine .inl ⟨hempty.elim .inl fun h => .inr (.inl h), ?_⟩
    unfold inspectFirst
    rw [if_pos hempty]
    rfl
  · have htext : frame ≠ .text "" := fun h => hempty (.inl h)
    have hbinary : frame ≠ .binary [] := fun h => hempty (.inr h)
    cases hdecode : decodeFrame reader frame with
    | error e =>
      have hnot : ∀ text, ¬ FirstText reader frame text := by
        rintro text ⟨-, -, h⟩
        rw [hdecode] at h
        cases h
      have hvalue : ∃ text, e = .value text := by
        cases frame with
        | text text => cases hdecode
        | binary bytes =>
          change (reader.decode bytes).mapError CallError.value = .error e at hdecode
          cases hbytes : reader.decode bytes with
          | ok text =>
            rw [hbytes] at hdecode
            cases hdecode
          | error text =>
            rw [hbytes] at hdecode
            exact ⟨text, (Except.error.inj hdecode).symm⟩
      obtain ⟨text, rfl⟩ := hvalue
      refine .inr (.inr ⟨?_, fun ⟨text, h, _⟩ => hnot text h, text, ?_⟩)
      · rintro (h | h | ⟨text, -, h, -⟩)
        · exact htext h
        · exact hbinary h
        · exact hnot text h
      · unfold inspectFirst
        rw [if_neg hempty, hdecode]
        rfl
    | ok text =>
      have hfirst : FirstText reader frame text := ⟨htext, hbinary, hdecode⟩
      have hsame : ∀ text', FirstText reader frame text' → text' = text := fun text' h =>
        Except.ok.inj (h.2.2.symm.trans hdecode)
      rw [inspectFirst_of_text hfirst]
      cases hloads : reader.loads (.text text) with
      | error e =>
        cases e with
        | recursion => exact .inr (.inl ⟨⟨text, hfirst, .inl hloads⟩, _, rfl, trivial⟩)
        | value message =>
          refine .inr (.inr ⟨?_, ?_, message, rfl⟩)
          · rintro (h | h | ⟨text', fields, htext', h⟩)
            · exact htext h
            · exact hbinary h
            · rw [hsame text' htext', hloads] at h
              cases h
          · rintro ⟨text', htext', h | ⟨value, h, -⟩⟩ <;>
              rw [hsame text' htext', hloads] at h <;> cases h
      | ok data =>
        cases data with
        | obj fields => exact .inl ⟨.inr (.inr ⟨text, fields, hfirst, hloads⟩), rfl⟩
        | _ =>
          refine .inr (.inl ⟨⟨text, hfirst, .inr ⟨_, hloads, ?_⟩⟩, _, rfl, trivial⟩)
          rintro ⟨fields, h⟩
          cases h

theorem firstPasses_not_breaks (hpasses : FirstPasses reader frame) : ¬ FirstBreaks reader frame := by
  rintro ⟨text, ⟨htext, hbinary, hdecode⟩, hbreaks⟩
  obtain h | h | ⟨text', fields, ⟨-, -, hdecode'⟩, hloads⟩ := hpasses
  · exact htext h
  · exact hbinary h
  · obtain rfl := Except.ok.inj (hdecode.symm.trans hdecode')
    obtain h | ⟨value, h, hvalue⟩ := hbreaks
    · rw [hloads] at h
      cases h
    · exact hvalue ⟨fields, Except.ok.inj (h.symm.trans hloads)⟩

/-! ## The call -/

def Opened (reader : FrameReader) (inTime : Bool) (frames later : List SocketFrame) : Prop :=
  inTime = false ∧ later = frames ∨ inTime = true ∧ ∃ first, frames = first :: later ∧ FirstPasses reader first

/-- A call is derailed at its first frame, while it introduces itself, or while it waits for its answer. -/
def CallDerails (reader : FrameReader) (ids : RequestIds) (inTime : Bool) (frames : List SocketFrame) : Prop :=
  (inTime = true ∧ ∃ first later, frames = first :: later ∧ FirstBreaks reader first) ∨
    ∃ later, Opened reader inTime frames later ∧ (Derails reader ids.connectId later ∨
      ∃ before frame rest answer, later = before ++ frame :: rest ∧
        (∀ f ∈ before, PassedOver reader ids.connectId f) ∧ Answers reader ids.connectId frame answer ∧
          Derails reader ids.requestId rest)

def callBehind (reader : FrameReader) (ids : RequestIds) (later : List SocketFrame) : Except CallError Json := do
  let (_, frames) ← awaitResponse reader ids.connectId later
  let (answer, _) ← awaitResponse reader ids.requestId frames
  return answer

theorem callBehind_escapes {later : List SocketFrame} : (∃ e, callBehind reader ids later = .error e ∧ e.Escapes) ↔
    Derails reader ids.connectId later ∨ ∃ before frame rest answer, later = before ++ frame :: rest ∧
      (∀ f ∈ before, PassedOver reader ids.connectId f) ∧ Answers reader ids.connectId frame answer ∧
        Derails reader ids.requestId rest := by
  have hconnected : (∃ before frame rest answer, later = before ++ frame :: rest ∧
      (∀ f ∈ before, PassedOver reader ids.connectId f) ∧ Answers reader ids.connectId frame answer ∧
        Derails reader ids.requestId rest) ↔
      ∃ answer rest, awaitResponse reader ids.connectId later = .ok (answer, rest) ∧ Derails reader ids.requestId rest := by
    constructor
    · rintro ⟨before, frame, rest, answer, hlater, hbefore, hanswers, hderails⟩
      exact ⟨answer, rest, awaitResponse_eq_ok.mpr ⟨before, frame, hlater, hbefore, hanswers⟩, hderails⟩
    · rintro ⟨answer, rest, hok, hderails⟩
      obtain ⟨before, frame, hlater, hbefore, hanswers⟩ := awaitResponse_eq_ok.mp hok
      exact ⟨before, frame, rest, answer, hlater, hbefore, hanswers, hderails⟩
  rw [hconnected, ← awaitResponse_escapes]
  unfold callBehind
  cases awaitResponse reader ids.connectId later with
  | error e =>
    constructor
    · rintro ⟨e', he, hescapes⟩
      exact .inl ⟨e', congrArg Except.error (Except.error.inj he), hescapes⟩
    · rintro (⟨e', he, hescapes⟩ | ⟨_, _, h, -⟩)
      · exact ⟨e', congrArg Except.error (Except.error.inj he), hescapes⟩
      · cases h
  | ok found =>
    obtain ⟨connected, frames⟩ := found
    have hbehind : (∃ e, (do let (answer, _) ← awaitResponse reader ids.requestId frames; return answer :
        Except CallError Json) = .error e ∧ e.Escapes) ↔ Derails reader ids.requestId frames := by
      rw [← awaitResponse_escapes]
      cases awaitResponse reader ids.requestId frames with
      | error e =>
        constructor <;> rintro ⟨e', he, hescapes⟩ <;>
          exact ⟨e', congrArg Except.error (Except.error.inj he), hescapes⟩
      | ok found =>
        constructor <;> rintro ⟨e', he, -⟩ <;> cases he
    refine hbehind.trans ⟨fun h => .inr ⟨connected, frames, rfl, h⟩, ?_⟩
    rintro (⟨e, he, -⟩ | ⟨answer, rest, hsame, h⟩)
    · cases he
    · obtain ⟨-, rfl⟩ := Prod.mk.inj (Except.ok.inj hsame)
      exact h

theorem openclawCallOnce_false : openclawCallOnce reader ids false frames = callBehind reader ids frames := rfl

theorem openclawCallOnce_cons : openclawCallOnce reader ids true (frame :: frames) =
    inspectFirst reader frame >>= fun _ => callBehind reader ids frames := by
  show (((inspectFirst reader frame >>= fun _ => awaitResponse reader ids.connectId frames) >>= _) :
    Except CallError Json) = _
  rw [bind_assoc]
  rfl

theorem openclawCallOnce_escapes :
    (∃ e, openclawCallOnce reader ids inTime frames = .error e ∧ e.Escapes) ↔ CallDerails reader ids inTime frames := by
  cases inTime with
  | false =>
    rw [openclawCallOnce_false, callBehind_escapes]
    constructor
    · exact fun h => .inr ⟨frames, .inl ⟨rfl, rfl⟩, h⟩
    · rintro (⟨h, -⟩ | ⟨later, ⟨-, rfl⟩ | ⟨h, -⟩, hbehind⟩)
      · cases h
      · exact hbehind
      · cases h
  | true =>
    cases frames with
    | nil =>
      refine iff_of_false ?_ ?_
      · rintro ⟨e, he, hescapes⟩
        obtain rfl := Except.error.inj he
        exact hescapes
      · rintro (⟨-, first, later, h, -⟩ | ⟨later, ⟨h, -⟩ | ⟨-, first, h, -⟩, -⟩) <;> cases h
    | cons first later =>
      rw [openclawCallOnce_cons]
      obtain ⟨hpasses, hok⟩ | ⟨hbreaks, e, he, hescapes⟩ | ⟨hpasses, hbreaks, text, he⟩ := inspectFirst_cases reader first
      · rw [hok]
        refine Iff.trans callBehind_escapes ⟨fun h => .inr ⟨later, .inr ⟨rfl, first, rfl, hpasses⟩, h⟩, ?_⟩
        rintro (⟨-, first', later', heq, hbreaks⟩ | ⟨later', ⟨h, -⟩ | ⟨-, first', heq, -⟩, hbehind⟩)
        · obtain ⟨rfl, rfl⟩ := List.cons.inj heq
          exact absurd hbreaks (firstPasses_not_breaks hpasses)
        · cases h
        · obtain ⟨rfl, rfl⟩ := List.cons.inj heq
          exact hbehind
      · rw [he]
        exact iff_of_true ⟨e, rfl, hescapes⟩ (.inl ⟨rfl, first, later, rfl, hbreaks⟩)
      · rw [he]
        refine iff_of_false ?_ ?_
        · rintro ⟨e, heq, hescapes⟩
          obtain rfl := Except.error.inj heq
          exact hescapes
        · rintro (⟨-, first', later', heq, hbreaks'⟩ | ⟨later', ⟨h, -⟩ | ⟨-, first', heq, hpasses'⟩, -⟩)
          · obtain ⟨rfl, rfl⟩ := List.cons.inj heq
            exact hbreaks hbreaks'
          · cases h
          · obtain ⟨rfl, rfl⟩ := List.cons.inj heq
            exact hpasses hpasses'

theorem openclawCallOnce_eq_ok (h : openclawCallOnce reader ids inTime frames = .ok answer) :
    ∃ frame ∈ frames, Answers reader ids.requestId frame answer := by
  obtain ⟨⟨firstMessage, later⟩, hfirst, h⟩ := bind_eq_ok.mp h
  obtain ⟨⟨connected, behind⟩, hconnect, h⟩ := bind_eq_ok.mp h
  obtain ⟨⟨answer', rest⟩, hanswer, h⟩ := bind_eq_ok.mp h
  obtain rfl := pure_eq_ok.mp h
  obtain ⟨-, hconnect⟩ := then_eq_ok.mp hconnect
  obtain ⟨before, frame, rfl, -, -⟩ := awaitResponse_eq_ok.mp hconnect
  obtain ⟨before', frame', rfl, -, hanswers⟩ := awaitResponse_eq_ok.mp hanswer
  refine ⟨frame', ?_, hanswers⟩
  have hmem : frame' ∈ before ++ frame :: (before' ++ frame' :: rest) := by simp
  unfold recvFirstMessageOrNone at hfirst
  split at hfirst
  · split at hfirst
    · cases hfirst
    · obtain ⟨-, rfl⟩ := Prod.mk.inj (pure_eq_ok.mp hfirst)
      exact List.mem_cons_of_mem _ hmem
  · obtain ⟨-, rfl⟩ := Prod.mk.inj (pure_eq_ok.mp hfirst)
    exact hmem

/-- A call ends with the payload or the result of the frame with its id, or with an error of the gateway. -/
def EndsCleanly (reader : FrameReader) (ids : RequestIds) (inTime : Bool) (frames : List SocketFrame) : Prop :=
  (∃ answer, openclawCall reader ids inTime frames = .ok answer ∧
      ∃ frame ∈ frames, Answers reader ids.requestId frame answer) ∨
    ∃ message, openclawCall reader ids inTime frames = .error (.gateway message)

theorem toGatewayError_escapes (reader : FrameReader) (e : CallError) :
    e.Escapes ↔ ∀ message, toGatewayError reader e ≠ .gateway message := by
  cases e with
  | gateway message => exact iff_of_false id fun h => h message rfl
  | value text => exact iff_of_false id fun h => h (.str text) rfl
  | closed => exact iff_of_false id fun h => h (.str reader.closedText) rfl
  | noAttribute => exact iff_of_true trivial nofun
  | recursion => exact iff_of_true trivial nofun

/-- **A call ends cleanly exactly when** no frame that it looks at derails it. -/
theorem endsCleanly_iff (reader : FrameReader) (ids : RequestIds) (inTime : Bool) (frames : List SocketFrame) :
    EndsCleanly reader ids inTime frames ↔ ¬ CallDerails reader ids inTime frames := by
  rw [← openclawCallOnce_escapes]
  unfold EndsCleanly openclawCall
  cases hcall : openclawCallOnce reader ids inTime frames with
  | ok answer =>
    refine iff_of_true (.inl ⟨answer, rfl, openclawCallOnce_eq_ok hcall⟩) ?_
    rintro ⟨e, he, -⟩
    cases he
  | error e =>
    constructor
    · rintro (⟨answer, h, -⟩ | ⟨message, h⟩) ⟨e', he, hescapes⟩
      · cases h
      · obtain rfl := Except.error.inj he
        exact (toGatewayError_escapes reader e).mp hescapes message (Except.error.inj h)
    · intro hnot
      have hgateway : ¬ ∀ message, toGatewayError reader e ≠ .gateway message := fun h =>
        hnot ⟨e, rfl, (toGatewayError_escapes reader e).mpr h⟩
      obtain ⟨message, hmessage⟩ := not_forall.mp hgateway
      exact .inr ⟨message, congrArg Except.error (not_not.mp hmessage)⟩

end Specs

namespace Sample

def listReader : FrameReader where
  loads frame := if frame = .text "[]" then .ok (.arr []) else .error (.value "Expecting value: line 1 column 1 (char 0)")
  decode _ := .ok "[]"
  closedText := "received 1000 (OK); then sent 1000 (OK)"

end Sample

/-- A list in the place of the challenge has no attributes. -/
theorem not_endsCleanly : ¬ ∀ (reader : FrameReader) (ids : RequestIds) (inTime : Bool) (frames : List SocketFrame),
    EndsCleanly reader ids inTime frames := by
  intro h
  have hcall : openclawCall Sample.listReader ⟨"a", "b"⟩ true [.text "[]"] = .error .noAttribute := by rfl
  obtain ⟨answer, hok, -⟩ | ⟨message, herror⟩ := h Sample.listReader ⟨"a", "b"⟩ true [.text "[]"]
  · rw [hcall] at hok
    cases hok
  · rw [hcall] at herror
    cases herror

end SiloForge
