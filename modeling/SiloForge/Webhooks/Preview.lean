import SiloForge.Core.JsonText
import SiloForge.Tenancy.AgentApi

/-!
# Previews of stored payloads

An agent may ask for a payload with a limit. The value is encoded chunk by chunk until the text is known to be longer
than the limit; a value that is a text is cut as it is, without quotes.

* `Json.encode` : the compact text of a value; `Encoder` : an encoder that writes it in chunks;
* `payloadPreviewWithLimit` : the preview, and whether it was cut;
* `previews_payload` : so that the preview does not depend on the chunks;
* `getWebhookPayloadPreview_eq` : what the endpoint makes of a stored payload.
-/

namespace SiloForge

/-! ## The text in chunks -/

namespace Json

mutual

def encodeChars (floats : FloatTexts) : Json → List Char
  | .null => "null".toList
  | .bool true => "true".toList
  | .bool false => "false".toList
  | .int n => (toString n).toList
  | .float bits => (floats.repr bits).toList
  | .str s => quoted s
  | .arr [] => "[]".toList
  | .arr (j :: items) => '[' :: (encodeChars floats j ++ encodeItems floats items ++ [']'])
  | .obj [] => ['\x7b', '\x7d']
  | .obj ((key, j) :: fields) =>
    '\x7b' :: (quoted key ++ ':' :: ' ' :: encodeChars floats j ++ encodeFields floats fields ++ ['\x7d'])

def encodeItems (floats : FloatTexts) : List Json → List Char
  | [] => []
  | j :: items => ',' :: ' ' :: encodeChars floats j ++ encodeItems floats items

def encodeFields (floats : FloatTexts) : List (String × Json) → List Char
  | [] => []
  | (key, j) :: fields => ',' :: ' ' :: (quoted key ++ ':' :: ' ' :: encodeChars floats j) ++ encodeFields floats fields

end

/-- `json.JSONEncoder(ensure_ascii=True).encode`. -/
def encode (floats : FloatTexts) (j : Json) : String := String.ofList (encodeChars floats j)

end Json

structure Encoder (floats : FloatTexts) where
  iterencode : Json → List String
  join_iterencode : ∀ value, String.join (iterencode value) = value.encode floats

/-! ## The preview -/

def truncatePreview (raw : String) (maxChars : Nat) : String :=
  if raw.length ≤ maxChars then raw
  else if maxChars ≤ 3 then String.ofList (raw.toList.take maxChars)
  else String.ofList (raw.toList.take (maxChars - 3)) ++ "..."

/-- The loop over the chunks: the parts it keeps, and whether it has stopped early. -/
def keep (maxChars : Nat) : List String → List String → Int → List String × Bool
  | [], parts, _ => (parts, false)
  | chunk :: chunks, parts, currentLen =>
    let remaining := ((maxChars : Int) + 1) - currentLen
    if remaining ≤ 0 then (parts, true)
    else if (chunk.length : Int) ≤ remaining then keep maxChars chunks (parts ++ [chunk]) (currentLen + chunk.length)
    else (parts ++ [String.ofList (chunk.toList.take remaining.toNat)], true)

/-- The preview of a text that comes in chunks. -/
def chunksPreview (maxChars : Nat) (chunks : List String) : String × Bool :=
  let (parts, stopped) := keep maxChars chunks [] 0
  let raw := String.join parts
  let truncated := stopped || decide (maxChars < raw.length)
  if truncated then (truncatePreview raw maxChars, true) else (raw, false)

def payloadPreviewWithLimit {floats : FloatTexts} (encoder : Encoder floats) (value : Json) (maxChars : Nat) :
    String × Bool :=
  match value with
  | .str s => (truncatePreview s maxChars, decide (maxChars < s.length))
  | value => chunksPreview maxChars (encoder.iterencode value)

/-- `get_webhook_payload`: the stored payload, or its preview where that was cut. -/
def getWebhookPayloadPreview {floats : FloatTexts} (encoder : Encoder floats) (s : TenantDb)
    (boardId webhookId payloadId : Uuid) (maxChars : Option Nat) : Except Failure BoardWebhookPayload := do
  let payload ← getWebhookPayload s boardId webhookId payloadId
  match maxChars with
  | none => return payload
  | some maxChars =>
    if payload.payload = .null then return payload
    else
      let (preview, wasTruncated) := payloadPreviewWithLimit encoder payload.payload maxChars
      return if wasTruncated then { payload with payload := .str preview } else payload

theorem keep_eq (maxChars : Nat) (chunks parts : List String) {currentLen : Int}
    (hlen : currentLen = (String.join parts).length)
    (hfits : (String.join parts).length ≤ maxChars + 1) :
    (String.join (keep maxChars chunks parts currentLen).1).toList =
        (String.join (parts ++ chunks)).toList.take (maxChars + 1) ∧
      ((keep maxChars chunks parts currentLen).2 = true → maxChars < (String.join (parts ++ chunks)).length) := by
  induction chunks generalizing parts currentLen with
  | nil =>
    refine ⟨?_, nofun⟩
    rw [List.append_nil]
    exact (List.take_of_length_le hfits).symm
  | cons chunk chunks ih =>
    have hsplit : (String.join (parts ++ chunk :: chunks)).toList =
        (String.join parts).toList ++ (chunk.toList ++ (String.join chunks).toList) := by
      rw [String.join_append, String.join_cons, String.toList_append, String.toList_append]
    have hlength : (String.join (parts ++ chunk :: chunks)).length =
        (String.join parts).length + (chunk.length + (String.join chunks).length) := by
      rw [← String.length_toList, hsplit, List.length_append, List.length_append]
      rfl
    unfold keep
    dsimp only
    split
    · -- the budget is used up
      rename_i hnone
      have hfull : (String.join parts).toList.length = maxChars + 1 := by
        rw [String.length_toList]
        omega
      rw [hsplit, ← hfull, List.take_left]
      exact ⟨rfl, fun _ => by omega⟩
    split
    · rename_i hsome hchunk
      have hjoin : String.join (parts ++ [chunk]) = String.join parts ++ chunk := by
        rw [String.join_append, String.join_cons, String.join_nil, String.append_empty]
      have hnext := ih (parts ++ [chunk])
        (show currentLen + chunk.length = _ by rw [hjoin, String.length_append, hlen]; push_cast; rfl)
        (by rw [hjoin, String.length_append]; omega)
      rwa [List.append_assoc, List.singleton_append] at hnext
    · -- the chunk is longer than what remains of the budget
      rename_i hsome hchunk
      have hremaining : maxChars + 1 = (String.join parts).toList.length + ((maxChars : Int) + 1 - currentLen).toNat := by
        rw [String.length_toList]
        omega
      have hcut : ((maxChars : Int) + 1 - currentLen).toNat ≤ chunk.toList.length := by
        rw [String.length_toList]
        omega
      refine ⟨?_, fun _ => by omega⟩
      rw [hsplit, hremaining, List.take_length_add_append, List.take_append_of_le_length hcut, String.join_append,
        String.join_cons, String.join_nil, String.append_empty, String.toList_append, String.toList_ofList]

/-! ## Texts cut to a limit -/

section Truncated
variable {raw : String} {maxChars : Nat}

theorem truncatePreview_of_le (h : raw.length ≤ maxChars) : truncatePreview raw maxChars = raw := if_pos h

theorem length_truncatePreview_le (raw : String) (maxChars : Nat) : (truncatePreview raw maxChars).length ≤ maxChars := by
  unfold truncatePreview
  split
  · assumption
  split
  · rw [String.length_ofList]
    exact List.length_take_le _ _
  · rename_i hlong
    have hdots : "...".length = 3 := rfl
    have htake := List.length_take_le (maxChars - 3) raw.toList
    rw [String.length_append, String.length_ofList, hdots]
    omega

theorem truncatePreview_take (h : maxChars < raw.length) :
    truncatePreview (String.ofList (raw.toList.take (maxChars + 1))) maxChars = truncatePreview raw maxChars := by
  have hlength : (String.ofList (raw.toList.take (maxChars + 1))).length = maxChars + 1 := by
    rw [String.length_ofList, List.length_take, String.length_toList]
    omega
  unfold truncatePreview
  rw [if_neg (by omega), if_neg (show ¬ raw.length ≤ maxChars by omega), String.toList_ofList, List.take_take, List.take_take,
    Nat.min_eq_left (by omega), Nat.min_eq_left (by omega)]

end Truncated

/-! ## Previews of values -/

/-- What a preview should be: the text cut to the limit, and whether it is longer than that. -/
structure Previews (full : String) (maxChars : Nat) (result : String × Bool) : Prop where
  preview : result.1 = truncatePreview full maxChars
  truncated : result.2 = true ↔ maxChars < full.length
  length_le : result.1.length ≤ maxChars
  whole : result.2 = false → result.1 = full

theorem previews_truncated (full : String) (maxChars : Nat) :
    Previews full maxChars (truncatePreview full maxChars, decide (maxChars < full.length)) where
  preview := rfl
  truncated := decide_eq_true_iff
  length_le := length_truncatePreview_le full maxChars
  whole hnot := truncatePreview_of_le (Nat.le_of_not_lt (of_decide_eq_false hnot))

theorem chunksPreview_eq (maxChars : Nat) (chunks : List String) : chunksPreview maxChars chunks =
    (truncatePreview (String.join chunks) maxChars, decide (maxChars < (String.join chunks).length)) := by
  obtain ⟨hfront, hstopped⟩ := keep_eq maxChars chunks [] (show (0 : Int) = _ from rfl) (Nat.zero_le _)
  rw [List.nil_append] at hfront hstopped
  have hraw : String.join (keep maxChars chunks [] 0).1 =
      String.ofList ((String.join chunks).toList.take (maxChars + 1)) := by
    rw [← hfront, String.ofList_toList]
  unfold chunksPreview
  dsimp only
  rw [hraw, String.length_ofList, List.length_take, String.length_toList]
  by_cases hlong : maxChars < (String.join chunks).length
  · have hmin : maxChars < min (maxChars + 1) (String.join chunks).length := by omega
    rw [decide_eq_true hmin, Bool.or_true, if_pos rfl, truncatePreview_take hlong, decide_eq_true hlong]
  · have hmin : ¬ maxChars < min (maxChars + 1) (String.join chunks).length := by omega
    have hgoing : (keep maxChars chunks [] 0).2 = false := Bool.eq_false_iff.mpr fun h => hlong (hstopped h)
    have hwhole : (String.join chunks).toList.take (maxChars + 1) = (String.join chunks).toList :=
      List.take_of_length_le (by rw [String.length_toList]; omega)
    rw [hgoing, decide_eq_false hmin, Bool.or_false, if_neg Bool.false_ne_true, hwhole, String.ofList_toList,
      truncatePreview_of_le (Nat.le_of_not_lt hlong), decide_eq_false hlong]

/-- The text a preview shows: a text as it is, any other value encoded. -/
def previewedText (floats : FloatTexts) : Json → String
  | .str s => s
  | value => value.encode floats

theorem payloadPreviewWithLimit_eq {floats : FloatTexts} (encoder : Encoder floats) (value : Json) (maxChars : Nat) :
    payloadPreviewWithLimit encoder value maxChars = (truncatePreview (previewedText floats value) maxChars,
      decide (maxChars < (previewedText floats value).length)) := by
  have hencoded : chunksPreview maxChars (encoder.iterencode value) =
      (truncatePreview (value.encode floats) maxChars, decide (maxChars < (value.encode floats).length)) := by
    rw [chunksPreview_eq, encoder.join_iterencode]
  cases value with
  | str s => rfl
  | null | bool _ | int _ | float _ | arr _ | obj _ => exact hencoded

/-- **A preview shows the text of the value**, however its encoder splits it. -/
theorem previews_payload {floats : FloatTexts} (encoder : Encoder floats) (value : Json) (maxChars : Nat) :
    Previews (previewedText floats value) maxChars (payloadPreviewWithLimit encoder value maxChars) := by
  rw [payloadPreviewWithLimit_eq]
  exact previews_truncated _ _

/-- **The endpoint** answers with the stored payload, but for a text that is cut where that of the payload is too long. -/
theorem getWebhookPayloadPreview_eq {floats : FloatTexts} (encoder : Encoder floats) (s : TenantDb)
    (boardId webhookId payloadId : Uuid) (maxChars : Nat) :
    getWebhookPayloadPreview encoder s boardId webhookId payloadId (some maxChars) =
      (getWebhookPayload s boardId webhookId payloadId).map fun stored =>
        if stored.payload ≠ .null ∧ maxChars < (previewedText floats stored.payload).length then
          { stored with payload := .str (truncatePreview (previewedText floats stored.payload) maxChars) }
        else stored := by
  simp only [getWebhookPayloadPreview, payloadPreviewWithLimit_eq]
  cases getWebhookPayload s boardId webhookId payloadId with
  | error e => rfl
  | ok stored =>
    show (if stored.payload = .null then _ else _) = _
    by_cases hnull : stored.payload = .null
    · rw [if_pos hnull, Except.map, if_neg fun h => h.1 hnull]
      rfl
    rw [if_neg hnull, Except.map]
    by_cases hlong : maxChars < (previewedText floats stored.payload).length
    · rw [if_pos (decide_eq_true hlong), if_pos ⟨hnull, hlong⟩]
      rfl
    · rw [if_neg (mt of_decide_eq_true hlong), if_neg fun h => hlong h.2]
      rfl

namespace Sample

def oneFloat : FloatTexts :=
  ⟨fun _ => "0.5", fun _ c hc => by simpa using List.all_eq_true.mp (by decide : "0.5".toList.all (!isSpace ·)) c hc⟩

def oneChunk (floats : FloatTexts) : Encoder floats := ⟨fun value => [value.encode floats], fun _ => by simp⟩

end Sample

/-- A text is shown without quotes: it is whole where its encoding is too long. -/
theorem not_previews_encoded : ¬ ∀ (floats : FloatTexts) (encoder : Encoder floats) (value : Json) (maxChars : Nat),
    1 ≤ maxChars → Previews (value.encode floats) maxChars (payloadPreviewWithLimit encoder value maxChars) := by
  intro h
  have hwhole := (h Sample.oneFloat (Sample.oneChunk _) (.str "abc") 4 (by decide)).whole rfl
  exact absurd hwhole (by decide)

end SiloForge
