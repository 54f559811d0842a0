import SiloForge.Core.Digits
import SiloForge.Core.Failure
import SiloForge.Core.UuidText
import Mathlib.Data.List.Nodup

/-!
# The contracts of the queue

Envelopes and payloads are checked against a schema of flat objects before their fields are read.

* `ContractSchema.validate` : the check, and `validate_eq_ok`: what it establishes;
* `readText`, `readUuid`, `readDateTime` : the fields a contract reads;
* `accepts_sortFields`, `readText_sortFields` : the order of the keys is of no account.
-/

namespace SiloForge

/-! ## Datetimes and numbers -/

/-- The microseconds of the wall clock, in UTC. -/
abbrev Instant := Int

/-- A datetime: the microseconds its clock shows, and the microseconds this clock is ahead of UTC, where known. -/
structure DateTime where
  micros : Int
  offset : Option Int
  deriving DecidableEq

namespace DateTime

/-- `datetime.now(UTC)`. -/
def utc (now : Instant) : DateTime := ⟨now, some 0⟩

/-- `utcnow()`. -/
def naive (now : Instant) : DateTime := ⟨now, none⟩

/-- The clock is ahead of UTC by whole minutes, where that is known. -/
def WholeMinutes (d : DateTime) : Prop := ∀ o ∈ d.offset, (60000000 : Int) ∣ o

instance (d : DateTime) : Decidable d.WholeMinutes := inferInstanceAs (Decidable (∀ o ∈ d.offset, (60000000 : Int) ∣ o))

theorem wholeMinutes_utc (now : Instant) : (utc now).WholeMinutes := fun _ ho => Option.some.inj ho ▸ dvd_zero _

theorem wholeMinutes_naive (now : Instant) : (naive now).WholeMinutes := fun o ho => absurd ho (Option.not_mem_none o)

end DateTime

/-- Datetimes as texts, and the values `str` writes in a way of its own. `isoformat` writes an offset to the microsecond,
and `fromisoformat` reads it; a contract knows offsets of hours and minutes only. -/
structure QueueTexts where
  isoformat : DateTime → String
  fromisoformat : String → Option DateTime
  /-- The instant of a number of seconds. -/
  fromtimestamp : Json → Option Instant
  /-- How a contract reads a datetime. -/
  parse : String → Option DateTime
  /-- How a contract writes a datetime. -/
  dump : DateTime → String
  /-- `str` of a float, a list or a dictionary. -/
  repr : Json → String
  parse_isoformat : ∀ d, parse (isoformat d) = if d.WholeMinutes then some d else none
  parse_dump : ∀ d, d.WholeMinutes → parse (dump d) = some d
  wholeMinutes_of_parse : ∀ s d, parse s = some d → d.WholeMinutes

theorem QueueTexts.parse_isoformat_of_whole (texts : QueueTexts) {d : DateTime} (h : d.WholeMinutes) :
    texts.parse (texts.isoformat d) = some d := by
  rw [texts.parse_isoformat, if_pos h]

/-- The integer towards zero of a float, given by its bits. -/
def floatToInt? (bits : BitVec 64) : Option Int :=
  let exponent := (bits.extractLsb' 52 11).toNat
  let fraction := (bits.extractLsb' 0 52).toNat
  let size : Nat :=
    if exponent = 0 then 0
    else if exponent < 1075 then (2 ^ 52 + fraction) / 2 ^ (1075 - exponent)
    else (2 ^ 52 + fraction) * 2 ^ (exponent - 1075)
  if exponent = 0x7ff then none else some (if bits.msb then -(size : Int) else size)

/-- `int(value)`. -/
def toInt? : Json → Option Int
  | .bool b => some (if b then 1 else 0)
  | .int n => some n
  | .float bits => floatToInt? bits
  | .str s => intOfText? s
  | _ => none

/-- `str(value)`. -/
def toText (texts : QueueTexts) : Json → String
  | .null => "None"
  | .bool true => "True"
  | .bool false => "False"
  | .int n => toString n
  | .str s => s
  | j => texts.repr j

/-- `bool(value)`. -/
def truthy : Json → Bool
  | .null => false
  | .bool b => b
  | .int n => n ≠ 0
  | .float bits => bits.extractLsb' 0 63 ≠ 0
  | .str s => s ≠ ""
  | .arr items => !items.isEmpty
  | .obj fields => !fields.isEmpty

/-! ## Schemas -/

abbrev Fields := List (String × Json)

inductive JsonType where
  | null | object | string | integer | boolean
  deriving DecidableEq

/-- `_matches_type`. -/
def JsonType.matches : JsonType → Json → Bool
  | .null, .null | .object, .obj _ | .string, .str _ | .integer, .int _ | .boolean, .bool _ => true
  | _, _ => false

structure PropertySchema where
  types : List JsonType
  enum : Option (List String) := none
  minimum : Option Int := none
  deriving DecidableEq

structure ContractSchema where
  required : List String
  properties : List (String × PropertySchema)

inductive ContractError where
  | expectedType (path : String) (types : List JsonType)
  | notInEnum (path : String)
  | belowMinimum (path : String) (minimum : Int)
  | missingProperty (path key : String)
  | unexpectedProperties (path : String) (keys : List String)
  deriving DecidableEq

inductive QueueError where
  | document
  | contract (e : ContractError)
  | field (key : String)
  | taskType (given expected : String)
  | overflow
  | redis
  deriving DecidableEq

namespace PropertySchema

def below (schema : PropertySchema) : Json → Option Int
  | .int n => schema.minimum.filter fun m => n < m
  | _ => none

def allowed (schema : PropertySchema) (value : Json) : Bool :=
  schema.enum.all fun texts => value.str?.any (· ∈ texts)

@[simp] theorem allowed_any (types : List JsonType) (minimum : Option Int) (value : Json) :
    allowed { types, minimum } value = true := rfl

/-- `_validate_node`. -/
def validate (schema : PropertySchema) (path : String) (value : Json) : Except ContractError Unit := do
  require (schema.types.any (·.matches value)) (.expectedType path schema.types)
  require (schema.allowed value) (.notInEnum path)
  match schema.below value with
  | some m => throw (.belowMinimum path m)
  | none => return

def Accepts (schema : PropertySchema) (value : Json) : Prop :=
  schema.types.any (·.matches value) ∧ schema.allowed value ∧ schema.below value = none

theorem validate_eq_ok {schema : PropertySchema} {path : String} {value : Json} {u : Unit} :
    schema.validate path value = .ok u ↔ schema.Accepts value := by
  unfold validate Accepts
  simp only [bind_eq_ok, require_eq_ok, exists_const]
  cases h : schema.below value with
  | none => simp [pure_eq_ok]
  | some m => simp [throw_eq_ok]

theorem matches_sortKeys (type : JsonType) (value : Json) : type.matches value.sortKeys = type.matches value := by
  cases value <;> cases type <;> rfl

theorem below_sortKeys (schema : PropertySchema) (value : Json) : schema.below value.sortKeys = schema.below value := by
  cases value <;> rfl

theorem allowed_sortKeys (schema : PropertySchema) (value : Json) :
    schema.allowed value.sortKeys = schema.allowed value := by
  cases value <;> rfl

theorem accepts_sortKeys {schema : PropertySchema} {value : Json} :
    schema.Accepts value.sortKeys ↔ schema.Accepts value := by
  simp only [Accepts, matches_sortKeys, allowed_sortKeys, below_sortKeys]

end PropertySchema

namespace ContractSchema

def validateProperties (fields : Fields) : List (String × PropertySchema) → Except ContractError Unit
  | [] => return
  | (key, child) :: rest =>
    match Json.lookup fields key with
    | some value => do
      child.validate s!"$.{key}" value
      validateProperties fields rest
    | none => validateProperties fields rest

def missing? (schema : ContractSchema) (fields : Fields) : Option String :=
  schema.required.find? fun key => key ∉ fields.map Prod.fst

def unexpected (schema : ContractSchema) (fields : Fields) : List String :=
  (fields.map Prod.fst).filter fun key => key ∉ schema.properties.map Prod.fst

/-- `validate_contract_payload`. -/
def validate (schema : ContractSchema) : Json → Except ContractError Unit
  | .obj fields =>
    match schema.missing? fields with
    | some key => throw (.missingProperty "$" key)
    | none => do
      require (schema.unexpected fields = []) (.unexpectedProperties "$" (schema.unexpected fields))
      validateProperties fields schema.properties
  | _ => throw (.expectedType "$" [.object])

/-- What `validate` accepts. -/
structure Accepts (schema : ContractSchema) (fields : Fields) : Prop where
  required : ∀ key ∈ schema.required, key ∈ fields.map Prod.fst
  closed : ∀ key ∈ fields.map Prod.fst, key ∈ schema.properties.map Prod.fst
  properties : ∀ p ∈ schema.properties, ∀ value, Json.lookup fields p.1 = some value → p.2.Accepts value

variable {fields : Fields} {schema : ContractSchema} {candidates : List (String × Option Json)}

theorem validateProperties_eq_ok {properties : List (String × PropertySchema)} {u : Unit} :
    validateProperties fields properties = .ok u ↔
      ∀ p ∈ properties, ∀ value, Json.lookup fields p.1 = some value → p.2.Accepts value := by
  induction properties with
  | nil => simp [validateProperties, pure_eq_ok]
  | cons p rest ih =>
    obtain ⟨key, child⟩ := p
    rw [validateProperties, List.forall_mem_cons, ← ih]
    cases Json.lookup fields key with
    | none => simp
    | some value => simp [bind_eq_ok, PropertySchema.validate_eq_ok]

theorem missing?_eq_none : schema.missing? fields = none ↔ ∀ key ∈ schema.required, key ∈ fields.map Prod.fst := by
  simp [missing?]

theorem unexpected_eq_nil :
    schema.unexpected fields = [] ↔ ∀ key ∈ fields.map Prod.fst, key ∈ schema.properties.map Prod.fst := by
  unfold unexpected
  simp only [List.filter_eq_nil_iff, decide_eq_true_eq, not_not]

theorem validate_obj_eq_ok {u : Unit} : schema.validate (.obj fields) = .ok u ↔ schema.Accepts fields := by
  rw [validate]
  split
  · rename_i key hmissing
    rw [throw_eq_ok, false_iff]
    intro h
    rw [missing?_eq_none.mpr h.required] at hmissing
    cases hmissing
  · rename_i hmissing
    simp only [bind_eq_ok, require_eq_ok, validateProperties_eq_ok, unexpected_eq_nil, exists_const]
    exact ⟨fun h => ⟨missing?_eq_none.mp hmissing, h.1, h.2⟩, fun h => ⟨h.closed, h.properties⟩⟩

/-- **The order of the keys** is of no account to a schema. -/
theorem accepts_sortFields : schema.Accepts (Json.sortFields fields) ↔ schema.Accepts fields := by
  constructor
  · rintro ⟨hrequired, hclosed, hproperties⟩
    refine ⟨fun key hk => Json.mem_keys_sortFields.mp (hrequired key hk),
      fun key hk => hclosed key (Json.mem_keys_sortFields.mpr hk), fun p hp value hvalue => ?_⟩
    have hsorted : Json.lookup (Json.sortFields fields) p.1 = some value.sortKeys := by
      rw [Json.lookup_sortFields, hvalue, Option.map_some]
    exact PropertySchema.accepts_sortKeys.mp (hproperties p hp _ hsorted)
  · rintro ⟨hrequired, hclosed, hproperties⟩
    refine ⟨fun key hk => Json.mem_keys_sortFields.mpr (hrequired key hk),
      fun key hk => hclosed key (Json.mem_keys_sortFields.mp hk), fun p hp value hvalue => ?_⟩
    rw [Json.lookup_sortFields] at hvalue
    obtain ⟨v, hv, rfl⟩ := Option.map_eq_some_iff.mp hvalue
    exact PropertySchema.accepts_sortKeys.mpr (hproperties p hp v hv)

theorem accepts_setField {key : String} {value : Json} (h : schema.Accepts fields)
    (hkey : key ∈ schema.properties.map Prod.fst) (hvalue : ∀ p ∈ schema.properties, p.1 = key → p.2.Accepts value) :
    schema.Accepts (Json.setField fields key value) := by
  refine ⟨fun k hk => Json.keys_setField.mpr (.inr (h.required k hk)), fun k hk => ?_, fun p hp v hv => ?_⟩
  · rcases Json.keys_setField.mp hk with rfl | hk
    · exact hkey
    · exact h.closed k hk
  · rw [Json.lookup_setField] at hv
    by_cases hp' : key = p.1
    · rw [if_pos hp'] at hv
      obtain rfl := Option.some.inj hv
      exact hvalue p hp hp'.symm
    · rw [if_neg hp'] at hv
      exact h.properties p hp v hv

/-! ### Payloads with absent fields -/

def present (candidates : List (String × Option Json)) : Fields :=
  candidates.filterMap fun c => c.2.map fun value => (c.1, value)

theorem mem_present {f : String × Json} : f ∈ present candidates ↔ (f.1, some f.2) ∈ candidates := by
  unfold present
  rw [List.mem_filterMap]
  constructor
  · rintro ⟨⟨key, value⟩, hmem, heq⟩
    obtain ⟨v, hv, rfl⟩ := Option.map_eq_some_iff.mp heq
    obtain rfl : value = some v := hv
    exact hmem
  · exact fun hmem => ⟨_, hmem, rfl⟩

theorem lookup_present (hnodup : (candidates.map Prod.fst).Nodup) {key : String} {value : Json} :
    Json.lookup (present candidates) key = some value ↔ (key, some value) ∈ candidates := by
  constructor
  · exact fun h => mem_present.mp (Json.mem_of_lookup h)
  · intro hmem
    have hin : (key, value) ∈ present candidates := mem_present.mpr hmem
    unfold Json.lookup
    cases hf : (present candidates).find? fun f => f.1 = key with
    | none => exact absurd (List.find?_eq_none.mp hf _ hin) (by simp)
    | some f =>
      have hkey : f.1 = key := by simpa using List.find?_some hf
      have hf' : (f.1, some f.2) ∈ candidates := mem_present.mp (List.mem_of_find?_eq_some hf)
      have hsame := Prod.mk.inj (List.inj_on_of_nodup_map hnodup hf' hmem hkey)
      rw [Option.map_some, Option.some.inj hsame.2]

theorem accepts_present (hnodup : (candidates.map Prod.fst).Nodup)
    (hrequired : ∀ key ∈ schema.required, ∃ value, (key, some value) ∈ candidates)
    (hclosed : ∀ c ∈ candidates, c.1 ∈ schema.properties.map Prod.fst) :
    schema.Accepts (present candidates) ↔
      ∀ c ∈ candidates, ∀ value ∈ c.2, ∀ p ∈ schema.properties, p.1 = c.1 → p.2.Accepts value := by
  constructor
  · rintro ⟨-, -, hproperties⟩ ⟨key, value⟩ hc v hv p hp rfl
    obtain rfl : value = some v := hv
    exact hproperties p hp v ((lookup_present hnodup).mpr hc)
  · intro h
    refine ⟨fun key hkey => ?_, fun key hkey => ?_, fun p hp value hvalue => ?_⟩
    · obtain ⟨value, hmem⟩ := hrequired key hkey
      exact List.mem_map.mpr ⟨(key, value), mem_present.mpr hmem, rfl⟩
    · obtain ⟨f, hf, rfl⟩ := List.mem_map.mp hkey
      exact hclosed _ (mem_present.mp hf)
    · exact h _ ((lookup_present hnodup).mp hvalue) value rfl p hp rfl

end ContractSchema

/-! ## Reading fields -/

def readText (fields : Fields) (key : String) : Except QueueError String :=
  orFail ((Json.lookup fields key).bind Json.str?) (.field key)

def readFields (fields : Fields) (key : String) : Except QueueError Fields :=
  match Json.lookup fields key with
  | some (.obj inner) => .ok inner
  | _ => .error (.field key)

def readInt (fields : Fields) (key : String) (absent : Option Int) : Except QueueError Int :=
  match Json.lookup fields key with
  | some (.int n) => .ok n
  | some _ => .error (.field key)
  | none => orFail absent (.field key)

def readUuid (fields : Fields) (key : String) : Except QueueError Uuid := do
  let text ← readText fields key
  orFail (Uuid.ofString? text) (.field key)

def readDateTime (texts : QueueTexts) (fields : Fields) (key : String) : Except QueueError DateTime := do
  let text ← readText fields key
  orFail (texts.parse text) (.field key)

theorem wholeMinutes_of_readDateTime {texts : QueueTexts} {fields : Fields} {key : String} {d : DateTime}
    (h : readDateTime texts fields key = .ok d) : d.WholeMinutes := by
  obtain ⟨text, -, hparse⟩ := bind_eq_ok.mp h
  exact texts.wholeMinutes_of_parse text d (orFail_eq_ok.mp hparse)

theorem readInt_nonneg {schema : ContractSchema} {fields : Fields} {key : String} {absent : Option Int} {n : Int}
    (haccepts : schema.Accepts fields)
    (hcount : (key, { types := [.integer], minimum := some 0 }) ∈ schema.properties) (habsent : ∀ m ∈ absent, 0 ≤ m)
    (h : readInt fields key absent = .ok n) : 0 ≤ n := by
  unfold readInt at h
  split at h
  · rename_i m hlookup
    obtain rfl := Except.ok.inj h
    obtain ⟨-, hbelow⟩ := haccepts.properties _ hcount _ hlookup
    simpa [PropertySchema.below, Option.filter] using hbelow
  · cases h
  · exact habsent n (orFail_eq_ok.mp h)

theorem str?_sortKeys (j : Json) : j.sortKeys.str? = j.str? := by cases j <;> rfl

theorem readText_sortFields (fields : Fields) (key : String) :
    readText (Json.sortFields fields) key = readText fields key := by
  unfold readText
  rw [Json.lookup_sortFields, Option.bind_map]
  congr 2
  funext j
  exact str?_sortKeys j

theorem readInt_sortFields (fields : Fields) (key : String) (absent : Option Int) :
    readInt (Json.sortFields fields) key absent = readInt fields key absent := by
  unfold readInt
  rw [Json.lookup_sortFields]
  cases Json.lookup fields key with
  | none => rfl
  | some j => cases j <;> rfl

theorem readUuid_sortFields (fields : Fields) (key : String) :
    readUuid (Json.sortFields fields) key = readUuid fields key := by
  unfold readUuid
  rw [readText_sortFields]

theorem readDateTime_sortFields (texts : QueueTexts) (fields : Fields) (key : String) :
    readDateTime texts (Json.sortFields fields) key = readDateTime texts fields key := by
  unfold readDateTime
  rw [readText_sortFields]

end SiloForge
