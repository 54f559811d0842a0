import SiloForge.Contracts.Equality
import SiloForge.Core.Failure
import SiloForge.Lib.Everywhere

/-!
# The contract validator

Payloads are checked against a subset of JSON Schema. The validator walks a schema and a value together.

* `Schema` : the keywords of the contracts; `validateContractPayload` : the check;
* `Part` : the parts of a value and the schemas they answer to; `Conforms` : conformance by JSON Schema;
* `Visits`, `Passes`, `validateNode_eq_ok` : the parts the validator visits, and what it accepts.
-/

namespace SiloForge

open Lib

/-! ## Schemas -/

inductive SchemaType where
  | null | object | array | string | integer | number | boolean
  deriving DecidableEq

/-- The `type` keyword: a type, or a list of types. -/
inductive TypeKeyword where
  | one (type : SchemaType)
  | any (types : List SchemaType)

inductive JsonNumber where
  | int (n : Int)
  | float (bits : BitVec 64)
  deriving DecidableEq

inductive Schema where
  | node (type : Option TypeKeyword) (enum : Option (List Json)) (minimum : Option JsonNumber)
      (minLength : Option Nat) (required : List String) (properties : List (String × Schema))
      (additionalProperties : Bool) (items : Option Schema)

def SchemaType.name : SchemaType → String
  | null => "null"
  | object => "object"
  | array => "array"
  | string => "string"
  | integer => "integer"
  | number => "number"
  | boolean => "boolean"

/-- `_matches_type`, of one type. -/
def SchemaType.matches : SchemaType → Json → Bool
  | null, .null | object, .obj _ | array, .arr _ | string, .str _ | integer, .int _ | number, .int _
  | number, .float _ | boolean, .bool _ => true
  | _, _ => false

def TypeKeyword.types : TypeKeyword → List SchemaType
  | one type => [type]
  | any types => types

/-- `_matches_type`. -/
def TypeKeyword.matches (expected : TypeKeyword) (value : Json) : Bool := expected.types.any (·.matches value)

/-- `_describe_type`. -/
def TypeKeyword.describe (expected : TypeKeyword) : String := " | ".intercalate (expected.types.map (·.name))

/-- `_primary_type`: the type a value has among those expected. -/
def TypeKeyword.primary? (expected : TypeKeyword) (value : Json) : Option SchemaType :=
  expected.types.find? (·.matches value)

namespace JsonNumber

def value : JsonNumber → NumberValue
  | int n => .finite n
  | float bits => floatValue bits

def toJson : JsonNumber → Json
  | int n => .int n
  | float bits => .float bits

end JsonNumber

namespace Schema

def type : Schema → Option TypeKeyword
  | node type _ _ _ _ _ _ _ => type

def enum : Schema → Option (List Json)
  | node _ enum _ _ _ _ _ _ => enum

def minimum : Schema → Option JsonNumber
  | node _ _ minimum _ _ _ _ _ => minimum

def minLength : Schema → Option Nat
  | node _ _ _ minLength _ _ _ _ => minLength

def required : Schema → List String
  | node _ _ _ _ required _ _ _ => required

def properties : Schema → List (String × Schema)
  | node _ _ _ _ _ properties _ _ => properties

def additionalProperties : Schema → Bool
  | node _ _ _ _ _ _ additionalProperties _ => additionalProperties

def items : Schema → Option Schema
  | node _ _ _ _ _ _ _ items => items

end Schema

/-! ## The validator -/

def pythonTypeName : Json → String
  | .null => "NoneType"
  | .bool _ => "bool"
  | .int _ => "int"
  | .float _ => "float"
  | .str _ => "str"
  | .arr _ => "list"
  | .obj _ => "dict"

section Validate
variable (repr : Json → String)

def missingRequired? (required : List String) (fields : List (String × Json)) : Option String :=
  required.find? fun key => key ∉ fields.map Prod.fst

/-- The keys a closed schema does not know, sorted. -/
def unexpectedKeys (known : List String) (fields : List (String × Json)) : List String :=
  ((fields.map Prod.fst).filter (· ∉ known)).mergeSort (· ≤ ·)

/-- `_validate_object`, by what checks the properties. -/
def validateObject (required known : List String) (additionalProperties : Bool)
    (validateProperties : List (String × Json) → Except String Unit) (path : String) : Json → Except String Unit
  | .obj fields => do
    match missingRequired? required fields with
    | some key => throw (path ++ ": missing required property " ++ repr (.str key))
    | none =>
      require (additionalProperties = true ∨ unexpectedKeys known fields = [])
        (path ++ ": unexpected properties "
          ++ ", ".intercalate ((unexpectedKeys known fields).map fun key => repr (.str key)))
      validateProperties fields
  | value => throw (path ++ ": expected object, got " ++ pythonTypeName value)

/-- `_validate_array`, by what checks the items. -/
def validateArray (validateItems : List Json → Except String Unit) (path : String) : Json → Except String Unit
  | .arr items => validateItems items
  | value => throw (path ++ ": expected array, got " ++ pythonTypeName value)

/-- The value has a type the schema names. -/
def checkType (type : Option TypeKeyword) (value : Json) (path : String) : Except String Unit :=
  match type with
  | some expected =>
    require (expected.matches value = true)
      (path ++ ": expected " ++ expected.describe ++ ", got " ++ pythonTypeName value)
  | none => .ok ()

def checkEnum (enum : Option (List Json)) (value : Json) (path : String) : Except String Unit :=
  match enum with
  | some allowed =>
    require (allowed.any (pythonEqual value) = true) (path ++ ": value " ++ repr value ++ " is not in allowed enum")
  | none => .ok ()

def checkMinimum (minimum : Option JsonNumber) (value : Json) (path : String) : Except String Unit :=
  match minimum, value.pythonNumber? with
  | some bound, some number =>
    require (number.lt bound.value = false) (path ++ ": must be >= " ++ repr bound.toJson)
  | _, _ => .ok ()

mutual

def validateNode : Schema → Json → String → Except String Unit
  | .node type enum minimum _ required properties additionalProperties items, value, path => do
    checkType type value path
    checkEnum repr enum value path
    checkMinimum repr minimum value path
    match type.bind (·.primary? value) with
    | some .object =>
      validateObject repr required (properties.map Prod.fst) additionalProperties
        (fun fields => validateProperties properties fields path) path value
    | some .array => validateArray (fun values => validateItems items values path) path value
    | _ => pure ()

def validateProperties : List (String × Schema) → List (String × Json) → String → Except String Unit
  | [], _, _ => pure ()
  | (key, child) :: rest, fields, path => do
    match Json.lookup fields key with
    | some value => validateNode child value (path ++ "." ++ key)
    | none => pure ()
    validateProperties rest fields path

def validateItems : Option Schema → List Json → String → Except String Unit
  | none, _, _ => pure ()
  | some child, values, path =>
    values.zipIdx.forM fun (value, index) => validateNode child value (path ++ "[" ++ toString index ++ "]")

end

def validateContractPayload (schema : Schema) (payload : Json) : Except String Unit :=
  validateNode repr schema payload "$"

end Validate

/-! ## The walk -/

/-- A part of a value, and the schema it answers to. -/
inductive Part : Schema × Json → Schema × Json → Prop
  | property {schema child : Schema} {key : String} {fields : List (String × Json)} {value : Json}
      (hkey : (key, child) ∈ schema.properties) (hvalue : Json.lookup fields key = some value) :
      Part (schema, .obj fields) (child, value)
  | item {schema child : Schema} {items : List Json} {value : Json} (hitems : schema.items = some child)
      (hvalue : value ∈ items) : Part (schema, .arr items) (child, value)

/-- The parts the validator visits: those of a schema with a type. -/
def Visits (p q : Schema × Json) : Prop := Part p q ∧ p.1.type.isSome = true

theorem Part.sizeOf_lt {p q : Schema × Json} (h : Part p q) : sizeOf q.1 < sizeOf p.1 := by
  cases h with
  | @property schema child key fields value hkey hvalue =>
    obtain ⟨type, enum, minimum, minLength, required, properties, additionalProperties, items⟩ := schema
    have hmem : sizeOf (key, child) < sizeOf properties := List.sizeOf_lt_of_mem hkey
    simp only [Prod.mk.sizeOf_spec] at hmem
    simp only [Schema.node.sizeOf_spec]
    omega
  | @item schema child values value hitems hvalue =>
    obtain ⟨type, enum, minimum, minLength, required, properties, additionalProperties, items⟩ := schema
    obtain rfl : items = some child := hitems
    simp only [Schema.node.sizeOf_spec, Option.some.sizeOf_spec]
    omega

theorem wellFounded_part : WellFounded fun q p : Schema × Json => Part p q :=
  Subrelation.wf (fun h => Part.sizeOf_lt h) (measure fun p : Schema × Json => sizeOf p.1).wf

/-! ## Conformance -/

/-- Whether a value has a type: a number without a fraction is an integer. -/
def SchemaType.holds : SchemaType → Json → Bool
  | integer, .float bits => floatIsInteger bits
  | type, value => type.matches value

/-- What an object answers to beside its properties. -/
structure Schema.HoldsObject (schema : Schema) (fields : List (String × Json)) : Prop where
  required : ∀ key ∈ schema.required, key ∈ fields.map Prod.fst
  closed : schema.additionalProperties = false →
    ∀ key ∈ fields.map Prod.fst, key ∈ schema.properties.map Prod.fst

/-- What JSON Schema asks of a value beside its parts. -/
structure Schema.ConformsHere (schema : Schema) (value : Json) : Prop where
  type : ∀ expected ∈ schema.type, ∃ type ∈ expected.types, type.holds value = true
  enum : ∀ allowed ∈ schema.enum, ∃ e ∈ allowed, jsonEqual value e = true
  minimum : ∀ bound ∈ schema.minimum, ∀ number ∈ value.number?, number.lt bound.value = false
  minLength : ∀ least ∈ schema.minLength, ∀ text ∈ value.str?, least ≤ text.length
  object : ∀ fields, value = .obj fields → schema.HoldsObject fields

/-- **Conformance** by JSON Schema: of the value and of every part of it. -/
def Conforms (schema : Schema) (value : Json) : Prop :=
  Everywhere Part (fun p => p.1.ConformsHere p.2) (schema, value)

/-! ## What the validator accepts -/

/-- What the validator asks of a value beside its parts. -/
structure Schema.PassesHere (schema : Schema) (value : Json) : Prop where
  type : ∀ expected ∈ schema.type, expected.matches value = true
  enum : ∀ allowed ∈ schema.enum, ∃ e ∈ allowed, pythonEqual value e = true
  minimum : ∀ bound ∈ schema.minimum, ∀ number ∈ value.pythonNumber?, number.lt bound.value = false
  object : schema.type.isSome = true → ∀ fields, value = .obj fields → schema.HoldsObject fields

/-- What the validator accepts: a value and the parts it visits. -/
def Passes (schema : Schema) (value : Json) : Prop :=
  Everywhere Visits (fun p => p.1.PassesHere p.2) (schema, value)

section Accepts
variable {repr : Json → String}

variable {value : Json} {path : String} {fields : List (String × Json)} {expected : TypeKeyword} {schema : Schema}

theorem checkType_eq_ok {type : Option TypeKeyword} :
    checkType type value path = .ok () ↔ ∀ expected ∈ type, expected.matches value = true := by
  cases type <;> simp [checkType, require_eq_ok]

theorem checkEnum_eq_ok {enum : Option (List Json)} :
    checkEnum repr enum value path = .ok () ↔ ∀ allowed ∈ enum, ∃ e ∈ allowed, pythonEqual value e = true := by
  cases enum <;> simp [checkEnum, require_eq_ok]

theorem checkMinimum_eq_ok {minimum : Option JsonNumber} : checkMinimum repr minimum value path = .ok () ↔
      ∀ bound ∈ minimum, ∀ number ∈ value.pythonNumber?, number.lt bound.value = false := by
  cases minimum with
  | none => simp [checkMinimum]
  | some bound => cases hnumber : value.pythonNumber? <;> simp [checkMinimum, require_eq_ok, hnumber]

theorem missingRequired?_eq_none {required : List String} :
    missingRequired? required fields = none ↔ ∀ key ∈ required, key ∈ fields.map Prod.fst := by
  simp [missingRequired?]

theorem unexpectedKeys_eq_nil {known : List String} :
    unexpectedKeys known fields = [] ↔ ∀ key ∈ fields.map Prod.fst, key ∈ known := by
  rw [unexpectedKeys, ← List.length_eq_zero_iff, List.length_mergeSort, List.length_eq_zero_iff, List.filter_eq_nil_iff]
  simp only [decide_eq_true_eq, not_not]

theorem validateObject_eq_ok {required known : List String} {additionalProperties : Bool}
    {validateProperties : List (String × Json) → Except String Unit} :
    validateObject repr required known additionalProperties validateProperties path (.obj fields) = .ok () ↔
      ((∀ key ∈ required, key ∈ fields.map Prod.fst) ∧
        (additionalProperties = false → ∀ key ∈ fields.map Prod.fst, key ∈ known)) ∧
      validateProperties fields = .ok () := by
  rw [validateObject, ← missingRequired?_eq_none, ← unexpectedKeys_eq_nil]
  cases missingRequired? required fields with
  | some key => simp [throw_eq_ok]
  | none =>
    simp only [bind_eq_ok, require_eq_ok, exists_const, true_and]
    cases additionalProperties <;> simp

theorem TypeKeyword.primary?_of_matches (h : expected.matches value = true) :
    ∃ type, expected.primary? value = some type ∧ type.matches value = true := by
  obtain ⟨type, htype⟩ := Option.isSome_iff_exists.mp (List.find?_isSome.mpr (List.any_eq_true.mp h))
  exact ⟨type, htype, by simpa using List.find?_some htype⟩

theorem primary?_obj (h : expected.matches (.obj fields) = true) : expected.primary? (.obj fields) = some .object := by
  obtain ⟨type, hprimary, hmatch⟩ := TypeKeyword.primary?_of_matches h
  cases type <;> first | exact hprimary | cases hmatch

theorem primary?_arr {items : List Json} (h : expected.matches (.arr items) = true) :
    expected.primary? (.arr items) = some .array := by
  obtain ⟨type, hprimary, hmatch⟩ := TypeKeyword.primary?_of_matches h
  cases type <;> first | exact hprimary | cases hmatch

theorem primary?_scalar (hobj : ∀ fields, value ≠ .obj fields) (harr : ∀ items, value ≠ .arr items) :
    expected.primary? value ≠ some .object ∧ expected.primary? value ≠ some .array := by
  constructor
  · intro h
    have hmatch : SchemaType.object.matches value = true := by simpa using List.find?_some h
    cases value <;> first | exact hobj _ rfl | cases hmatch
  · intro h
    have hmatch : SchemaType.array.matches value = true := by simpa using List.find?_some h
    cases value <;> first | exact harr _ rfl | cases hmatch

theorem visits_obj {P : Schema × Json → Prop} (htype : schema.type.isSome = true) :
    (∀ q, Visits (schema, .obj fields) q → P q) ↔
      ∀ p ∈ schema.properties, ∀ value ∈ Json.lookup fields p.1, P (p.2, value) := by
  constructor
  · intro h p hp value hvalue
    exact h _ ⟨.property hp hvalue, htype⟩
  · rintro h q ⟨hpart, -⟩
    cases hpart with
    | property hkey hvalue => exact h _ hkey _ hvalue

theorem visits_arr {P : Schema × Json → Prop} {items : List Json} (htype : schema.type.isSome = true) :
    (∀ q, Visits (schema, .arr items) q → P q) ↔
      ∀ child ∈ schema.items, ∀ value ∈ items, P (child, value) := by
  constructor
  · intro h child hchild value hvalue
    exact h _ ⟨.item hchild hvalue, htype⟩
  · rintro h q ⟨hpart, -⟩
    cases hpart with
    | item hitems hvalue => exact h _ hitems _ hvalue

theorem not_visits {q : Schema × Json} (hobj : ∀ fields, value ≠ .obj fields) (harr : ∀ items, value ≠ .arr items) :
    ¬ Visits (schema, value) q := by
  rintro ⟨hpart, -⟩
  cases hpart with
  | property _ _ => exact hobj _ rfl
  | item _ _ => exact harr _ rfl

theorem not_visits_untyped {q : Schema × Json} (h : schema.type = none) : ¬ Visits (schema, value) q := by
  rintro ⟨-, htype⟩
  rw [h] at htype
  cases htype

mutual

/-- **What the validator accepts** of a value. -/
theorem validateNode_eq_ok : ∀ (schema : Schema) (value : Json) (path : String),
    validateNode repr schema value path = .ok () ↔ Passes schema value
  | .node type enum minimum minLength required properties additionalProperties items, value, path => by
    rw [validateNode, Passes, everywhere_iff]
    rw [then_eq_ok, then_eq_ok, then_eq_ok, checkType_eq_ok, checkEnum_eq_ok, checkMinimum_eq_ok]
    cases type with
    | none =>
      constructor
      · rintro ⟨htype, henum, hminimum, -⟩
        exact ⟨⟨htype, henum, hminimum, fun h => nomatch h⟩, fun q hq => absurd hq (not_visits_untyped rfl)⟩
      · rintro ⟨⟨htype, henum, hminimum, -⟩, -⟩
        exact ⟨htype, henum, hminimum, rfl⟩
    | some expected =>
      simp only [Option.bind_some]
      constructor
      · rintro ⟨htype, henum, hminimum, hparts⟩
        have hmatch := htype _ rfl
        cases value with
        | obj fields =>
          rw [primary?_obj hmatch] at hparts
          obtain ⟨hobject, hvisits⟩ := validateObject_eq_ok.mp hparts
          refine ⟨⟨htype, henum, hminimum, fun _ fields' h => ?_⟩, (visits_obj rfl).mpr ?_⟩
          · cases h
            exact ⟨hobject.1, hobject.2⟩
          · exact (validateProperties_eq_ok properties fields path).mp hvisits
        | arr values =>
          rw [primary?_arr hmatch] at hparts
          refine ⟨⟨htype, henum, hminimum, fun _ fields h => nomatch h⟩, (visits_arr rfl).mpr ?_⟩
          exact (validateItems_eq_ok items values path).mp hparts
        | null | bool _ | int _ | float _ | str _ =>
          exact ⟨⟨htype, henum, hminimum, fun _ _ h => nomatch h⟩,
            fun q hq => absurd hq (not_visits (fun _ h => nomatch h) fun _ h => nomatch h)⟩
      · rintro ⟨⟨htype, henum, hminimum, hobject⟩, hvisits⟩
        refine ⟨htype, henum, hminimum, ?_⟩
        have hmatch := htype _ rfl
        cases value with
        | obj fields =>
          rw [primary?_obj hmatch]
          have hfields := hobject rfl fields rfl
          refine validateObject_eq_ok.mpr ⟨⟨hfields.required, hfields.closed⟩, ?_⟩
          exact (validateProperties_eq_ok properties fields path).mpr ((visits_obj rfl).mp hvisits)
        | arr values =>
          rw [primary?_arr hmatch]
          exact (validateItems_eq_ok items values path).mpr ((visits_arr rfl).mp hvisits)
        | null | bool _ | int _ | float _ | str _ =>
          split
          · next h => exact absurd h (primary?_scalar (by simp) (by simp)).1
          · next h => exact absurd h (primary?_scalar (by simp) (by simp)).2
          · rfl

theorem validateProperties_eq_ok : ∀ (properties : List (String × Schema)) (fields : List (String × Json))
    (path : String),
    validateProperties repr properties fields path = .ok () ↔
      ∀ p ∈ properties, ∀ value ∈ Json.lookup fields p.1, Passes p.2 value
  | [], fields, path => by
    rw [validateProperties, pure_eq_ok]
    simp
  | (key, child) :: rest, fields, path => by
    rw [validateProperties, List.forall_mem_cons, ← validateProperties_eq_ok rest fields path]
    cases hvalue : Json.lookup fields key with
    | none => simp
    | some value =>
      dsimp only
      rw [then_eq_ok, validateNode_eq_ok child value]
      simp

theorem validateItems_eq_ok : ∀ (items : Option Schema) (values : List Json) (path : String),
    validateItems repr items values path = .ok () ↔ ∀ child ∈ items, ∀ value ∈ values, Passes child value
  | none, values, path => by
    rw [validateItems, pure_eq_ok]
    simp
  | some child, values, path => by
    rw [validateItems, forM_eq_ok]
    constructor
    · intro h found hfound value hvalue
      obtain rfl := Option.mem_some.mp hfound
      obtain ⟨index, hindex, rfl⟩ := List.getElem_of_mem hvalue
      have hmem := List.mk_mem_zipIdx_iff_getElem?.mpr (List.getElem?_eq_getElem hindex)
      exact (validateNode_eq_ok child _ _).mp (h (_, index) hmem)
    · rintro h ⟨value, index⟩ hmem
      exact (validateNode_eq_ok child _ _).mpr (h child rfl value (List.fst_mem_of_mem_zipIdx hmem))

end

end Accepts

end SiloForge
