import SiloForge.Contracts.JsonSchema

/-!
# What the validator says, and what JSON Schema says

The validator and JSON Schema share most of their checks. Where they differ, the validator is stricter with some values
and laxer with others.

* `Schema.StricterHere` : a float without a fraction where an integer is due, a boolean below a minimum;
* `Schema.LaxerHere` : a string that is too short, a value that only Python takes for one of an enum, and everything a
  schema without a type says of an object or a list;
* `validateContractPayload_exact_iff` : the values the validator judges rightly.
-/

namespace SiloForge

open Lib

namespace Schema

/-- The checks of the validator that JSON Schema has too, by the laxer of the two where they differ. -/
structure MeetsHere (schema : Schema) (value : Json) : Prop where
  type : ∀ expected ∈ schema.type, ∃ type ∈ expected.types, type.holds value = true
  enum : ∀ allowed ∈ schema.enum, ∃ e ∈ allowed, pythonEqual value e = true
  minimum : ∀ bound ∈ schema.minimum, ∀ number ∈ value.number?, number.lt bound.value = false
  object : schema.type.isSome = true → ∀ fields, value = .obj fields → schema.HoldsObject fields

inductive StricterHere (schema : Schema) : Json → Prop
  /-- A float without a fraction is no `int`. -/
  | integer {expected : TypeKeyword} {bits : BitVec 64} (htype : schema.type = some expected)
      (hinteger : .integer ∈ expected.types) (hnumber : .number ∉ expected.types)
      (hwhole : floatIsInteger bits = true) : StricterHere schema (.float bits)
  /-- A `bool` is an `int`. -/
  | minimum {bound : JsonNumber} {b : Bool} (hminimum : schema.minimum = some bound)
      (hbelow : (NumberValue.finite (if b then 1 else 0)).lt bound.value = true) : StricterHere schema (.bool b)

inductive LaxerHere (schema : Schema) (value : Json) : Prop
  /-- `minLength` is read nowhere. -/
  | minLength {least : Nat} {text : String} (hleast : schema.minLength = some least) (htext : value = .str text)
      (hshort : text.length < least)
  /-- The enum has `1`, the value is `True`, or the other way round. -/
  | enum {allowed : List Json} (hallowed : schema.enum = some allowed)
      (hdiffer : ∀ e ∈ allowed, jsonEqual value e = false)
  /-- Without a type the keywords of an object are not looked at. -/
  | object {fields : List (String × Json)} (htype : schema.type = none) (hvalue : value = .obj fields)
      (hfields : ¬ schema.HoldsObject fields)
  /-- Nor are the parts of an object or a list. -/
  | part {q : Schema × Json} (htype : schema.type = none) (hpart : Part (schema, value) q)
      (hbelow : ¬ Conforms q.1 q.2)

end Schema

/-! ## At one place -/

section Here
variable {schema : Schema} {value : Json}

theorem SchemaType.holds_of_matches {type : SchemaType} (h : type.matches value = true) : type.holds value = true := by
  cases type <;> cases value <;> first | exact h | cases h

theorem SchemaType.matches_or_of_holds {type : SchemaType} (h : type.holds value = true) :
    type.matches value = true ∨ type = .integer ∧ ∃ bits, value = .float bits ∧ floatIsInteger bits = true := by
  cases type <;> cases value <;> first | exact .inl h | exact .inr ⟨rfl, _, rfl, h⟩

theorem TypeKeyword.matches_iff {expected : TypeKeyword} :
    expected.matches value = true ↔ ∃ type ∈ expected.types, type.matches value = true :=
  List.any_eq_true

theorem pythonNumber?_of_number? {number : NumberValue} (h : number ∈ value.number?) :
    number ∈ value.pythonNumber? := by
  cases value <;> first | exact h | cases h

theorem passesHere_iff : schema.PassesHere value ↔ schema.MeetsHere value ∧ ¬ schema.StricterHere value := by
  constructor
  · intro h
    refine ⟨⟨fun expected hexpected => ?_, h.enum, fun bound hbound number hnumber => ?_, h.object⟩, fun hstrict => ?_⟩
    · obtain ⟨type, hmem, hmatch⟩ := TypeKeyword.matches_iff.mp (h.type expected hexpected)
      exact ⟨type, hmem, SchemaType.holds_of_matches hmatch⟩
    · exact h.minimum bound hbound number (pythonNumber?_of_number? hnumber)
    · cases hstrict with
      | @integer expected bits htype hinteger hnumber hwhole =>
        obtain ⟨type, hmem, hmatch⟩ := TypeKeyword.matches_iff.mp (h.type expected htype)
        cases type <;> first | exact hnumber hmem | cases hmatch
      | @minimum bound b hminimum hbelow =>
        have hpass := h.minimum bound hminimum _ rfl
        rw [hbelow] at hpass
        cases hpass
  · rintro ⟨h, hstrict⟩
    refine ⟨fun expected hexpected => ?_, h.enum, fun bound hbound number hnumber => ?_, h.object⟩
    · rw [TypeKeyword.matches_iff]
      obtain ⟨type, hmem, hholds⟩ := h.type expected hexpected
      obtain hmatch | ⟨rfl, bits, rfl, hwhole⟩ := SchemaType.matches_or_of_holds hholds
      · exact ⟨type, hmem, hmatch⟩
      · by_cases hnumber : SchemaType.number ∈ expected.types
        · exact ⟨.number, hnumber, rfl⟩
        · exact absurd (.integer hexpected hmem hnumber hwhole) hstrict
    · cases value with
      | bool b =>
        obtain rfl : NumberValue.finite (if b then 1 else 0) = number := by simpa [Json.pythonNumber?] using hnumber
        by_contra hbelow
        exact hstrict (.minimum hbound (by simpa using hbelow))
      | null | int _ | float _ | str _ | arr _ | obj _ => exact h.minimum bound hbound number hnumber

/-- The parts the validator leaves out are those of a schema without a type. -/
theorem not_visits_iff {q : Schema × Json} (h : Part (schema, value) q) :
    ¬ Visits (schema, value) q ↔ schema.type = none := by
  simp [Visits, h]

theorem conformsHere_iff :
    (schema.ConformsHere value ∧ ∀ q, Part (schema, value) q → ¬ Visits (schema, value) q → Conforms q.1 q.2) ↔
      schema.MeetsHere value ∧ ¬ schema.LaxerHere value := by
  constructor
  · rintro ⟨h, hparts⟩
    refine ⟨⟨h.type, fun allowed hallowed => ?_, h.minimum, fun _ => h.object⟩, fun hlax => ?_⟩
    · obtain ⟨e, hmem, hequal⟩ := h.enum allowed hallowed
      exact ⟨e, hmem, pythonEqual_of_jsonEqual hequal⟩
    · cases hlax with
      | minLength hleast htext hshort =>
        subst htext
        have hlong := h.minLength _ hleast _ rfl
        omega
      | enum hallowed hdiffer =>
        obtain ⟨e, hmem, hequal⟩ := h.enum _ hallowed
        rw [hdiffer e hmem] at hequal
        cases hequal
      | object _ hvalue hfields => exact hfields (h.object _ hvalue)
      | part htype hpart hbelow => exact hbelow (hparts _ hpart ((not_visits_iff hpart).mpr htype))
  · rintro ⟨h, hlax⟩
    refine ⟨⟨h.type, fun allowed hallowed => ?_, h.minimum, fun least hleast text htext => ?_, fun fields hvalue => ?_⟩,
      fun q hpart hvisits => ?_⟩
    · by_contra hdiffer
      simp only [not_exists, not_and, Bool.not_eq_true] at hdiffer
      exact hlax (.enum hallowed hdiffer)
    · by_contra hshort
      cases value with
      | str s =>
        obtain rfl : s = text := by simpa [Json.str?] using htext
        exact hlax (.minLength hleast rfl (by omega))
      | _ => cases htext
    · by_cases htype : schema.type = none
      · by_contra hfields
        exact hlax (.object htype hvalue hfields)
      · exact h.object (Option.isSome_iff_ne_none.mpr htype) fields hvalue
    · by_contra hbelow
      exact hlax (.part ((not_visits_iff hpart).mp hvisits) hpart hbelow)

end Here

/-! ## At every place -/

section Walk
variable {repr : Json → String} {schema : Schema} {payload : Json}

/-- The shared checks are met at every place the validator visits. -/
def Meets (schema : Schema) (payload : Json) : Prop :=
  Everywhere Visits (fun p => p.1.MeetsHere p.2) (schema, payload)

/-- The validator is stricter at none of the places it visits. -/
def NeverStricter (schema : Schema) (payload : Json) : Prop :=
  Everywhere Visits (fun p => ¬ p.1.StricterHere p.2) (schema, payload)

/-- The validator is laxer at none of the places it visits. -/
def NeverLaxer (schema : Schema) (payload : Json) : Prop :=
  Everywhere Visits (fun p => ¬ p.1.LaxerHere p.2) (schema, payload)

theorem validateContractPayload_eq_ok :
    validateContractPayload repr schema payload = .ok () ↔ Meets schema payload ∧ NeverStricter schema payload := by
  rw [validateContractPayload, validateNode_eq_ok, Meets, NeverStricter, ← everywhere_and]
  exact everywhere_congr fun _ => passesHere_iff

theorem conforms_iff : Conforms schema payload ↔ Meets schema payload ∧ NeverLaxer schema payload := by
  have hvisits : ∀ p q, Visits p q → Part p q := fun _ _ h => h.1
  rw [Conforms, everywhere_iff_cut wellFounded_part hvisits, Meets, NeverLaxer, ← everywhere_and]
  exact everywhere_congr fun _ => conformsHere_iff

/-- **The values the validator judges rightly**: if the checks it shares with JSON Schema are met, it has to be stricter
somewhere exactly where it is laxer somewhere. -/
theorem validateContractPayload_exact_iff (repr : Json → String) (schema : Schema) (payload : Json) :
    (validateContractPayload repr schema payload = .ok () ↔ Conforms schema payload) ↔
      (Meets schema payload → (NeverStricter schema payload ↔ NeverLaxer schema payload)) := by
  rw [validateContractPayload_eq_ok, conforms_iff, and_congr_right_iff]

end Walk

namespace Sample

def nonEmpty : Schema := .node (some (.one .string)) none none (some 1) [] [] true none

def envelopeContract : Schema :=
  .node (some (.one .object)) none none none ["task_type", "payload", "created_at"]
    [("task_type", nonEmpty),
      ("payload", .node (some (.one .object)) none none none [] [] true none),
      ("created_at", .node (some (.one .string)) none none none [] [] true none),
      ("attempts", .node (some (.one .integer)) none (some (.int 0)) none [] [] true none)]
    false none

def typeless : Json :=
  .obj [("task_type", .str ""), ("payload", .obj []), ("created_at", .str "2026-01-05T09:00:00+00:00")]

end Sample

theorem typeless_accepted (repr : Json → String) :
    validateContractPayload repr Sample.envelopeContract Sample.typeless = .ok () := by
  rw [validateContractPayload, Sample.envelopeContract, validateNode]
  refine then_eq_ok.mpr ⟨rfl, then_eq_ok.mpr ⟨rfl, then_eq_ok.mpr ⟨rfl, ?_⟩⟩⟩
  rw [Option.bind_some, Sample.typeless, primary?_obj rfl]
  exact validateObject_eq_ok.mpr ⟨by decide, rfl⟩

/-- A text the contract asks to be of one character at least may be empty. -/
theorem not_validateContractPayload_exact :
    ¬ ∀ (repr : Json → String) (schema : Schema) (payload : Json),
      validateContractPayload repr schema payload = .ok () ↔ Conforms schema payload := by
  intro h
  have hconforms := (h (fun _ => "") Sample.envelopeContract Sample.typeless).mp (typeless_accepted _)
  have htext : Conforms Sample.nonEmpty (.str "") := hconforms.next (.property (List.mem_cons_self ..) rfl)
  exact absurd (htext.here.minLength 1 rfl "" rfl) (by decide)

end SiloForge
