import SiloForge.Frontend.JsonText
import SiloForge.Tasks.Fields

/-!
# The text of a custom field

The form of a task shows the value of a field as a text, and reads the text as a value of the type of the field, as
the form of the field itself does with its default value.

* `customFieldInputText`, `parseCustomFieldInputValue` : the text in the form of a task, and what it is read as;
* `formatCustomFieldDefaultValue`, `parseCustomFieldDefaultValue` : the same in the form of a field;
* `Readable` : the values that are read back;
* `forms_keep_iff` : no other value is.
-/

namespace SiloForge.Frontend

open Lib
open Skills.Frontend (trim isTrimmed)

/-- `String.prototype.toLowerCase`, which leaves the small letters from a to z as they are. -/
structure Letters where
  toLowerCase : List Char → List Char
  small : ∀ cs, (∀ c ∈ cs, c.isLower = true) → toLowerCase cs = cs

/-! ## Showing a value, and reading its text -/

def valueText (numbers : NumberTexts) (gap : List Char) : JsValue → List Char
  | .null => []
  | .str s => s.toList
  | v => JSON.stringify numbers gap v

def customFieldInputText (numbers : NumberTexts) (value : JsValue) : List Char := valueText numbers [] value

def formatCustomFieldDefaultValue (numbers : NumberTexts) (pretty : Bool) (value : JsValue) : List Char :=
  valueText numbers (if pretty then [' ', ' '] else []) value

/-- The value that a text without white space at its ends spells, if it is one of the type. -/
def readFieldText (letters : Letters) : TaskCustomFieldType → List Char → Option JsValue
  | .text, trimmed | .textLong, trimmed | .date, trimmed | .dateTime, trimmed | .url, trimmed =>
    some (.str (String.ofList trimmed))
  | .integer, trimmed => if isIntegerText trimmed then (parseInt trimmed).map .num else none
  | .decimal, trimmed => if isDecimalText trimmed then (parseFloat trimmed).map .num else none
  | .boolean, trimmed =>
    if letters.toLowerCase trimmed = "true".toList then some (.bool true)
    else if letters.toLowerCase trimmed = "false".toList then some (.bool false)
    else none
  | .json, trimmed =>
    match JSON.parse trimmed with
    | some (.obj fields) => some (.obj fields)
    | some (.arr items) => some (.arr items)
    | _ => none

/-- A text that is not one of the type stays a text. -/
def parseCustomFieldInputValue (letters : Letters) (fieldType : TaskCustomFieldType) (text : List Char) : JsValue :=
  let trimmed := trim text
  if trimmed = [] then .null
  else (readFieldText letters fieldType trimmed).getD (.str (String.ofList trimmed))

def defaultValueError : TaskCustomFieldType → String
  | .integer => "Default value must be a valid integer."
  | .decimal => "Default value must be a valid decimal."
  | .boolean => "Default value must be true or false."
  | .json => "Default value must be valid JSON (object or array)."
  | _ => ""

def parseCustomFieldDefaultValue (letters : Letters) (fieldType : TaskCustomFieldType) (value : List Char) :
    Except String JsValue :=
  let trimmed := trim value
  if trimmed = [] then .ok .null
  else
    match readFieldText letters fieldType trimmed with
    | some v => .ok v
    | none => .error (defaultValueError fieldType)

/-! ## The values of a type -/

/-- The values the backend takes for a type, as the browser reads them. -/
inductive Suits : TaskCustomFieldType → JsValue → Prop
  | null (fieldType : TaskCustomFieldType) : Suits fieldType .null
  | str {fieldType : TaskCustomFieldType} (htype : fieldType.isStringType = true) (s : String) : Suits fieldType (.str s)
  | integer (n : ℤ) : Suits .integer (.num (.ofRat n))
  | decimal (x : Number) : Suits .decimal (.num x)
  | bool (b : Bool) : Suits .boolean (.bool b)
  | arr {items : List JsValue} (h : (JsValue.arr items).WellFormed) : Suits .json (.arr items)
  | obj {fields : Fields} (h : (JsValue.obj fields).WellFormed) : Suits .json (.obj fields)

/-- **What the validator takes** suits the type. -/
theorem suits_of_validate {texts : Texts} {fieldType : TaskCustomFieldType} {value : Json} {validationRegex : Option String}
    {x : JsValue} (hvalid : validateCustomFieldValue texts fieldType value validationRegex = .ok ())
    (hx : JsValue.fromJson value = some x) : Suits fieldType x := by
  have hwf := JsValue.wellFormed_fromJson value x hx
  cases value with
  | null =>
    obtain rfl := Option.some.inj hx
    exact .null fieldType
  | bool b =>
    obtain rfl := Option.some.inj hx
    obtain ⟨_, hcheck, -⟩ := bind_eq_ok.mp hvalid
    cases fieldType <;> cases hcheck
    exact .bool b
  | int n =>
    obtain rfl := Option.some.inj hx
    obtain ⟨_, hcheck, -⟩ := bind_eq_ok.mp hvalid
    cases fieldType <;> cases hcheck
    · exact .integer n
    · exact .decimal _
  | float bits =>
    obtain ⟨_, hcheck, -⟩ := bind_eq_ok.mp hvalid
    cases fieldType <;> cases hcheck
    unfold JsValue.fromJson at hx
    split at hx
    · obtain rfl := Option.some.inj hx
      exact .decimal _
    · cases hx
  | str s =>
    obtain rfl := Option.some.inj hx
    obtain ⟨_, hcheck, -⟩ := bind_eq_ok.mp hvalid
    cases fieldType <;> first | exact .str rfl s | cases hcheck
  | arr items =>
    obtain ⟨_, hcheck, -⟩ := bind_eq_ok.mp hvalid
    obtain ⟨vs, -, rfl⟩ := Option.map_eq_some_iff.mp hx
    cases fieldType <;> cases hcheck
    exact .arr hwf
  | obj fields =>
    obtain ⟨_, hcheck, -⟩ := bind_eq_ok.mp hvalid
    obtain ⟨entries, -, rfl⟩ := Option.map_eq_some_iff.mp hx
    cases fieldType <;> cases hcheck
    exact .obj hwf

/-- The values that are read back: texts that are not empty and have no white space at their ends, numbers that are written
without an exponent, and lists and objects without an infinite number. -/
def Readable : TaskCustomFieldType → JsValue → Prop
  | _, .null => True
  | _, .bool _ => True
  | _, .str s => s ≠ "" ∧ trim s.toList = s.toList
  | .integer, .num x => ∃ d : Double, x = .finite d ∧ |d.value| < 10 ^ 21
  | _, .num x => ∃ d : Double, x = .finite d ∧ d.Plain
  | _, v => v.Finite

theorem trim_eq_self {cs : List Char} (hfirst : ∀ c ∈ cs.head?, isTrimmed c = false)
    (hlast : ∀ c ∈ cs.getLast?, isTrimmed c = false) : trim cs = cs := by
  have hdrop : cs.dropWhile isTrimmed = cs := by
    cases cs with
    | nil => rfl
    | cons c cs => exact List.dropWhile_cons_of_neg (by rw [hfirst c rfl]; exact Bool.false_ne_true)
  unfold trim
  rw [hdrop, List.rdropWhile_eq_self_iff]
  intro hne
  rw [hlast _ (List.getLast?_eq_some_getLast hne)]
  exact Bool.false_ne_true

theorem trim_eq_self_of_forall {cs : List Char} (h : ∀ c ∈ cs, isTrimmed c = false) : trim cs = cs :=
  trim_eq_self (fun c hc => h c (List.mem_of_mem_head? hc)) fun c hc => h c (List.mem_of_mem_getLast? hc)

/-! ## What is read back -/

section ReadBack
variable (numbers : NumberTexts) (letters : Letters) {gap : List Char} {fieldType : TaskCustomFieldType} {x y : JsValue}

/-- The value a text spells; there is none if it spells no value of the type. -/
def readField (fieldType : TaskCustomFieldType) (text : List Char) : Option JsValue :=
  if trim text = [] then some .null else readFieldText letters fieldType (trim text)

theorem parseCustomFieldInputValue_eq (text : List Char) : parseCustomFieldInputValue letters fieldType text =
    (readField letters fieldType text).getD (.str (String.ofList (trim text))) := by
  unfold parseCustomFieldInputValue readField
  dsimp only
  split <;> rfl

theorem parseCustomFieldDefaultValue_eq_ok {text : List Char} :
    parseCustomFieldDefaultValue letters fieldType text = .ok y ↔ readField letters fieldType text = some y := by
  unfold parseCustomFieldDefaultValue readField
  dsimp only
  split
  · simp
  · cases readFieldText letters fieldType (trim text) <;> simp

theorem readField_of_trimmed {text : List Char} (htrim : trim text = text) (hne : text ≠ []) :
    readField letters fieldType text = readFieldText letters fieldType text := by
  unfold readField
  rw [htrim, if_neg hne]

theorem readFieldText_str (htype : fieldType.isStringType = true) (trimmed : List Char) :
    readFieldText letters fieldType trimmed = some (.str (String.ofList trimmed)) := by
  cases fieldType <;> first | rfl | cases htype

theorem readField_str (htype : fieldType.isStringType = true) (s : String) :
    readField letters fieldType (valueText numbers gap (.str s)) =
      if trim s.toList = [] then some .null else some (.str (String.ofList (trim s.toList))) := by
  unfold readField
  rw [readFieldText_str letters htype]
  rfl

theorem trim_number (d : Double) : trim (d.text numbers) = d.text numbers :=
  trim_eq_self_of_forall fun _ hc => d.isTrimmed_text numbers hc

theorem number_ne_nil (d : Double) : d.text numbers ≠ [] := by
  obtain ⟨c, cs, htext, -⟩ := head_number numbers d
  rw [htext]
  exact List.cons_ne_nil c cs

theorem readField_number (d : Double) : readField letters fieldType (valueText numbers gap (.num (.finite d))) =
    readFieldText letters fieldType (d.text numbers) :=
  readField_of_trimmed letters (trim_number numbers d) (number_ne_nil numbers d)

theorem readField_infinite (negative : Bool) :
    readField letters fieldType (valueText numbers gap (.num (.infinite negative))) =
      readFieldText letters fieldType "null".toList := by
  have htext : valueText numbers gap (.num (.infinite negative)) = "null".toList := rfl
  rw [htext, readField_of_trimmed letters (by decide) (by decide)]

theorem abs_ofRat_intCast {n : ℤ} {d : Double} (h : Number.ofRat n = .finite d) : ∃ m : ℕ, |d.value| = m := by
  have hround := Number.round_of_ofMagnitude h
  have habs : |(n : ℚ)| = n.natAbs := by rw [← Int.cast_abs, Int.abs_eq_natAbs, Int.cast_natCast]
  rw [habs] at hround
  exact BinaryFormat.exists_natCast_of_round hround

/-- **An integer is read back** if it is written without an exponent. -/
theorem readField_integer {d : Double} (hd : ∃ m : ℕ, |d.value| = m) : readFieldText letters .integer (d.text numbers) =
    if |d.value| < 10 ^ 21 then some (.num (.finite d)) else none := by
  obtain ⟨m, hm⟩ := hd
  rw [readFieldText]
  split
  · rename_i hinteger
    obtain ⟨hfraction, hexponent⟩ := (d.isIntegerText_iff numbers).mp hinteger
    have hlt : |d.value| < 10 ^ 21 := by
      rcases (exponent_literal_iff numbers).mp hexponent with hzero | ⟨-, hlt⟩
      · rw [hzero, abs_zero]
        positivity
      · exact hlt
    rw [if_pos hlt, d.parseInt_text numbers hfraction hexponent]
    rfl
  · rename_i hinteger
    rw [if_neg fun hlt => hinteger ((d.isIntegerText_iff numbers).mpr (literal_of_integer numbers hm hlt))]

/-- **A decimal number is read back** if it is written without an exponent. -/
theorem readField_decimal (d : Double) :
    readFieldText letters .decimal (d.text numbers) = some (.num (.finite d)) ∧ d.Plain ∨
      readFieldText letters .decimal (d.text numbers) = none ∧ ¬ d.Plain := by
  rw [← exponent_literal_iff numbers, ← d.isDecimalText_iff numbers, readFieldText]
  split
  · rename_i hdecimal
    refine .inl ⟨?_, hdecimal⟩
    rw [d.parseFloat_text numbers]
    rfl
  · rename_i hdecimal
    exact .inr ⟨rfl, hdecimal⟩

theorem readField_bool (b : Bool) : readField letters .boolean (valueText numbers gap (.bool b)) = some (.bool b) := by
  cases b with
  | true =>
    have hlower := letters.small "true".toList (List.all_eq_true.mp rfl)
    rw [show valueText numbers gap (.bool true) = "true".toList from rfl,
      readField_of_trimmed letters (by decide) (by decide)]
    exact if_pos hlower
  | false =>
    have hlower := letters.small "false".toList (List.all_eq_true.mp rfl)
    rw [show valueText numbers gap (.bool false) = "false".toList from rfl,
      readField_of_trimmed letters (by decide) (by decide)]
    exact (if_neg (by rw [hlower]; decide)).trans (if_pos hlower)

theorem trim_brackets {a b : Char} (ha : isTrimmed a = false) (hb : isTrimmed b = false) (inside : List Char) :
    trim (a :: (inside ++ [b])) = a :: (inside ++ [b]) := by
  refine trim_eq_self (fun c hc => ?_) fun c hc => ?_
  · obtain rfl : a = c := Option.some.inj hc
    exact ha
  · rw [← List.cons_append, List.getLast?_concat] at hc
    obtain rfl : b = c := Option.some.inj hc
    exact hb

variable (gap) in
theorem exists_inside_arr (items : List JsValue) :
    ∃ inside, JSON.stringify numbers gap (.arr items) = '[' :: (inside ++ [']']) := by
  unfold JSON.stringify
  cases items with
  | nil => exact ⟨[], rfl⟩
  | cons v items =>
    refine ⟨newline gap 1 ++ (stringifyAt numbers gap 1 v ++ (stringifyItems numbers gap 0 items ++ newline gap 0)), ?_⟩
    simp only [stringifyAt, List.append_assoc]

variable (gap) in
theorem exists_inside_obj (fields : Fields) :
    ∃ inside, JSON.stringify numbers gap (.obj fields) = '\x7b' :: (inside ++ ['\x7d']) := by
  unfold JSON.stringify
  cases fields with
  | nil => exact ⟨[], rfl⟩
  | cons f fields =>
    obtain ⟨k, v⟩ := f
    refine ⟨newline gap 1 ++ (quoted k ++ (colon gap ++ (stringifyAt numbers gap 1 v ++
      (stringifyFields numbers gap 0 fields ++ newline gap 0)))), ?_⟩
    simp only [stringifyAt, List.append_assoc]

/-- **Lists and objects are read back** as they are shown. -/
theorem readField_arr (hgap : Spaces gap) {items : List JsValue} (h : (JsValue.arr items).WellFormed) :
    readField letters .json (valueText numbers gap (.arr items)) = some (JsValue.arr items).shown := by
  obtain ⟨inside, htext⟩ := exists_inside_arr numbers gap items
  have htrim : trim (JSON.stringify numbers gap (.arr items)) = JSON.stringify numbers gap (.arr items) := by
    rw [htext, trim_brackets (by decide) (by decide)]
  have hne : JSON.stringify numbers gap (.arr items) ≠ [] := by
    rw [htext]
    exact List.cons_ne_nil _ _
  show readField letters .json (JSON.stringify numbers gap (.arr items)) = _
  rw [readField_of_trimmed letters htrim hne, readFieldText, JSON.parse_stringify numbers hgap h]
  rfl

theorem readField_obj (hgap : Spaces gap) {fields : Fields} (h : (JsValue.obj fields).WellFormed) :
    readField letters .json (valueText numbers gap (.obj fields)) = some (JsValue.obj fields).shown := by
  obtain ⟨inside, htext⟩ := exists_inside_obj numbers gap fields
  have htrim : trim (JSON.stringify numbers gap (.obj fields)) = JSON.stringify numbers gap (.obj fields) := by
    rw [htext, trim_brackets (by decide) (by decide)]
  have hne : JSON.stringify numbers gap (.obj fields) ≠ [] := by
    rw [htext]
    exact List.cons_ne_nil _ _
  show readField letters .json (JSON.stringify numbers gap (.obj fields)) = _
  rw [readField_of_trimmed letters htrim hne, readFieldText, JSON.parse_stringify numbers hgap h]
  rfl

/-- **A readable value is read back.** -/
theorem readField_of_readable (hgap : Spaces gap) (hsuits : Suits fieldType x) (h : Readable fieldType x) :
    readField letters fieldType (valueText numbers gap x) = some x := by
  cases hsuits with
  | null => rfl
  | str htype s =>
    obtain ⟨hne, htrim⟩ := h
    have hchars : s.toList ≠ [] := by simpa using hne
    rw [readField_str numbers letters htype, htrim, if_neg hchars, String.ofList_toList]
  | integer n =>
    obtain ⟨d, hd, hlt⟩ := h
    rw [hd, readField_number, readField_integer numbers letters (abs_ofRat_intCast hd), if_pos hlt]
  | decimal x =>
    obtain ⟨d, rfl, hplain⟩ := h
    rw [readField_number]
    rcases readField_decimal numbers letters d with ⟨hread, -⟩ | ⟨-, hnot⟩
    · exact hread
    · exact absurd hplain hnot
  | bool b => exact readField_bool numbers letters b
  | arr hwf => rw [readField_arr numbers letters hgap hwf, JsValue.shown_of_finite h]
  | obj hwf => rw [readField_obj numbers letters hgap hwf, JsValue.shown_of_finite h]

/-- **What is read back as an equal value** is readable. -/
theorem readable_of_equal (hgap : Spaces gap) (hsuits : Suits fieldType x)
    (hread : readField letters fieldType (valueText numbers gap x) = some y) (hequal : y.equal x = true) :
    Readable fieldType x := by
  cases hsuits with
  | null => exact trivial
  | str htype s =>
    rw [readField_str numbers letters htype] at hread
    split at hread
    · obtain rfl := Option.some.inj hread
      cases hequal
    · rename_i hne
      obtain rfl := Option.some.inj hread
      have htrim : String.ofList (trim s.toList) = s := of_decide_eq_true hequal
      have hself : trim s.toList = s.toList := by rw [← String.toList_ofList (l := trim s.toList), htrim]
      refine ⟨?_, hself⟩
      rintro rfl
      exact hne rfl
  | integer n =>
    cases hx : Number.ofRat n with
    | finite d =>
      rw [hx, readField_number, readField_integer numbers letters (abs_ofRat_intCast hx)] at hread
      split at hread
      · rename_i hlt
        exact ⟨d, rfl, hlt⟩
      · cases hread
    | infinite negative =>
      rw [hx, readField_infinite, readFieldText, if_neg (by decide)] at hread
      cases hread
  | decimal x =>
    cases x with
    | finite d =>
      rw [readField_number] at hread
      rcases readField_decimal numbers letters d with ⟨-, hplain⟩ | ⟨hnone, -⟩
      · exact ⟨d, rfl, hplain⟩
      · rw [hnone] at hread
        cases hread
    | infinite negative =>
      rw [readField_infinite, readFieldText, if_neg (by decide)] at hread
      cases hread
  | bool b => exact trivial
  | arr hwf =>
    rw [readField_arr numbers letters hgap hwf] at hread
    obtain rfl := Option.some.inj hread
    exact (JsValue.equal_shown_iff hwf).mp hequal
  | obj hwf =>
    rw [readField_obj numbers letters hgap hwf] at hread
    obtain rfl := Option.some.inj hread
    exact (JsValue.equal_shown_iff hwf).mp hequal

theorem str_equal_of_none (hsuits : Suits fieldType x)
    (hread : readField letters fieldType (valueText numbers gap x) = none) (s : String) :
    (JsValue.str s).equal x = false := by
  cases hsuits with
  | str htype s' =>
    rw [readField_str numbers letters htype] at hread
    split at hread <;> cases hread
  | null | integer n | decimal x | bool b | arr hwf | obj hwf => rfl

theorem parse_inputText_of_readable (hsuits : Suits fieldType x) (h : Readable fieldType x) :
    parseCustomFieldInputValue letters fieldType (customFieldInputText numbers x) = x := by
  unfold customFieldInputText
  rw [parseCustomFieldInputValue_eq, readField_of_readable numbers letters spaces_nil hsuits h]
  rfl

theorem spaces_pretty (pretty : Bool) : Spaces (if pretty then [' ', ' '] else []) := by
  cases pretty with
  | true => exact List.forall_mem_cons.mpr ⟨rfl, List.forall_mem_singleton.mpr rfl⟩
  | false => exact spaces_nil

end ReadBack

/-! ## Forms that are left as they are -/

section Forms
variable (numbers : NumberTexts) (letters : Letters) (fieldType : TaskCustomFieldType) (x : JsValue)

/-- The form of a task reads the text it shows as an equal value. -/
def InputKept : Prop := (parseCustomFieldInputValue letters fieldType (customFieldInputText numbers x)).equal x = true

/-- The form of a field reads the text of its default value as an equal value. -/
def DefaultKept (pretty : Bool) : Prop :=
  ∃ y, parseCustomFieldDefaultValue letters fieldType (formatCustomFieldDefaultValue numbers pretty x) = .ok y ∧
    y.equal x = true

variable {numbers letters fieldType x}

theorem inputKept_iff (hsuits : Suits fieldType x) (hwf : x.WellFormed) :
    InputKept numbers letters fieldType x ↔ Readable fieldType x := by
  unfold InputKept
  constructor
  · intro hequal
    unfold customFieldInputText at hequal
    rw [parseCustomFieldInputValue_eq] at hequal
    cases hread : readField letters fieldType (valueText numbers [] x) with
    | none =>
      rw [hread, Option.getD_none, str_equal_of_none numbers letters hsuits hread] at hequal
      cases hequal
    | some y =>
      rw [hread, Option.getD_some] at hequal
      exact readable_of_equal numbers letters spaces_nil hsuits hread hequal
  · intro h
    rw [parse_inputText_of_readable numbers letters hsuits h]
    exact JsValue.equal_refl hwf

theorem defaultKept_iff (hsuits : Suits fieldType x) (hwf : x.WellFormed) (pretty : Bool) :
    DefaultKept numbers letters fieldType x pretty ↔ Readable fieldType x := by
  unfold DefaultKept formatCustomFieldDefaultValue
  have hgap := spaces_pretty pretty
  constructor
  · rintro ⟨y, hread, hequal⟩
    exact readable_of_equal numbers letters hgap hsuits ((parseCustomFieldDefaultValue_eq_ok letters).mp hread) hequal
  · intro h
    have hread := readField_of_readable numbers letters hgap hsuits h
    exact ⟨x, (parseCustomFieldDefaultValue_eq_ok letters).mpr hread, JsValue.equal_refl hwf⟩

/-- **A form that is left as it is keeps the value of a field** exactly if the value is readable: every other value that the
backend takes is changed, or refused. -/
theorem forms_keep_iff {texts : Texts} {value : Json} {validationRegex : Option String}
    (hvalid : validateCustomFieldValue texts fieldType value validationRegex = .ok ())
    (hx : JsValue.fromJson value = some x) :
    (InputKept numbers letters fieldType x ↔ Readable fieldType x) ∧
      ∀ pretty, DefaultKept numbers letters fieldType x pretty ↔ Readable fieldType x := by
  have hsuits := suits_of_validate hvalid hx
  have hwf := JsValue.wellFormed_fromJson value x hx
  exact ⟨inputKept_iff hsuits hwf, defaultKept_iff hsuits hwf⟩

end Forms

namespace Sample

theorem map_toLower {cs : List Char} (h : ∀ c ∈ cs, c.isLower = true) : cs.map Char.toLower = cs := by
  have hself : cs.map Char.toLower = cs.map id := List.map_congr_left fun c hc => by
    have hlower : (decide (97 ≤ c.toNat) && decide (c.toNat ≤ 122)) = true := h c hc
    rw [Bool.and_eq_true, decide_eq_true_eq] at hlower
    exact dif_neg fun hupper => absurd (le_trans hlower.1 hupper.2) (by decide)
  rw [hself, List.map_id]

def asciiLetters : Letters where
  toLowerCase cs := cs.map Char.toLower
  small _ h := map_toLower h

def plainTexts : Texts where
  fullmatch _ _ := .ok true
  isIsoDate _ := false
  isIsoDateTime _ := false
  isHttpUrl _ := false
  mentions _ _ := false
  search := { frames := 900 }

end Sample

/-- An integer of one digit. -/
theorem forms_keep_seven : ∃ numbers : NumberTexts,
    (InputKept numbers Sample.asciiLetters .integer (.num (.ofRat (7 : ℤ))) ↔ Readable .integer (.num (.ofRat (7 : ℤ)))) ∧
      ∀ pretty, DefaultKept numbers Sample.asciiLetters .integer (.num (.ofRat (7 : ℤ))) pretty ↔
        Readable .integer (.num (.ofRat (7 : ℤ))) := by
  obtain ⟨numbers⟩ := exists_numberTexts
  have hvalid : validateCustomFieldValue Sample.plainTexts .integer (.int 7) none = .ok () := rfl
  exact ⟨numbers, forms_keep_iff hvalid rfl⟩

/-- The integer of 22 digits that is written as `1e+21`, which is no integer to the form. -/
theorem not_inputKept : ¬ ∀ (numbers : NumberTexts) (letters : Letters) (texts : Texts) (fieldType : TaskCustomFieldType)
    (value : Json) (validationRegex : Option String) (x : JsValue),
    validateCustomFieldValue texts fieldType value validationRegex = .ok () → JsValue.fromJson value = some x →
      InputKept numbers letters fieldType x := by
  intro h
  obtain ⟨numbers⟩ := exists_numberTexts
  have hkept := h numbers Sample.asciiLetters Sample.plainTexts .integer (.int (10 ^ 21)) none _ rfl rfl
  obtain ⟨d, hd, hlt⟩ := (inputKept_iff (.integer (10 ^ 21)) (.num _)).mp hkept
  have hround := Number.round_of_ofMagnitude hd
  have hexact : binary64.round |((10 ^ 21 : ℤ) : ℚ)| = some (10 ^ 21) := by
    have habs : |((10 ^ 21 : ℤ) : ℚ)| = 10 ^ 21 := by norm_num
    rw [habs]
    exact BinaryFormat.round_of_holds (holds_pow_ten (by decide))
  rw [hexact] at hround
  exact hlt.ne (Option.some.inj hround).symm

end SiloForge.Frontend
