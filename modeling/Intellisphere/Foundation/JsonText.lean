import Intellisphere.Foundation.Json
import Intellisphere.Foundation.Readability

/-! The compact text of JSON values, and what can be read back from it. Only a number does not
show where it ends. No text has a control character in it, whatever its strings are.
-/

namespace Intellisphere.Foundation

/-- A JSON value with numbers of some type; the fields of an object come in their order. -/
inductive JsonValue (ν : Type) where
  | null
  | bool (value : Bool)
  | number (value : ν)
  | string (value : String)
  | array (items : List (JsonValue ν))
  | object (fields : List (String × JsonValue ν))

section Text

variable {ν : Type} (numberText : ν → List Char)

mutual

/-- The compact text of a value. -/
def JsonValue.text : JsonValue ν → List Char
  | .null => "null".toList
  | .bool true => "true".toList
  | .bool false => "false".toList
  | .number value => numberText value
  | .string value => (jsonString value).toList
  | .array items => '[' :: JsonValue.itemsText [] items
  | .object fields => '\x7b' :: JsonValue.fieldsText [] fields

/-- The items of an array to its end; a comma stands before each but the first. -/
def JsonValue.itemsText (separator : List Char) : List (JsonValue ν) → List Char
  | [] => [']']
  | item :: items => separator ++ item.text ++ JsonValue.itemsText [','] items

/-- The fields of an object to its end. -/
def JsonValue.fieldsText (separator : List Char) : List (String × JsonValue ν) → List Char
  | [] => ['\x7d']
  | field :: fields =>
      separator ++ JsonValue.fieldText field ++ JsonValue.fieldsText [','] fields

def JsonValue.fieldText : String × JsonValue ν → List Char
  | (name, value) => (jsonString name).toList ++ ':' :: value.text

end

/-- The characters of a number. -/
def isNumberChar (c : Char) : Bool :=
  c.isDigit || c == '-' || c == '+' || c == '.' || c == 'e' || c == 'E'

/-- Numbers are words of their characters, and different ones are written differently. -/
structure NumberText : Prop where
  injective : Function.Injective numberText
  nonempty : ∀ value, numberText value ≠ []
  numeric : ∀ value, ∀ c ∈ numberText value, isNumberChar c = true

end Text

/-- The decimal text of an integer. -/
def integerText (value : Int) : List Char :=
  (toString value).toList

theorem integerText_ofNat (n : Nat) : integerText (.ofNat n) = Nat.toDigits 10 n :=
  Nat.toList_repr

theorem integerText_negSucc (n : Nat)
    : integerText (.negSucc n) = '-' :: Nat.toDigits 10 (n + 1) := by
  change ("-" ++ (n + 1).repr).toList = _
  rw [String.toList_append, Nat.toList_repr]
  rfl

theorem toDigits_injective : Function.Injective (Nat.toDigits 10) := by
  intro first second same
  rw [← @Nat.ofDigitChars_ten_toDigits first, same, Nat.ofDigitChars_ten_toDigits]

theorem isNumberChar_of_mem_toDigits {n : Nat} {c : Char} (member : c ∈ Nat.toDigits 10 n)
    : isNumberChar c = true := by
  have digit := Nat.isDigit_of_mem_toDigits (by decide) (by decide) member
  simp [isNumberChar, digit]

theorem minus_not_mem_toDigits (n : Nat) : '-' ∉ Nat.toDigits 10 n := by
  intro member
  exact absurd (Nat.isDigit_of_mem_toDigits (by decide) (by decide) member) (by decide)

/-- Integers in decimal are numbers. -/
theorem integerText_numberText : NumberText integerText where
  injective first second same := by
    cases first with
    | ofNat n =>
        cases second with
        | ofNat n' =>
            rw [integerText_ofNat, integerText_ofNat] at same
            rw [toDigits_injective same]
        | negSucc n' =>
            rw [integerText_ofNat, integerText_negSucc] at same
            exact absurd (same ▸ List.mem_cons_self) (minus_not_mem_toDigits n)
    | negSucc n =>
        cases second with
        | ofNat n' =>
            rw [integerText_ofNat, integerText_negSucc] at same
            exact absurd (same ▸ List.mem_cons_self) (minus_not_mem_toDigits n')
        | negSucc n' =>
            rw [integerText_negSucc, integerText_negSucc] at same
            have digits := toDigits_injective (List.cons.inj same).2
            rw [Nat.succ.inj digits]
  nonempty value := by
    cases value with
    | ofNat n => rw [integerText_ofNat]; exact Nat.toDigits_ne_nil
    | negSucc n => rw [integerText_negSucc]; exact List.cons_ne_nil _ _
  numeric value c member := by
    cases value with
    | ofNat n =>
        rw [integerText_ofNat] at member
        exact isNumberChar_of_mem_toDigits member
    | negSucc n =>
        rw [integerText_negSucc] at member
        rcases List.mem_cons.mp member with rfl | digit
        · rfl
        · exact isNumberChar_of_mem_toDigits digit

-----------------------------------------------------------------------------------------
-- Strings
-----------------------------------------------------------------------------------------

/-- The value of a lower-case hexadecimal digit. -/
def hexValue (c : Char) : Nat :=
  "0123456789abcdef".toList.idxOf c

/-- One character of a string, read back from its escaped form. -/
def readJsonChar : List Char → Option (Char × List Char)
  | '\\' :: 'b' :: rest => some (Char.ofNat 0x08, rest)
  | '\\' :: 't' :: rest => some ('\t', rest)
  | '\\' :: 'n' :: rest => some ('\n', rest)
  | '\\' :: 'f' :: rest => some (Char.ofNat 0x0C, rest)
  | '\\' :: 'r' :: rest => some ('\r', rest)
  | '\\' :: 'u' :: '0' :: '0' :: high :: low :: rest =>
      some (Char.ofNat (16 * hexValue high + hexValue low), rest)
  | '\\' :: c :: rest => some (c, rest)
  | c :: rest => some (c, rest)
  | [] => none

theorem hexValue_hexDigit {n : Nat} (digit : n < 16) : hexValue (hexDigit n) = n := by
  have digits : ∀ n : Fin 16, hexValue (hexDigit n) = n := by decide
  exact digits ⟨n, digit⟩

theorem readJsonChar_escapeJsonChar (c : Char) (rest : List Char)
    : readJsonChar (escapeJsonChar c ++ rest) = some (c, rest) := by
  unfold escapeJsonChar
  split_ifs with quote backslash backspace tab newline feed carriage control
  · rw [eq_of_beq quote]; rfl
  · rw [eq_of_beq backslash]; rfl
  · rw [← Char.ofNat_toNat c, backspace]; rfl
  · rw [eq_of_beq tab]; rfl
  · rw [eq_of_beq newline]; rfl
  · rw [← Char.ofNat_toNat c, feed]; rfl
  · rw [eq_of_beq carriage]; rfl
  · have whole : 16 * (c.toNat / 16) + c.toNat % 16 = c.toNat := by omega
    simp only [List.cons_append, List.nil_append, readJsonChar,
      hexValue_hexDigit (show c.toNat / 16 < 16 by omega),
      hexValue_hexDigit (show c.toNat % 16 < 16 by omega), whole, Char.ofNat_toNat]
  · have different : c ≠ '\\' := by simpa using backslash
    simp [readJsonChar, different]

/-- A character of a string can be read back. -/
theorem escapeJsonChar_selfDelimiting : SelfDelimiting escapeJsonChar :=
  .of_reader readJsonChar_escapeJsonChar

/-- No character of a string is written with a quote in front. -/
theorem escapeJsonChar_opens (c : Char)
    : ∃ first rest, escapeJsonChar c = first :: rest ∧ first ≠ '"' := by
  unfold escapeJsonChar
  split_ifs with quote
  all_goals exact ⟨_, _, rfl, by first | decide | simpa using quote⟩

/-- A string ends at the first quote that is not escaped. -/
theorem jsonString_selfDelimiting
    : SelfDelimiting (fun text : String => (jsonString text).toList) := by
  have quoted := escapeJsonChar_selfDelimiting.terminated escapeJsonChar_opens
  have whole := (Readable.after quoted ['"']).comap (fun _ _ => String.toList_inj.mp)
  rw [funext jsonString_toList]
  exact whole

-----------------------------------------------------------------------------------------
-- Values
-----------------------------------------------------------------------------------------

/-- What a value begins with tells what kind of value it is. -/
inductive JsonKind where
  | null
  | bool (value : Bool)
  | number
  | string
  | array
  | object

def JsonKind.ofChar (c : Char) : Option JsonKind :=
  if c == 'n' then some .null
  else if c == 't' then some (.bool true)
  else if c == 'f' then some (.bool false)
  else if c == '"' then some .string
  else if c == '[' then some .array
  else if c == '\x7b' then some .object
  else if isNumberChar c then some .number
  else none

section Values

variable {ν : Type} {numberText : ν → List Char}

def JsonValue.kind : JsonValue ν → JsonKind
  | .null => .null
  | .bool value => .bool value
  | .number _ => .number
  | .string _ => .string
  | .array _ => .array
  | .object _ => .object

theorem JsonKind.ofChar_number {c : Char} (numeric : isNumberChar c = true)
    : JsonKind.ofChar c = some .number := by
  have other (d : Char) (letter : isNumberChar d = false) : (c == d) = false := by
    rw [beq_eq_false_iff_ne]
    intro same
    rw [same, letter] at numeric
    contradiction
  simp [ofChar, numeric, other 'n' (by decide), other 't' (by decide), other 'f' (by decide),
    other '"' (by decide), other '[' (by decide), other '\x7b' (by decide)]

/-- A value begins with a character of its kind. -/
theorem JsonValue.text_opens (numbers : NumberText numberText) (value : JsonValue ν)
    : ∃ c rest, value.text numberText = c :: rest
        ∧ JsonKind.ofChar c = some value.kind := by
  cases value with
  | null => exact ⟨_, _, rfl, rfl⟩
  | bool value => cases value <;> exact ⟨_, _, rfl, rfl⟩
  | number value =>
      obtain ⟨c, rest, opening⟩ := List.exists_cons_of_ne_nil (numbers.nonempty value)
      refine ⟨c, rest, opening, JsonKind.ofChar_number (numbers.numeric value c ?_)⟩
      rw [opening]
      exact List.mem_cons_self
  | string value =>
      refine ⟨'"', value.toList.flatMap escapeJsonChar ++ ['"'], ?_, rfl⟩
      exact jsonString_toList value
  | array items => exact ⟨_, _, rfl, rfl⟩
  | object fields => exact ⟨_, _, rfl, rfl⟩

/-- Texts that begin alike begin with values of one kind. -/
theorem JsonValue.kind_eq (numbers : NumberText numberText) {first second : JsonValue ν}
    {rest rest' : List Char}
    (same : first.text numberText ++ rest = second.text numberText ++ rest')
    : first.kind = second.kind := by
  obtain ⟨c, tail, opening, kind⟩ := first.text_opens numbers
  obtain ⟨c', tail', opening', kind'⟩ := second.text_opens numbers
  rw [opening, opening'] at same
  obtain ⟨rfl, _⟩ := List.cons.inj same
  rw [kind] at kind'
  exact Option.some.inj kind'

/-- An item, behind its separator, is not the end of the array. -/
theorem JsonValue.item_ne_end (numbers : NumberText numberText) {separator : List Char}
    (separates : separator = [] ∨ separator = [',']) (item : JsonValue ν)
    (rest rest' : List Char)
    : separator ++ item.text numberText ++ rest ≠ ']' :: rest' := by
  obtain ⟨c, tail, opening, kind⟩ := item.text_opens numbers
  rcases separates with rfl | rfl
  · rw [opening]
    intro same
    obtain ⟨rfl, _⟩ := List.cons.inj same
    contradiction
  · intro same
    exact absurd (List.cons.inj same).1 (by decide)

/-- A field, behind its separator, is not the end of the object. -/
theorem JsonValue.field_ne_end {separator : List Char}
    (separates : separator = [] ∨ separator = [',']) (field : String × JsonValue ν)
    (rest rest' : List Char)
    : separator ++ fieldText numberText field ++ rest ≠ '\x7d' :: rest' := by
  intro same
  rw [fieldText, jsonString_toList] at same
  rcases separates with rfl | rfl <;> exact absurd (List.cons.inj same).1 (by decide)

/-- What follows an item or the last field is no part of a number. -/
theorem JsonValue.itemsText_ends (items : List (JsonValue ν)) (rest : List Char)
    : Ends isNumberChar (itemsText numberText [','] items ++ rest) := by
  cases items with
  | nil => exact .cons (by decide) _
  | cons item items => exact .cons (by decide) _

theorem JsonValue.fieldsText_ends (fields : List (String × JsonValue ν)) (rest : List Char)
    : Ends isNumberChar (fieldsText numberText [','] fields ++ rest) := by
  cases fields with
  | nil => exact .cons (by decide) _
  | cons field fields => exact .cons (by decide) _

/-- What holds of a value when it holds of the items or the fields in it holds of all values. -/
@[elab_as_elim]
theorem JsonValue.induct {motive : JsonValue ν → Prop} (null : motive .null)
    (bool : ∀ value, motive (.bool value)) (number : ∀ value, motive (.number value))
    (string : ∀ value, motive (.string value))
    (array : ∀ items, (∀ item ∈ items, motive item) → motive (.array items))
    (object : ∀ fields, (∀ field ∈ fields, motive field.2) → motive (.object fields))
    (value : JsonValue ν)
    : motive value := by
  cases value with
  | null => exact null
  | bool value => exact bool value
  | number value => exact number value
  | string value => exact string value
  | array items =>
      exact array items
        (fun item _ => JsonValue.induct null bool number string array object item)
  | object fields =>
      exact object fields
        (fun field _ => JsonValue.induct null bool number string array object field.2)
termination_by sizeOf value
decreasing_by
  · have smaller := List.sizeOf_lt_of_mem ‹item ∈ items›
    simp only [JsonValue.array.sizeOf_spec]
    omega
  · have smaller := List.sizeOf_lt_of_mem ‹field ∈ fields›
    have part : sizeOf field = 1 + sizeOf field.1 + sizeOf field.2 := rfl
    simp only [JsonValue.object.sizeOf_spec]
    omega

/-- A value can be read back where no number goes on. -/
def JsonValue.ReadsBack (numberText : ν → List Char) (first : JsonValue ν) : Prop :=
  ∀ {second : JsonValue ν} {rest rest' : List Char},
    Ends isNumberChar rest
    → Ends isNumberChar rest'
    → first.text numberText ++ rest = second.text numberText ++ rest'
    → first = second ∧ rest = rest'

/-- By induction on the first of the two lists of items. -/
theorem JsonValue.itemsText_readable (numbers : NumberText numberText)
    {items items' : List (JsonValue ν)} (reads : ∀ item ∈ items, item.ReadsBack numberText)
    {separator rest rest' : List Char} (separates : separator = [] ∨ separator = [','])
    (same
      : itemsText numberText separator items ++ rest
        = itemsText numberText separator items' ++ rest')
    : items = items' ∧ rest = rest' := by
  induction items generalizing items' separator with
  | nil =>
      cases items' with
      | nil => exact ⟨rfl, (List.cons.inj same).2⟩
      | cons item' items' =>
          simp only [itemsText, List.append_assoc _ _ rest'] at same
          exact (JsonValue.item_ne_end numbers separates _ _ _ same.symm).elim
  | cons item items ih =>
      cases items' with
      | nil =>
          simp only [itemsText, List.append_assoc _ _ rest] at same
          exact (JsonValue.item_ne_end numbers separates _ _ _ same).elim
      | cons item' items' =>
          obtain ⟨here, later⟩ := List.forall_mem_cons.mp reads
          simp only [itemsText, List.append_assoc] at same
          obtain ⟨rfl, tail⟩ :=
            here (itemsText_ends _ _) (itemsText_ends _ _) (List.append_cancel_left same)
          obtain ⟨rfl, after⟩ := ih later (.inr rfl) tail
          exact ⟨rfl, after⟩

theorem JsonValue.fieldText_readable {field field' : String × JsonValue ν}
    (reads : field.2.ReadsBack numberText) {rest rest' : List Char}
    (ends : Ends isNumberChar rest) (ends' : Ends isNumberChar rest')
    (same : fieldText numberText field ++ rest = fieldText numberText field' ++ rest')
    : field = field' ∧ rest = rest' := by
  obtain ⟨name, value⟩ := field
  obtain ⟨name', value'⟩ := field'
  simp only [fieldText, List.append_assoc] at same
  obtain ⟨rfl, tail⟩ := jsonString_selfDelimiting trivial trivial same
  obtain ⟨rfl, after⟩ := reads ends ends' (List.cons.inj tail).2
  exact ⟨rfl, after⟩

/-- By induction on the first of the two lists of fields. -/
theorem JsonValue.fieldsText_readable {fields fields' : List (String × JsonValue ν)}
    (reads : ∀ field ∈ fields, field.2.ReadsBack numberText)
    {separator rest rest' : List Char} (separates : separator = [] ∨ separator = [','])
    (same
      : fieldsText numberText separator fields ++ rest
        = fieldsText numberText separator fields' ++ rest')
    : fields = fields' ∧ rest = rest' := by
  induction fields generalizing fields' separator with
  | nil =>
      cases fields' with
      | nil => exact ⟨rfl, (List.cons.inj same).2⟩
      | cons field' fields' =>
          simp only [fieldsText, List.append_assoc _ _ rest'] at same
          exact (JsonValue.field_ne_end separates _ _ _ same.symm).elim
  | cons field fields ih =>
      cases fields' with
      | nil =>
          simp only [fieldsText, List.append_assoc _ _ rest] at same
          exact (JsonValue.field_ne_end separates _ _ _ same).elim
      | cons field' fields' =>
          obtain ⟨here, later⟩ := List.forall_mem_cons.mp reads
          simp only [fieldsText, List.append_assoc] at same
          obtain ⟨rfl, tail⟩ :=
            JsonValue.fieldText_readable here (fieldsText_ends _ _) (fieldsText_ends _ _)
              (List.append_cancel_left same)
          obtain ⟨rfl, after⟩ := ih later (.inr rfl) tail
          exact ⟨rfl, after⟩

/-- A value can be read back where no number goes on, by induction on the first of the two. -/
theorem JsonValue.text_readable (numbers : NumberText numberText)
    : Readable (Ends isNumberChar) (fun value : JsonValue ν => value.text numberText) := by
  suffices reads : ∀ first : JsonValue ν, first.ReadsBack numberText from
    fun first _ _ _ ends ends' same => reads first ends ends' same
  intro first second rest rest' ends ends' same
  have kinds := JsonValue.kind_eq numbers same
  induction first using JsonValue.induct generalizing second rest rest' with
  | null =>
      cases second with
      | null => exact ⟨rfl, List.append_cancel_left same⟩
      | _ => cases kinds
  | bool value =>
      cases second with
      | bool value' =>
          obtain rfl := JsonKind.bool.inj kinds
          exact ⟨rfl, List.append_cancel_left same⟩
      | _ => cases kinds
  | number value =>
      cases second with
      | number value' =>
          have words := Readable.word numbers.injective numbers.numeric
          obtain ⟨rfl, after⟩ := words ends ends' same
          exact ⟨rfl, after⟩
      | _ => cases kinds
  | string value =>
      cases second with
      | string value' =>
          obtain ⟨rfl, after⟩ := jsonString_selfDelimiting trivial trivial same
          exact ⟨rfl, after⟩
      | _ => cases kinds
  | array items ih =>
      cases second with
      | array items' =>
          have reads (item : JsonValue ν) (member : item ∈ items)
              : item.ReadsBack numberText :=
            fun ends ends' same => ih item member ends ends' same (kind_eq numbers same)
          obtain ⟨rfl, after⟩ :=
            JsonValue.itemsText_readable numbers reads (.inl rfl) (List.cons.inj same).2
          exact ⟨rfl, after⟩
      | _ => cases kinds
  | object fields ih =>
      cases second with
      | object fields' =>
          have reads (field : String × JsonValue ν) (member : field ∈ fields)
              : field.2.ReadsBack numberText :=
            fun ends ends' same => ih field member ends ends' same (kind_eq numbers same)
          obtain ⟨rfl, after⟩ :=
            JsonValue.fieldsText_readable reads (.inl rfl) (List.cons.inj same).2
          exact ⟨rfl, after⟩
      | _ => cases kinds

/-- An object shows where it ends. -/
theorem JsonValue.object_selfDelimiting (numbers : NumberText numberText)
    : SelfDelimiting
        (fun fields : List (String × JsonValue ν) => (object fields).text numberText) := by
  intro fields fields' rest rest' _ _ same
  have reads (field : String × JsonValue ν) (_ : field ∈ fields)
      : field.2.ReadsBack numberText :=
    fun ends ends' same => JsonValue.text_readable numbers ends ends' same
  exact fieldsText_readable reads (.inl rfl) (List.cons.inj same).2

-----------------------------------------------------------------------------------------
-- Control characters
-----------------------------------------------------------------------------------------

/-- A text without control characters stays on one line. -/
def Printable (text : List Char) : Prop :=
  ∀ c ∈ text, 0x20 ≤ c.toNat

instance : DecidablePred Printable :=
  fun text => decidable_of_iff (text.all (fun c => decide (0x20 ≤ c.toNat)) = true)
    (by simp [Printable])

theorem Printable.append {first second : List Char} (left : Printable first)
    (right : Printable second)
    : Printable (first ++ second) := by
  intro c member
  exact (List.mem_append.mp member).elim (left c) (right c)

theorem Printable.cons {c : Char} {rest : List Char} (here : 0x20 ≤ c.toNat)
    (later : Printable rest)
    : Printable (c :: rest) := by
  intro d member
  rcases List.mem_cons.mp member with rfl | member
  · exact here
  · exact later d member

/-- A control character is in no printable text. -/
theorem Printable.not_mem {text : List Char} (printable : Printable text) {c : Char}
    (control : c.toNat < 0x20)
    : c ∉ text := by
  intro member
  have shown := printable c member
  omega

theorem hexDigit_printable (n : Nat) : 0x20 ≤ (hexDigit n).toNat := by
  have digits : Printable "0123456789abcdef".toList := by decide
  rw [hexDigit, List.getD_eq_getElem?_getD]
  cases found : "0123456789abcdef".toList[n]? with
  | none => decide
  | some c => exact digits c (List.mem_of_getElem? found)

theorem escapeJsonChar_printable (c : Char) : Printable (escapeJsonChar c) := by
  unfold escapeJsonChar
  split_ifs with quote backslash backspace tab newline feed carriage control
  · decide
  · decide
  · decide
  · decide
  · decide
  · decide
  · decide
  · have digits : Printable [hexDigit (c.toNat / 16), hexDigit (c.toNat % 16)] :=
      .cons (hexDigit_printable _) (.cons (hexDigit_printable _) (by decide))
    have marked : Printable ['\\', 'u', '0', '0'] := by decide
    exact marked.append digits
  · exact .cons (Nat.le_of_not_lt control) (by decide)

theorem jsonString_printable (text : String) : Printable (jsonString text).toList := by
  rw [jsonString_toList]
  refine .cons (by decide) (.append ?_ (by decide))
  intro d member
  obtain ⟨c, _, inside⟩ := List.mem_flatMap.mp member
  exact escapeJsonChar_printable c d inside

theorem isNumberChar_printable {c : Char} (numeric : isNumberChar c = true)
    : 0x20 ≤ c.toNat := by
  by_contra control
  have small : c.toNat < 0x20 := Nat.lt_of_not_le control
  have controls : ∀ n : Fin 0x20, isNumberChar (Char.ofNat n) = false := by decide
  have none := controls ⟨c.toNat, small⟩
  rw [Char.ofNat_toNat, numeric] at none
  contradiction

theorem JsonValue.itemsText_printable {items : List (JsonValue ν)} {separator : List Char}
    (separates : Printable separator)
    (printable : ∀ item ∈ items, Printable (item.text numberText))
    : Printable (itemsText numberText separator items) := by
  induction items generalizing separator with
  | nil => exact .cons (by decide) (by decide)
  | cons item items ih =>
      obtain ⟨here, later⟩ := List.forall_mem_cons.mp printable
      have comma : Printable [','] := by decide
      exact (separates.append here).append (ih comma later)

theorem JsonValue.fieldsText_printable {fields : List (String × JsonValue ν)}
    {separator : List Char} (separates : Printable separator)
    (printable : ∀ field ∈ fields, Printable (field.2.text numberText))
    : Printable (fieldsText numberText separator fields) := by
  induction fields generalizing separator with
  | nil => exact .cons (by decide) (by decide)
  | cons field fields ih =>
      obtain ⟨here, later⟩ := List.forall_mem_cons.mp printable
      obtain ⟨name, value⟩ := field
      have shown : Printable (fieldText numberText (name, value)) :=
        (jsonString_printable name).append (.cons (by decide) here)
      have comma : Printable [','] := by decide
      exact (separates.append shown).append (ih comma later)

/-- The text of a value has no control characters, by induction on the value. -/
theorem JsonValue.text_printable (numbers : NumberText numberText) (value : JsonValue ν)
    : Printable (value.text numberText) := by
  have words
      : Printable "null".toList ∧ Printable "true".toList ∧ Printable "false".toList := by
    decide
  induction value using JsonValue.induct with
  | null => exact words.1
  | bool value =>
      cases value with
      | true => exact words.2.1
      | false => exact words.2.2
  | number value =>
      intro c member
      exact isNumberChar_printable (numbers.numeric value c member)
  | string value => exact jsonString_printable value
  | array items ih => exact .cons (by decide) (itemsText_printable (by decide) ih)
  | object fields ih => exact .cons (by decide) (fieldsText_printable (by decide) ih)

end Values

end Intellisphere.Foundation
