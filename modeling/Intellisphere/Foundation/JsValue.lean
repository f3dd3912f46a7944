import Intellisphere.Foundation.Binary64
import Intellisphere.Foundation.Json

/-! The values of JavaScript programs as far as JSON sees them, and what `JSON.stringify`
makes of them. It leaves undefined, symbols and functions out, writes null for numbers that
are not finite, and throws at a BigInt or a circular reference.
-/

namespace Intellisphere.Foundation.Js

/-- A number, with the exact value of a finite one. -/
inductive Number where
  | finite (value : Rat)
  | nan
  | infinity
  | negInfinity
  deriving DecidableEq

/-- The order of numbers. Nothing is less than NaN, and NaN is less than nothing. -/
def Number.lt : Number → Number → Bool
  | .finite left, .finite right => left < right
  | .finite _, .infinity => true
  | .negInfinity, .finite _ => true
  | .negInfinity, .infinity => true
  | _, _ => false

/-- `left <= right`; NaN is not even equal to itself. -/
def Number.le : Number → Number → Bool
  | .nan, _ => false
  | left, right => left.lt right || left = right

/-- The number nearest to an exact value, as arithmetic gives it. -/
def Number.nearest (value : Rat) : Number :=
  if 2 ^ 1024 ≤ roundBinary64 value then .infinity
  else if roundBinary64 value ≤ -2 ^ 1024 then .negInfinity
  else .finite (roundBinary64 value)

/-- `left - right`, rounded; NaN where there is no sensible difference. -/
def Number.sub : Number → Number → Number
  | .finite left, .finite right => .nearest (left - right)
  | .nan, _ => .nan
  | _, .nan => .nan
  | .infinity, .infinity => .nan
  | .negInfinity, .negInfinity => .nan
  | .infinity, _ => .infinity
  | .negInfinity, _ => .negInfinity
  | .finite _, .infinity => .negInfinity
  | .finite _, .negInfinity => .infinity

/-- What is above the number nearest to a value is above that of every smaller one. -/
theorem Number.nearest_lt_of_le {first last : Rat} {bound : Rat} (order : first ≤ last)
    (below : (Number.nearest last).lt (.finite bound) = true)
    : (Number.nearest first).lt (.finite bound) = true := by
  have rounded := roundBinary64_mono order
  unfold Number.nearest at below ⊢
  split at below
  · simp [Number.lt] at below
  next small =>
    rw [if_neg (fun large => small (large.trans rounded))]
    split at below
    next least =>
      rw [if_pos (rounded.trans least)]
      rfl
    · have less : roundBinary64 last < bound := of_decide_eq_true below
      split
      · rfl
      · exact decide_eq_true (rounded.trans_lt less)

/-- A safe integer is a number itself. -/
theorem Number.nearest_intCast {value : Int} (safe : |value| < 2 ^ 53)
    : Number.nearest value = .finite value := by
  have double : roundBinary64 (value : Rat) = value := isBinary64_intCast safe
  have size : |(value : Rat)| < 2 ^ 53 := by exact_mod_cast safe
  have inside := abs_lt.mp size
  have larger : (2 : Rat) ^ 53 ≤ 2 ^ 1024 := pow_le_pow_right₀ one_le_two (by norm_num)
  rw [Number.nearest, double, if_neg, if_neg]
  · exact not_le.mpr ((neg_le_neg larger).trans_lt inside.1)
  · exact not_le.mpr (inside.2.trans_le larger)

/-- An object lists its own enumerable properties in order, with distinct names. A circular
reference stands for one to an enclosing object.
-/
inductive Value where
  | undefined
  | null
  | bool (value : Bool)
  | number (value : Number)
  | bigint (value : Int)
  | string (value : String)
  | symbol
  | function
  | array (items : List Value)
  | object (fields : List (String × Value))
  | circular

/-- What `typeof` gives. -/
def Value.typeof : Value → String
  | .undefined => "undefined"
  | .null => "object"
  | .bool _ => "boolean"
  | .number _ => "number"
  | .bigint _ => "bigint"
  | .string _ => "string"
  | .symbol => "symbol"
  | .function => "function"
  | .array _ => "object"
  | .object _ => "object"
  | .circular => "object"

/-- The property of a value other than undefined and null, of an array for names that are no
indices.
-/
def Value.get (value : Value) (name : String) : Value :=
  match value with
  | .object fields => (fields.lookup name).getD .undefined
  | _ => .undefined

/-- Undefined and null have no properties: reading one throws. -/
def Value.isNullish : Value → Bool
  | .undefined => true
  | .null => true
  | _ => false

/-- A number in JSON, as a reader of doubles reads it: the text has the shortest decimal that
reads back as the number. An integer of at most 2^53 in size is written with its own digits,
which any reader reads as it is.
-/
def Number.toJson : Number → Json
  | .finite value => .num value
  | _ => .null

mutual

/-- What a value becomes in JSON: nothing, if it is left out, or an error. The values have no
`toJSON` methods of their own and no getters that throw, and their depth does not exhaust the
stack.
-/
def stringify : Value → Except String (Option Json)
  | .undefined => .ok none
  | .null => .ok (some .null)
  | .bool value => .ok (some (.bool value))
  | .number value => .ok (some value.toJson)
  | .bigint _ => .error "Do not know how to serialize a BigInt"
  | .string value => .ok (some (.str value))
  | .symbol => .ok none
  | .function => .ok none
  | .array items => do
      return some (.arr (← stringifyItems items))
  | .object fields => do
      return some (.obj (← stringifyFields fields))
  | .circular => .error "Converting circular structure to JSON"

/-- An element that is left out becomes null. -/
def stringifyItems : List Value → Except String (List Json)
  | [] => .ok []
  | item :: rest => do
      let json ← stringify item
      let later ← stringifyItems rest
      return json.getD .null :: later

/-- A property whose value is left out is left out. -/
def stringifyFields : List (String × Value) → Except String (List (String × Json))
  | [] => .ok []
  | (name, value) :: rest => do
      let json ← stringify value
      let later ← stringifyFields rest
      return (json.map (fun json => (name, json))).toList ++ later

end

mutual

/-- The value has a BigInt or a circular reference where JSON looks. -/
def Value.isRefused : Value → Bool
  | .bigint _ => true
  | .circular => true
  | .array items => anyRefused items
  | .object fields => anyFieldRefused fields
  | _ => false

def anyRefused : List Value → Bool
  | [] => false
  | item :: rest => item.isRefused || anyRefused rest

def anyFieldRefused : List (String × Value) → Bool
  | [] => false
  | (_, value) :: rest => value.isRefused || anyFieldRefused rest

end

/-- The value is nothing in JSON. -/
def Value.isLeftOut : Value → Bool
  | .undefined => true
  | .symbol => true
  | .function => true
  | _ => false

mutual

/-- `JSON.stringify` throws exactly at refused values. -/
theorem stringify_ok_iff
    : ∀ value : Value, (∃ json, stringify value = .ok json) ↔ value.isRefused = false
  | .undefined => by simp [stringify, Value.isRefused]
  | .null => by simp [stringify, Value.isRefused]
  | .bool _ => by simp [stringify, Value.isRefused]
  | .number _ => by simp [stringify, Value.isRefused]
  | .bigint _ => by simp [stringify, Value.isRefused]
  | .string _ => by simp [stringify, Value.isRefused]
  | .symbol => by simp [stringify, Value.isRefused]
  | .function => by simp [stringify, Value.isRefused]
  | .circular => by simp [stringify, Value.isRefused]
  | .array items => by
      rw [Value.isRefused, ← stringifyItems_ok_iff items, stringify]
      cases stringifyItems items <;> simp [bind, Except.bind, pure, Except.pure]
  | .object fields => by
      rw [Value.isRefused, ← stringifyFields_ok_iff fields, stringify]
      cases stringifyFields fields <;> simp [bind, Except.bind, pure, Except.pure]

theorem stringifyItems_ok_iff
    : ∀ items : List Value,
        (∃ json, stringifyItems items = .ok json) ↔ anyRefused items = false
  | [] => by simp [stringifyItems, anyRefused]
  | item :: rest => by
      rw [anyRefused, Bool.or_eq_false_iff, ← stringify_ok_iff item,
        ← stringifyItems_ok_iff rest, stringifyItems]
      cases stringify item <;> cases stringifyItems rest <;>
        simp [bind, Except.bind, pure, Except.pure]

theorem stringifyFields_ok_iff
    : ∀ fields : List (String × Value),
        (∃ json, stringifyFields fields = .ok json) ↔ anyFieldRefused fields = false
  | [] => by simp [stringifyFields, anyFieldRefused]
  | (name, value) :: rest => by
      rw [anyFieldRefused, Bool.or_eq_false_iff, ← stringify_ok_iff value,
        ← stringifyFields_ok_iff rest, stringifyFields]
      cases stringify value <;> cases stringifyFields rest <;>
        simp [bind, Except.bind, pure, Except.pure]

end

/-- What is left out is nothing, and nothing else is. -/
theorem stringify_eq_none_iff (value : Value)
    : stringify value = .ok none ↔ value.isLeftOut = true := by
  cases value with
  | array items =>
      rw [stringify]
      cases stringifyItems items <;>
        simp [Value.isLeftOut, bind, Except.bind, pure, Except.pure]
  | object fields =>
      rw [stringify]
      cases stringifyFields fields <;>
        simp [Value.isLeftOut, bind, Except.bind, pure, Except.pure]
  | _ => simp [stringify, Value.isLeftOut]

/-- By induction on the items. -/
theorem anyRefused_eq_any (items : List Value)
    : anyRefused items = items.any Value.isRefused := by
  induction items with
  | nil => rfl
  | cons item rest ih => rw [anyRefused, List.any_cons, ih]

theorem anyFieldRefused_eq_any (fields : List (String × Value))
    : anyFieldRefused fields = fields.any (fun field => field.2.isRefused) := by
  induction fields with
  | nil => rfl
  | cons field rest ih =>
      obtain ⟨name, value⟩ := field
      rw [anyFieldRefused, List.any_cons, ih]

/-- Every array and every object that is not refused is one in JSON. -/
theorem stringify_array {items : List Value} {json : List Json}
    (written : stringifyItems items = .ok json)
    : stringify (.array items) = .ok (some (.arr json)) := by
  rw [stringify, written]
  rfl

theorem stringify_object {fields : List (String × Value)} {json : List (String × Json)}
    (written : stringifyFields fields = .ok json)
    : stringify (.object fields) = .ok (some (.obj json)) := by
  rw [stringify, written]
  rfl

/-- A property that is not left out is written before the rest. -/
theorem stringifyFields_cons {name : String} {value : Value} {json : Json}
    {fields : List (String × Value)} {later : List (String × Json)}
    (first : stringify value = .ok (some json)) (rest : stringifyFields fields = .ok later)
    : stringifyFields ((name, value) :: fields) = .ok ((name, json) :: later) := by
  rw [stringifyFields, first, rest]
  rfl

/-- An element that is not left out is written before the rest. -/
theorem stringifyItems_cons {value : Value} {json : Json} {items : List Value}
    {later : List Json} (first : stringify value = .ok (some json))
    (rest : stringifyItems items = .ok later)
    : stringifyItems (value :: items) = .ok (json :: later) := by
  rw [stringifyItems, first, rest]
  rfl

/-- An object is empty in JSON exactly when all of its properties are left out, by induction
on them.
-/
theorem stringifyFields_eq_nil_iff {fields : List (String × Value)}
    {json : List (String × Json)} (written : stringifyFields fields = .ok json)
    : json = [] ↔ ∀ field ∈ fields, field.2.isLeftOut = true := by
  induction fields generalizing json with
  | nil =>
      obtain rfl := Except.ok.inj written
      simp
  | cons field rest ih =>
      obtain ⟨name, value⟩ := field
      rw [stringifyFields] at written
      rw [List.forall_mem_cons, ← stringify_eq_none_iff]
      cases first : stringify value with
      | error message => simp [first, bind, Except.bind] at written
      | ok head =>
          cases others : stringifyFields rest with
          | error message => simp [first, others, bind, Except.bind] at written
          | ok later =>
              simp only [first, others, bind, Except.bind, pure, Except.pure] at written
              obtain rfl := Except.ok.inj written
              rw [← ih others]
              cases head <;> simp

end Intellisphere.Foundation.Js
