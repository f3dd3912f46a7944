import Intellisphere.Foundation.JsonSchema

/-! Zod types over JSON values, and what the SDK relies on of the Zod library. -/

namespace Intellisphere.Sdk

open Intellisphere.Foundation

/-- What Zod is given: a value from JSON, or what it reads of a field that an object does not
have, which is undefined unless every object inherits one of that name.
-/
inductive Input where
  | undefined
  | json (value : Json)
  -- A function of `Object.prototype`.
  | method
  -- `Object.prototype` itself, which has no fields that are enumerated.
  | prototype

def inheritedMethods : List String :=
  [
    "constructor", "hasOwnProperty", "isPrototypeOf", "propertyIsEnumerable", "toLocaleString",
    "toString", "valueOf", "__defineGetter__", "__defineSetter__", "__lookupGetter__",
    "__lookupSetter__"
  ]

/-- Reading a field that an object does not have. -/
def inherited (key : String) : Input :=
  if key = "__proto__" then .prototype
  else if key ∈ inheritedMethods then .method
  else .undefined

def readField (fields : List (String × Json)) (key : String) : Input :=
  match fields.lookup key with
  | some value => .json value
  | none => inherited key

/-- The fields of an object and what is read under each name. The prototype of
`Object.prototype` is null.
-/
def Input.asObject : Input → Option (List (String × Json) × (String → Input))
  | .json (.obj fields) => some (fields, readField fields)
  | .prototype => some ([], fun key => if key = "__proto__" then .json .null else inherited key)
  | _ => none

/-- The result of calling a default. -/
abbrev DefaultValue :=
  Unit → Input

/-- The Zod types without refinements and bounds. The shape of an object gives a type for each
of its keys; objects are strict. The options of a union are indexed as the array has them.
-/
inductive ZodType where
  | string
  | number
  | boolean
  | literal (value : Primitive)
  | enum (values : List String)
  | array (type : ZodType)
  | optional (innerType : ZodType)
  | nullable (innerType : ZodType)
  | default (innerType : ZodType) (defaultValue : DefaultValue)
  | object (keys : List String) (shape : String → ZodType)
  | record (valueType : ZodType)
  | union (count : Nat) (options : Fin count → ZodType)

/-- The outermost wrapper is Optional or Default. -/
def ZodType.isOptionalOrDefault : ZodType → Bool
  | .optional _ => true
  | .default _ _ => true
  | _ => false

/-- What Zod documents about `safeParse`, one law for each kind of type. It reads the fields of
an object as the language does, so a field that is not there can be an inherited one.
-/
structure Zod where
  safeParse : ZodType → Input → Bool
  string (value : Input) : safeParse .string value = true ↔ ∃ text, value = .json (.str text)
  number (value : Input)
    : safeParse .number value = true ↔ ∃ number, value = .json (.num number)
  boolean (value : Input) : safeParse .boolean value = true ↔ ∃ bool, value = .json (.bool bool)
  literal (constant : Primitive) (value : Input)
    : safeParse (.literal constant) value = true ↔ value = .json constant.toJson
  enum (values : List String) (value : Input)
    : safeParse (.enum values) value = true ↔ ∃ text ∈ values, value = .json (.str text)
  array (type : ZodType) (value : Input)
    : safeParse (.array type) value = true
      ↔ ∃ items,
          value = .json (.arr items) ∧ ∀ item ∈ items, safeParse type (.json item) = true
  optional (innerType : ZodType) (value : Input)
    : safeParse (.optional innerType) value = true
      ↔ value = .undefined ∨ safeParse innerType value = true
  nullable (innerType : ZodType) (value : Input)
    : safeParse (.nullable innerType) value = true
      ↔ value = .json .null ∨ safeParse innerType value = true
  default (innerType : ZodType) (defaultValue : DefaultValue) (value : Input)
    : safeParse (.default innerType defaultValue) value = true
      ↔ (value = .undefined → safeParse innerType (defaultValue ()) = true)
        ∧ (value ≠ .undefined → safeParse innerType value = true)
  object (keys : List String) (shape : String → ZodType) (value : Input)
    : safeParse (.object keys shape) value = true
      ↔ ∃ fields read,
          value.asObject = some (fields, read)
          ∧ (∀ field ∈ fields, field.1 ∈ keys)
          ∧ ∀ key ∈ keys, safeParse (shape key) (read key) = true
  record (valueType : ZodType) (value : Input)
    : safeParse (.record valueType) value = true
      ↔ ∃ fields read,
          value.asObject = some (fields, read)
          ∧ ∀ field ∈ fields, safeParse valueType (.json field.2) = true
  union (count : Nat) (options : Fin count → ZodType) (value : Input)
    : safeParse (.union count options) value = true
      ↔ ∃ i, safeParse (options i) value = true

/-- The laws read as a recursive function. -/
def ZodType.accepts : ZodType → Input → Bool
  | .string, .json (.str _) => true
  | .number, .json (.num _) => true
  | .boolean, .json (.bool _) => true
  | .literal constant, .json value => value.primitive? = some constant
  | .enum values, .json (.str text) => values.contains text
  | .array type, .json (.arr items) => items.all (fun item => type.accepts (.json item))
  | .optional _, .undefined => true
  | .optional innerType, value => innerType.accepts value
  | .nullable _, .json .null => true
  | .nullable innerType, value => innerType.accepts value
  | .default innerType defaultValue, .undefined => innerType.accepts (defaultValue ())
  | .default innerType _, value => innerType.accepts value
  | .object keys shape, value =>
      match value.asObject with
      | some (fields, read) =>
          fields.all (fun field => keys.contains field.1)
          && keys.all (fun key => (shape key).accepts (read key))
      | none => false
  | .record valueType, value =>
      match value.asObject with
      | some (fields, _) => fields.all (fun field => valueType.accepts (.json field.2))
      | none => false
  | .union _ options, value => decide (∃ i, (options i).accepts value = true)
  | _, _ => false

/-- The library that does exactly what the laws say. -/
def zod : Zod where
  safeParse := ZodType.accepts
  string value := by
    rcases value with _ | (_ | _ | _ | _ | _ | _) | _ | _ <;> simp [ZodType.accepts]
  number value := by
    rcases value with _ | (_ | _ | _ | _ | _ | _) | _ | _ <;> simp [ZodType.accepts]
  boolean value := by
    rcases value with _ | (_ | _ | _ | _ | _ | _) | _ | _ <;> simp [ZodType.accepts]
  literal constant value := by
    cases value <;> simp [ZodType.accepts, Json.primitive?_eq_some]
  enum values value := by
    rcases value with _ | (_ | _ | _ | _ | _ | _) | _ | _ <;> simp [ZodType.accepts]
  array type value := by
    rcases value with _ | (_ | _ | _ | _ | _ | _) | _ | _ <;> simp [ZodType.accepts]
  optional innerType value := by
    cases value <;> simp [ZodType.accepts]
  nullable innerType value := by
    rcases value with _ | (_ | _ | _ | _ | _ | _) | _ | _ <;> simp [ZodType.accepts]
  default innerType defaultValue value := by
    cases value <;> simp [ZodType.accepts]
  object keys shape value := by
    rcases value with _ | (_ | _ | _ | _ | _ | _) | _ | _ <;>
      simp [ZodType.accepts, Input.asObject]
  record valueType value := by
    rcases value with _ | (_ | _ | _ | _ | _ | _) | _ | _ <;>
      simp [ZodType.accepts, Input.asObject]
  union count options value := by
    simp [ZodType.accepts]

end Intellisphere.Sdk
