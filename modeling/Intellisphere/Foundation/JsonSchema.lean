import Intellisphere.Foundation.Json
import Mathlib.Data.List.FinRange

/-! JSON Schema in the semantics of draft 07, for the keywords that describe a value by its
type, its constants, its elements and its fields, and for `oneOf`. Constants are primitive.
-/

namespace Intellisphere.Foundation

/-- The type names of the standard. -/
inductive SimpleType where
  | array
  | boolean
  | integer
  | null
  | number
  | object
  | string
  deriving DecidableEq, Repr

/-- A value without parts. -/
inductive Primitive where
  | null
  | bool (value : Bool)
  | num (value : Rat)
  | str (value : String)
  deriving DecidableEq

def Primitive.toJson : Primitive → Json
  | .null => .null
  | .bool value => .bool value
  | .num value => .num value
  | .str value => .str value

/-- A value as a primitive, if it has no parts. -/
def Json.primitive? : Json → Option Primitive
  | .null => some .null
  | .bool value => some (.bool value)
  | .num value => some (.num value)
  | .str value => some (.str value)
  | _ => none

theorem Json.primitive?_eq_some {value : Json} {primitive : Primitive}
    : value.primitive? = some primitive ↔ value = primitive.toJson := by
  cases value <;> cases primitive <;> simp [Json.primitive?, Primitive.toJson]

/-- The values of a type; an integer is any number without a fraction. -/
def SimpleType.admits : SimpleType → Json → Bool
  | .array, .arr _ => true
  | .boolean, .bool _ => true
  | .integer, .num value => value.isInt
  | .null, .null => true
  | .number, .num _ => true
  | .object, .obj _ => true
  | .string, .str _ => true
  | _, _ => false

/-- What `additionalProperties` says about the fields that are not listed. -/
inductive AdditionalProperties (Schema : Type) where
  | forbidden
  | each (schema : Schema)

/-- A schema: the keywords it has. An absent `properties` or `required` is an empty one. The
default is an annotation of any kind and takes no part in validation.
-/
structure JsonSchema (Default : Type) where
  type : Option SimpleType := none
  const : Option Primitive := none
  enum : Option (List Primitive) := none
  items : Option (JsonSchema Default) := none
  properties : List (String × JsonSchema Default) := []
  additionalProperties : Option (AdditionalProperties (JsonSchema Default)) := none
  required : List String := []
  oneOf : Option (List (JsonSchema Default)) := none
  default : Option Default := none

mutual

/-- A value is valid when every keyword accepts it; a keyword about elements or fields
accepts every value that has none.
-/
def JsonSchema.validates {Default : Type} : JsonSchema Default → Json → Bool
  | {
      type, const, enum, items, properties, additionalProperties, required, oneOf, ..
    }, value =>
      type.all (fun type => type.admits value)
      && const.all (fun constant => value.primitive? = some constant)
      && enum.all (fun constants =>
          constants.any (fun constant => value.primitive? = some constant))
      && (match items, value with
        | some schema, .arr elements =>
            elements.all (fun element => schema.validates element)
        | _, _ => true)
      && (match value with
        | .obj fields =>
            fieldsValid properties fields
            && (match additionalProperties with
              | none => true
              | some .forbidden =>
                  fields.all (fun field => (properties.lookup field.1).isSome)
              | some (.each schema) =>
                  fields.all (fun field =>
                    (properties.lookup field.1).isSome || schema.validates field.2))
            && required.all (fun key => (fields.lookup key).isSome)
        | _ => true)
      && (match oneOf with
        | none => true
        | some schemas => matching schemas value = 1)

/-- The fields that are listed are valid. -/
def fieldsValid {Default : Type}
    : List (String × JsonSchema Default) → List (String × Json) → Bool
  | [], _ => true
  | (key, schema) :: rest, fields =>
      (fields.lookup key).all (fun value => schema.validates value)
      && fieldsValid rest fields

/-- How many of some schemas accept a value. -/
def matching {Default : Type} : List (JsonSchema Default) → Json → Nat
  | [], _ => 0
  | schema :: rest, value =>
      (if schema.validates value then 1 else 0) + matching rest value

end

section Rules

variable {Default : Type} {value : Json}

/-- By induction on the listed fields. -/
theorem fieldsValid_iff {properties : List (String × JsonSchema Default)}
    {fields : List (String × Json)}
    : fieldsValid properties fields = true
      ↔ ∀ property ∈ properties,
          ∀ value,
            fields.lookup property.1 = some value → property.2.validates value = true := by
  induction properties with
  | nil => simp [fieldsValid]
  | cons property rest ih =>
      obtain ⟨key, schema⟩ := property
      rw [fieldsValid, Bool.and_eq_true, ih, List.forall_mem_cons]
      cases fields.lookup key <;> simp

/-- By induction on the schemas. -/
theorem matching_eq_countP (schemas : List (JsonSchema Default)) (value : Json)
    : matching schemas value = schemas.countP (fun schema => schema.validates value) := by
  induction schemas with
  | nil => rfl
  | cons schema rest ih =>
      rw [matching, ih, List.countP_cons, Nat.add_comm]

/-- A schema that only names a type. -/
@[simp]
theorem validates_type (type : SimpleType)
    : ({ type := some type } : JsonSchema Default).validates value = type.admits value := by
  cases value <;> simp [JsonSchema.validates, fieldsValid]

/-- A schema that names a type and a constant. -/
theorem validates_const {type : SimpleType} {constant : Primitive}
    : ({ type := some type, const := some constant } : JsonSchema Default).validates value
        = true
      ↔ value = constant.toJson ∧ type.admits value = true := by
  rw [← Json.primitive?_eq_some, and_comm]
  cases value <;> simp [JsonSchema.validates, fieldsValid]

/-- A schema that names a type and several constants. -/
theorem validates_enum {type : SimpleType} {constants : List Primitive}
    : ({ type := some type, enum := some constants } : JsonSchema Default).validates value
        = true
      ↔ type.admits value = true ∧ ∃ constant ∈ constants, value = constant.toJson := by
  simp only [← Json.primitive?_eq_some]
  cases value <;> simp [JsonSchema.validates, fieldsValid]

/-- A schema of arrays. -/
theorem validates_items {schema : JsonSchema Default}
    : ({ type := some .array, items := some schema } : JsonSchema Default).validates value
        = true
      ↔ ∃ elements, value = .arr elements ∧ ∀ element ∈ elements, schema.validates element := by
  cases value <;> simp [JsonSchema.validates, fieldsValid, SimpleType.admits]

/-- A schema of objects whose fields are all listed. -/
theorem validates_closed {properties : List (String × JsonSchema Default)}
    {required : List String}
    : ({
        type := some .object
        properties
        additionalProperties := some .forbidden
        required
      } : JsonSchema Default).validates value = true
      ↔ ∃ fields,
          value = .obj fields
          ∧ (∀ property ∈ properties,
              ∀ value,
                fields.lookup property.1 = some value → property.2.validates value = true)
          ∧ (∀ field ∈ fields, (properties.lookup field.1).isSome = true)
          ∧ ∀ key ∈ required, (fields.lookup key).isSome = true := by
  cases value with
  | obj fields =>
      simp [JsonSchema.validates, SimpleType.admits, fieldsValid_iff, and_assoc]
  | _ => simp [JsonSchema.validates, SimpleType.admits]

/-- A schema of objects whose fields all meet one schema. -/
theorem validates_each {schema : JsonSchema Default}
    : ({
        type := some .object
        additionalProperties := some (.each schema)
      } : JsonSchema Default).validates value = true
      ↔ ∃ fields, value = .obj fields ∧ ∀ field ∈ fields, schema.validates field.2 = true := by
  cases value <;> simp [JsonSchema.validates, fieldsValid, SimpleType.admits]

/-- Exactly one of the schemas accepts the value. -/
theorem validates_oneOf {schemas : List (JsonSchema Default)}
    : ({ oneOf := some schemas } : JsonSchema Default).validates value = true
      ↔ schemas.countP (fun schema => schema.validates value) = 1 := by
  rw [← matching_eq_countP]
  cases value <;> simp [JsonSchema.validates, fieldsValid]

/-- Of an indexed family exactly one schema accepts the value. -/
theorem validates_oneOf_ofFn {count : Nat} {schemas : Fin count → JsonSchema Default}
    : ({ oneOf := some (List.ofFn schemas) } : JsonSchema Default).validates value = true
      ↔ ∃! i, (schemas i).validates value = true := by
  have counted : (List.ofFn schemas).countP (fun schema => schema.validates value)
      = (List.finRange count).countP (fun i => (schemas i).validates value) := by
    rw [List.ofFn_eq_map, List.countP_map]
    rfl
  rw [validates_oneOf, counted]
  refine ⟨?_, ?_⟩
  · intro one
    rw [List.countP_eq_length_filter, List.length_eq_one_iff] at one
    obtain ⟨i, only⟩ := one
    have among (j : Fin count) : (schemas j).validates value = true ↔ j = i := by
      refine Iff.trans ?_ List.mem_singleton
      rw [← only]
      simp
    exact ⟨i, (among i).mpr rfl, fun j accepts => (among j).mp accepts⟩
  · intro unique
    obtain ⟨i, accepts, only⟩ := unique
    rw [← List.count_finRange i]
    refine List.countP_congr ?_
    intro j _
    refine ⟨fun accepted => beq_iff_eq.mpr (only j accepted), ?_⟩
    intro same
    obtain rfl := beq_iff_eq.mp same
    exact accepts

/-- A default changes nothing. -/
@[simp]
theorem validates_default (schema : JsonSchema Default) (default : Option Default)
    : ({ schema with default } : JsonSchema Default).validates value
      = schema.validates value := by
  cases schema
  unfold JsonSchema.validates
  rfl

end Rules

end Intellisphere.Foundation
