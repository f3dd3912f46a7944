import Intellisphere.Sdk.Manifest
import Intellisphere.Sdk.ManifestFile

/-! The conversion of a manifest entry agrees with the one whose result is a JSON Schema, for
the schemas that both can express.
-/

namespace Intellisphere.Sdk

open Intellisphere.Foundation Intellisphere.Foundation.Js Intellisphere.Sdk.ManifestFile

/-- A constant as a value of the language. -/
def constantValue : Primitive → Value
  | .null => .null
  | .bool value => .bool value
  | .num value => .number (.finite value)
  | .str value => .string value

def typeName : SimpleType → String
  | .array => "array"
  | .boolean => "boolean"
  | .integer => "integer"
  | .null => "null"
  | .number => "number"
  | .object => "object"
  | .string => "string"

mutual

/-- A schema as an object of the language. Its properties are listed where it forbids all
others, and its default is a function.
-/
def schemaValue {Default : Type} : JsonSchema Default → Value
  | {
      type, const, enum, items, properties, additionalProperties, required, oneOf, default
    } =>
      .object
        (
          (type.map (fun type => ("type", .string (typeName type)))).toList
          ++ (const.map (fun constant => ("const", constantValue constant))).toList
          ++ (enum.map (fun constants =>
              ("enum", .array (constants.map constantValue)))).toList
          ++ (match items with
            | none => []
            | some schema => [("items", schemaValue schema)])
          ++ (match additionalProperties with
            | none => []
            | some .forbidden =>
                [
                  ("properties", .object (propertyValues properties)),
                  ("additionalProperties", .bool false)
                ]
            | some (.each schema) => [("additionalProperties", schemaValue schema)])
          ++ (if required.length > 0 then [("required", .array (required.map .string))]
            else [])
          ++ (match oneOf with
            | none => []
            | some schemas => [("oneOf", .array (schemaValues schemas))])
          ++ (default.map (fun _ => ("default", .function))).toList
        )

def propertyValues {Default : Type}
    : List (String × JsonSchema Default) → List (String × Value)
  | [] => []
  | (key, schema) :: rest => (key, schemaValue schema) :: propertyValues rest

def schemaValues {Default : Type} : List (JsonSchema Default) → List Value
  | [] => []
  | schema :: rest => schemaValue schema :: schemaValues rest

end

end Intellisphere.Sdk
