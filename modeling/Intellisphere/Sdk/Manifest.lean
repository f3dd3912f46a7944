import Intellisphere.Sdk.Zod

/-! The JSON Schema a manifest carries for a Zod type. -/

namespace Intellisphere.Sdk

open Intellisphere.Foundation

/-- JavaScript's `typeof`, as a type name of JSON Schema. It calls null an object. -/
def typeof : Primitive → SimpleType
  | .null => .object
  | .bool _ => .boolean
  | .num _ => .number
  | .str _ => .string

/-- Assigning to this key of an object literal adds a property. Assigning to `__proto__` sets
the prototype instead.
-/
def isOwnKey (key : String) : Bool :=
  key != "__proto__"

/-- Convert a Zod type to a JSON Schema. The default of a Default type is copied as the
function it is.
-/
def zodToJsonSchema : ZodType → JsonSchema DefaultValue
  | .string => { type := some .string }
  | .number => { type := some .number }
  | .boolean => { type := some .boolean }
  | .literal value => { type := some (typeof value), const := some value }
  | .enum values => { type := some .string, enum := some (values.map Primitive.str) }
  | .array type => { type := some .array, items := some (zodToJsonSchema type) }
  | .optional innerType => zodToJsonSchema innerType
  | .nullable innerType =>
      { oneOf := some [zodToJsonSchema innerType, { type := some .null }] }
  | .default innerType defaultValue =>
      { zodToJsonSchema innerType with default := some defaultValue }
  | .object keys shape =>
      {
        type := some .object
        properties :=
          (keys.filter isOwnKey).map (fun key => (key, zodToJsonSchema (shape key)))
        additionalProperties := some .forbidden
        -- Only the outermost wrapper of a field is looked at.
        required := keys.filter (fun key => !(shape key).isOptionalOrDefault)
      }
  | .record valueType =>
      {
        type := some .object
        additionalProperties := some (.each (zodToJsonSchema valueType))
      }
  | .union _ options => { oneOf := some (List.ofFn (fun i => zodToJsonSchema (options i))) }

end Intellisphere.Sdk
