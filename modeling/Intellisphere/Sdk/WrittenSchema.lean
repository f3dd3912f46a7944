import Intellisphere.Foundation.SchemaDocument
import Intellisphere.Sdk.SchemaAgreement

/-! The schema of a Zod type once it is written: a document that means what the schema means.
-/

namespace Intellisphere.Sdk

open Intellisphere.Foundation Intellisphere.Foundation.Js

/-- JSON writes the schema as a document with its meaning. -/
def Written {Default : Type} (schema : JsonSchema Default) : Prop :=
  ∃ fields,
    stringify (schemaValue schema) = .ok (some (.obj fields))
    ∧ (Json.obj fields).Means schema

theorem stringify_string (text : String)
    : stringify (.string text) = .ok (some (.str text)) := by
  rw [stringify]

section Lists

variable {Item : Type} {value : Item → Value} {json : Item → Json}

/-- A function is not written, by induction on the properties before it. -/
theorem stringifyFields_function (fields : List (String × Value)) (name : String)
    : stringifyFields (fields ++ [(name, .function)]) = stringifyFields fields := by
  induction fields with
  | nil => rfl
  | cons field rest ih =>
      obtain ⟨key, value⟩ := field
      rw [List.cons_append, stringifyFields, stringifyFields, ih]

end Lists

section Keywords

variable {Default : Type}

theorem Written.items {schema : JsonSchema Default} (written : Written schema)
    : Written ({ type := some .array, items := some schema } : JsonSchema Default) := by
  obtain ⟨fields, inner, meant⟩ := written
  refine ⟨_, ?_, meant.items⟩
  exact stringify_object (stringifyFields_cons (stringify_string _)
    (stringifyFields_cons inner rfl))

theorem Written.each {schema : JsonSchema Default} (written : Written schema)
    : Written ({ type := some .object, additionalProperties := some (.each schema) }
        : JsonSchema Default) := by
  obtain ⟨fields, inner, meant⟩ := written
  refine ⟨_, ?_, meant.each⟩
  exact stringify_object (stringifyFields_cons (stringify_string _)
    (stringifyFields_cons inner rfl))

/-- The default is a function, so the document is the one without it. -/
theorem Written.default {schema : JsonSchema Default} (written : Written schema)
    (default : Default)
    : Written { schema with default := some default } := by
  obtain ⟨fields, inner, meant⟩ := written
  refine ⟨fields, ?_, meant.default (some default)⟩
  rw [← inner]
  obtain ⟨type, const, enum, items, properties, additional, required, oneOf, old⟩ := schema
  unfold schemaValue
  dsimp only
  rw [stringify, stringify, Option.map_some, Option.toList_some, stringifyFields_function]
  cases old with
  | none => rw [Option.map_none, Option.toList_none, List.append_nil]
  | some old => rw [Option.map_some, Option.toList_some, stringifyFields_function]

end Keywords

end Intellisphere.Sdk
