import Intellisphere.Foundation.JsonSchema

/-! JSON Schemas as documents. A document is an object with a field for each keyword of the
schema.
-/

namespace Intellisphere.Foundation

/-- The name of a type in a document. -/
def SimpleType.name : SimpleType → String
  | .array => "array"
  | .boolean => "boolean"
  | .integer => "integer"
  | .null => "null"
  | .number => "number"
  | .object => "object"
  | .string => "string"

def SimpleType.ofName (name : String) : Option SimpleType :=
  [array, boolean, integer, null, number, object, string].find? (fun type => type.name = name)

@[simp]
theorem SimpleType.ofName_name (type : SimpleType) : ofName type.name = some type := by
  cases type <;> rfl

/-- The texts of an array of texts. -/
def Json.asStrings : Json → Option (List String)
  | .arr items => items.mapM Json.asStr
  | _ => none

/-- The constants of an array of constants. -/
def Json.asPrimitives : Json → Option (List Primitive)
  | .arr items => items.mapM Json.primitive?
  | _ => none

mutual

/-- Read a document. There is no result for one that a schema cannot express: another keyword,
one with a value of the wrong kind, several types, or a constant that has parts.
-/
def JsonSchema.ofJson : Json → Option (JsonSchema Json)
  | .obj fields => JsonSchema.ofFields fields
  | _ => none

def JsonSchema.ofFields : List (String × Json) → Option (JsonSchema Json)
  | [] => some {}
  | (keyword, value) :: rest => do
      let schema ← JsonSchema.ofFields rest
      if keyword = "type" then
        let type ← value.asStr >>= SimpleType.ofName
        return { schema with type := some type }
      else if keyword = "const" then
        let constant ← value.primitive?
        return { schema with const := some constant }
      else if keyword = "enum" then
        let constants ← value.asPrimitives
        return { schema with enum := some constants }
      else if keyword = "items" then
        let items ← JsonSchema.ofJson value
        return { schema with items := some items }
      else if keyword = "properties" then
        match value with
        | .obj fields =>
            let properties ← JsonSchema.ofProperties fields
            return { schema with properties }
        | _ => none
      else if keyword = "additionalProperties" then
        match value with
        | .bool true => return schema
        | .bool false => return { schema with additionalProperties := some .forbidden }
        | other =>
            let additional ← JsonSchema.ofJson other
            return { schema with additionalProperties := some (.each additional) }
      else if keyword = "required" then
        let required ← value.asStrings
        return { schema with required }
      else if keyword = "oneOf" then
        match value with
        | .arr items =>
            let schemas ← JsonSchema.ofItems items
            return { schema with oneOf := some schemas }
        | _ => none
      else if keyword = "default" then
        return { schema with default := some value }
      else none

def JsonSchema.ofProperties : List (String × Json) → Option (List (String × JsonSchema Json))
  | [] => some []
  | (key, value) :: rest => do
      let schema ← JsonSchema.ofJson value
      let properties ← JsonSchema.ofProperties rest
      return (key, schema) :: properties

def JsonSchema.ofItems : List Json → Option (List (JsonSchema Json))
  | [] => some []
  | item :: rest => do
      let schema ← JsonSchema.ofJson item
      let schemas ← JsonSchema.ofItems rest
      return schema :: schemas

end

/-- The document is valid JSON Schema and accepts the values that the schema accepts. -/
def Json.Means {Default : Type} (document : Json) (schema : JsonSchema Default) : Prop :=
  ∃ read,
    JsonSchema.ofJson document = some read
    ∧ ∀ value, read.validates value = schema.validates value

namespace Json

section Keywords

variable {Default : Type}

/-- A default changes nothing. -/
theorem Means.default {document : Json} {schema : JsonSchema Default}
    (means : document.Means schema) (default : Option Default)
    : document.Means { schema with default } := by
  obtain ⟨read, found, same⟩ := means
  refine ⟨read, found, ?_⟩
  intro value
  rw [same, validates_default]

theorem Means.items {document : Json} {schema : JsonSchema Default}
    (means : document.Means schema)
    : (Json.obj [("type", .str "array"), ("items", document)]).Means
        ({ type := some .array, items := some schema } : JsonSchema Default) := by
  obtain ⟨read, found, same⟩ := means
  refine ⟨{ type := some .array, items := some read }, ?_, ?_⟩
  · simp [JsonSchema.ofJson, JsonSchema.ofFields, asStr, found, SimpleType.ofName,
      SimpleType.name]
  · intro value
    rw [Bool.eq_iff_iff, validates_items, validates_items]
    simp only [same]

/-- The schema of the other fields is a document of its own. -/
theorem Means.each {document : Json} {schema : JsonSchema Default}
    (means : document.Means schema)
    : (Json.obj [("type", .str "object"), ("additionalProperties", document)]).Means
        ({ type := some .object, additionalProperties := some (.each schema) }
          : JsonSchema Default) := by
  obtain ⟨read, found, same⟩ := means
  refine ⟨{ type := some .object, additionalProperties := some (.each read) }, ?_, ?_⟩
  · cases document with
    | obj fields =>
        simp [JsonSchema.ofJson, JsonSchema.ofFields, asStr, SimpleType.ofName,
          SimpleType.name] at found ⊢
        simp [found]
    | _ => simp [JsonSchema.ofJson] at found
  · intro value
    rw [Bool.eq_iff_iff, validates_each, validates_each]
    simp only [same]

end Keywords

end Json

end Intellisphere.Foundation
