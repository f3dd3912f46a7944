import Intellisphere.Foundation.JsValue
import Intellisphere.Sdk.Manifest

/-! The tools a package defines and the manifest file it writes for them. The schemas are all
that Zod has: those the conversion knows and any other; a literal can be any value.
-/

namespace Intellisphere.Sdk.ManifestFile

open Intellisphere.Foundation Intellisphere.Foundation.Js

/-- A Zod schema. The shape of an object lists its fields, with distinct names. -/
inductive ZodSchema where
  | string
  | number
  | boolean
  | literal (value : Value)
  | enum (values : List String)
  | array (type : ZodSchema)
  | optional (innerType : ZodSchema)
  | nullable (innerType : ZodSchema)
  | default (innerType : ZodSchema)
  | object (shape : List (String × ZodSchema))
  | record (valueType : ZodSchema)
  | union (options : List ZodSchema)
  | other

/-- The outermost wrapper is Optional or Default. -/
def ZodSchema.isOptionalOrDefault : ZodSchema → Bool
  | .optional _ => true
  | .default _ => true
  | _ => false

/-- The fields that must be present; only the outermost wrapper of each is looked at. -/
def requiredKeys (shape : List (String × ZodSchema)) : List String :=
  (shape.filter (fun field => !field.2.isOptionalOrDefault)).map Prod.fst

/-- The properties of an object after one is set: in its place, or last if it is new. -/
def setProperty (name : String) (property : Value)
    : List (String × Value) → List (String × Value)
  | [] => [(name, property)]
  | (key, value) :: rest =>
      if key = name then (name, property) :: rest
      else (key, value) :: setProperty name property rest

/-- An object literal that spreads a value and then sets a property. -/
def spread (value : Value) (name : String) (property : Value) : Value :=
  match value with
  | .object fields => .object (setProperty name property fields)
  | _ => .object [(name, property)]

mutual

/-- Convert a schema to the JSON Schema of a manifest entry. The default of a Default schema
is a function.
-/
def zodToJsonSchema : ZodSchema → Value
  | .string => .object [("type", .string "string")]
  | .number => .object [("type", .string "number")]
  | .boolean => .object [("type", .string "boolean")]
  | .literal value => .object [("type", .string value.typeof), ("const", value)]
  | .enum values =>
      .object [("type", .string "string"), ("enum", .array (values.map .string))]
  | .array type => .object [("type", .string "array"), ("items", zodToJsonSchema type)]
  | .optional innerType => zodToJsonSchema innerType
  | .nullable innerType =>
      .object
        [
          (
            "oneOf",
            .array [zodToJsonSchema innerType, .object [("type", .string "null")]]
          )
        ]
  | .default innerType => spread (zodToJsonSchema innerType) "default" .function
  | .object shape =>
      let required := requiredKeys shape
      .object
        (
          [
            ("type", .string "object"),
            ("properties", .object (properties shape)),
            ("additionalProperties", .bool false)
          ]
          ++ if required.length > 0 then [("required", .array (required.map .string))] else []
        )
  | .record valueType =>
      .object
        [("type", .string "object"), ("additionalProperties", zodToJsonSchema valueType)]
  | .union options => .object [("oneOf", .array (alternatives options))]
  | .other => .object []

/-- The properties of an object. Assigning to `__proto__` adds none. -/
def properties : List (String × ZodSchema) → List (String × Value)
  | [] => []
  | (key, schema) :: rest =>
      if isOwnKey key then (key, zodToJsonSchema schema) :: properties rest
      else properties rest

def alternatives : List ZodSchema → List Value
  | [] => []
  | schema :: rest => zodToJsonSchema schema :: alternatives rest

end

-----------------------------------------------------------------------------------------
-- Tools
-----------------------------------------------------------------------------------------

inductive ToolZone where
  | sphere
  | satellite
  | wasm

def ToolZone.text : ToolZone → String
  | .sphere => "sphere"
  | .satellite => "satellite"
  | .wasm => "wasm"

structure EdgeToolConstraints where
  maxResultBytes : Number
  timeoutMs : Number
  allowNetwork : Bool

/-- A tool as far as a manifest describes it; it has constraints if it is an edge tool. -/
structure ToolDefinition where
  name : String
  description : String
  inputSchema : ZodSchema
  zones : List ToolZone
  defaultTrustCost : Number
  edge : Option EdgeToolConstraints := none

structure DefineToolOptions where
  name : String
  description : String
  inputSchema : ZodSchema
  zones : Option (List ToolZone) := none
  defaultTrustCost : Option Number := none

structure DefineEdgeToolOptions where
  name : String
  description : String
  inputSchema : ZodSchema
  defaultTrustCost : Option Number := none
  maxResultBytes : Option Number := none
  timeoutMs : Option Number := none
  allowNetwork : Option Bool := none

/-- White space and line terminators, which `trim` removes. -/
def isWhiteSpace (c : Char) : Bool :=
  (0x9 ≤ c.toNat && c.toNat ≤ 0xD)
  || (0x2000 ≤ c.toNat && c.toNat ≤ 0x200A)
  || [0x20, 0xA0, 0x1680, 0x2028, 0x2029, 0x202F, 0x205F, 0x3000, 0xFEFF].contains c.toNat

/-- Nothing is left of a text once it is trimmed. -/
def isBlank (text : String) : Bool :=
  text.toList.all isWhiteSpace

def defineTool (opts : DefineToolOptions) : Except String ToolDefinition :=
  let zones := opts.zones.getD [.sphere]
  let defaultTrustCost := opts.defaultTrustCost.getD (.finite 1)
  if isBlank opts.name then .error "Tool name must be a non-empty string."
  else if isBlank opts.description then
    .error "Tool description must be a non-empty string."
  else if zones.length = 0 then .error "At least one execution zone must be specified."
  else if defaultTrustCost.lt (.finite 0) then .error "defaultTrustCost must be >= 0."
  else
    .ok {
      name := opts.name
      description := opts.description
      inputSchema := opts.inputSchema
      zones
      defaultTrustCost
    }

def defaultMaxResultBytes : Number :=
  .finite 1048576

def defaultTimeoutMs : Number :=
  .finite 30000

def defaultAllowNetwork : Bool :=
  false

def defineEdgeTool (opts : DefineEdgeToolOptions) : Except String ToolDefinition :=
  let defaultTrustCost := opts.defaultTrustCost.getD (.finite 1)
  let maxResultBytes := opts.maxResultBytes.getD defaultMaxResultBytes
  let timeoutMs := opts.timeoutMs.getD defaultTimeoutMs
  if isBlank opts.name then .error "Edge tool name must be a non-empty string."
  else if isBlank opts.description then
    .error "Edge tool description must be a non-empty string."
  else if defaultTrustCost.lt (.finite 0) then .error "defaultTrustCost must be >= 0."
  else if maxResultBytes.le (.finite 0) then .error "maxResultBytes must be > 0."
  else if timeoutMs.le (.finite 0) then .error "timeoutMs must be > 0."
  else
    .ok {
      name := opts.name
      description := opts.description
      inputSchema := opts.inputSchema
      zones := [.satellite]
      defaultTrustCost
      edge := some {
        maxResultBytes
        timeoutMs
        allowNetwork := opts.allowNetwork.getD defaultAllowNetwork
      }
    }

/-- A tool that one of the two functions returned. -/
def ToolDefinition.IsDefined (tool : ToolDefinition) : Prop :=
  (∃ opts, defineTool opts = .ok tool) ∨ ∃ opts, defineEdgeTool opts = .ok tool

-----------------------------------------------------------------------------------------
-- The manifest
-----------------------------------------------------------------------------------------

def EdgeToolConstraints.toValue (edge : EdgeToolConstraints) : Value :=
  .object
    [
      ("maxResultBytes", .number edge.maxResultBytes),
      ("timeoutMs", .number edge.timeoutMs),
      ("allowNetwork", .bool edge.allowNetwork)
    ]

def toManifestEntry (tool : ToolDefinition) : Value :=
  .object
    (
      [
        ("name", .string tool.name),
        ("description", .string tool.description),
        ("inputJsonSchema", zodToJsonSchema tool.inputSchema),
        ("zones", .array (tool.zones.map (fun zone => .string zone.text))),
        ("defaultTrustCost", .number tool.defaultTrustCost)
      ]
      ++ (tool.edge.map (fun edge => ("edge", edge.toValue))).toList
    )

def buildManifest (packageName : String) (tools : List ToolDefinition)
    : Except String Value :=
  if isBlank packageName then .error "packageName must be a non-empty string."
  else
    .ok
      (.object
        [
          ("manifestVersion", .string "0.1.0"),
          ("packageName", .string packageName),
          ("tools", .array (tools.map toManifestEntry))
        ])

/-- The value a manifest file holds; nothing is said about its layout. -/
def manifestToJson (manifest : Value) : Except String (Option Json) :=
  stringify manifest

-----------------------------------------------------------------------------------------
-- What becomes of a schema
-----------------------------------------------------------------------------------------

mutual

/-- JSON can write the conversion: it holds no literal that is refused. -/
def ZodSchema.isWritable : ZodSchema → Bool
  | .literal value => !value.isRefused
  | .array type => type.isWritable
  | .optional innerType => innerType.isWritable
  | .nullable innerType => innerType.isWritable
  | .default innerType => innerType.isWritable
  | .object shape => propertiesWritable shape
  | .record valueType => valueType.isWritable
  | .union options => allWritable options
  | _ => true

def propertiesWritable : List (String × ZodSchema) → Bool
  | [] => true
  | (key, schema) :: rest =>
      (!isOwnKey key || schema.isWritable) && propertiesWritable rest

def allWritable : List ZodSchema → Bool
  | [] => true
  | schema :: rest => schema.isWritable && allWritable rest

end

/-- The conversion knows the schema below its Optional and Default wrappers. -/
def ZodSchema.isConverted : ZodSchema → Bool
  | .optional innerType => innerType.isConverted
  | .default innerType => innerType.isConverted
  | .other => false
  | _ => true

theorem mem_setProperty {name : String} {property : Value} {fields : List (String × Value)}
    {field : String × Value} (member : field ∈ setProperty name property fields)
    : field = (name, property) ∨ field ∈ fields := by
  induction fields with
  | nil => exact .inl (List.mem_singleton.mp member)
  | cons first rest ih =>
      rw [setProperty] at member
      split at member
      · rcases List.mem_cons.mp member with set | later
        · exact .inl set
        · exact .inr (List.mem_cons_of_mem _ later)
      · rcases List.mem_cons.mp member with same | later
        · exact .inr (List.mem_cons.mpr (.inl same))
        · exact (ih later).imp_right (List.mem_cons_of_mem _)

/-- Setting a property changes nothing about what is not true of its old or new value, by
induction on the properties.
-/
theorem exists_mem_setProperty_iff (Holds : Value → Prop) {name : String} {property : Value}
    (new : ¬Holds property) {fields : List (String × Value)}
    (old : ∀ field ∈ fields, field.1 = name → ¬Holds field.2)
    : (∃ field ∈ setProperty name property fields, Holds field.2)
      ↔ ∃ field ∈ fields, Holds field.2 := by
  induction fields with
  | nil => simp [setProperty, new]
  | cons first rest ih =>
      rw [List.forall_mem_cons] at old
      rw [setProperty]
      split
      case isTrue same =>
        simp only [List.exists_mem_cons_iff]
        simp [new, old.1 same]
      case isFalse =>
        simp only [List.exists_mem_cons_iff, ih old.2]

/-- A schema converts to an object, whose default, if any, is a function, by recursion
through the wrappers.
-/
theorem zodToJsonSchema_object (schema : ZodSchema)
    : ∃ fields,
        zodToJsonSchema schema = .object fields
        ∧ ∀ field ∈ fields, field.1 = "default" → field.2 = .function := by
  cases schema with
  | optional innerType =>
      rw [zodToJsonSchema]
      exact zodToJsonSchema_object innerType
  | default innerType =>
      obtain ⟨fields, converted, functions⟩ := zodToJsonSchema_object innerType
      rw [zodToJsonSchema, converted]
      refine ⟨_, rfl, ?_⟩
      intro field member named
      rcases mem_setProperty member with same | kept
      · rw [same]
      · exact functions field kept named
  | object shape =>
      rw [zodToJsonSchema]
      refine ⟨_, rfl, ?_⟩
      intro field member named
      obtain ⟨name, value⟩ := field
      obtain rfl : name = "default" := named
      rcases List.mem_append.mp member with always | sometimes
      · simp at always
      · split at sometimes <;> simp at sometimes
  | _ => exact ⟨_, by rw [zodToJsonSchema], by simp⟩

/-- Setting a default that is a function changes nothing about what is refused. -/
theorem isRefused_spread {fields : List (String × Value)}
    (functions : ∀ field ∈ fields, field.1 = "default" → field.2 = .function)
    : (spread (.object fields) "default" .function).isRefused
      = (Value.object fields).isRefused := by
  have old : ∀ field ∈ fields, field.1 = "default" → ¬field.2.isRefused = true := by
    intro field member named
    simp [functions field member named, Value.isRefused]
  have new : ¬Value.function.isRefused = true := by
    simp [Value.isRefused]
  rw [Bool.eq_iff_iff]
  simp only [spread, Value.isRefused, anyFieldRefused_eq_any, List.any_eq_true]
  exact exists_mem_setProperty_iff (fun value => value.isRefused = true) new old

theorem anyRefused_strings (texts : List String)
    : anyRefused (texts.map Value.string) = false := by
  simp [anyRefused_eq_any, Value.isRefused]

mutual

/-- A conversion is refused exactly when it holds a refused literal, by recursion on the
schema.
-/
theorem zodToJsonSchema_isRefused (schema : ZodSchema)
    : (zodToJsonSchema schema).isRefused = !schema.isWritable := by
  cases schema with
  | enum values =>
      simp [zodToJsonSchema, ZodSchema.isWritable, Value.isRefused, anyFieldRefused,
        anyRefused_strings]
  | array type =>
      simp [zodToJsonSchema, ZodSchema.isWritable, Value.isRefused, anyFieldRefused,
        zodToJsonSchema_isRefused type]
  | optional innerType =>
      rw [zodToJsonSchema, ZodSchema.isWritable, zodToJsonSchema_isRefused innerType]
  | nullable innerType =>
      simp [zodToJsonSchema, ZodSchema.isWritable, Value.isRefused, anyFieldRefused,
        anyRefused, zodToJsonSchema_isRefused innerType]
  | default innerType =>
      obtain ⟨fields, converted, functions⟩ := zodToJsonSchema_object innerType
      rw [zodToJsonSchema, ZodSchema.isWritable, ← zodToJsonSchema_isRefused innerType,
        converted, isRefused_spread functions]
  | object shape =>
      have required
          : anyFieldRefused
              (if (requiredKeys shape).length > 0
                then [("required", .array ((requiredKeys shape).map .string))] else [])
            = false := by
        split <;> simp [anyFieldRefused, Value.isRefused, anyRefused_strings]
      rw [anyFieldRefused_eq_any] at required
      rw [zodToJsonSchema, ZodSchema.isWritable, ← properties_anyRefused shape]
      simp only [Value.isRefused, anyFieldRefused_eq_any, List.any_append, required]
      simp [Value.isRefused, anyFieldRefused_eq_any]
  | record valueType =>
      simp [zodToJsonSchema, ZodSchema.isWritable, Value.isRefused, anyFieldRefused,
        zodToJsonSchema_isRefused valueType]
  | union options =>
      simp [zodToJsonSchema, ZodSchema.isWritable, Value.isRefused, anyFieldRefused,
        alternatives_anyRefused options]
  | _ => simp [zodToJsonSchema, ZodSchema.isWritable, Value.isRefused, anyFieldRefused]

theorem properties_anyRefused
    : ∀ shape : List (String × ZodSchema),
        anyFieldRefused (properties shape) = !propertiesWritable shape
  | [] => by simp [properties, propertiesWritable, anyFieldRefused]
  | (key, schema) :: rest => by
      cases own : isOwnKey key <;>
        simp [properties, propertiesWritable, anyFieldRefused, own,
          zodToJsonSchema_isRefused schema, properties_anyRefused rest]

theorem alternatives_anyRefused
    : ∀ options : List ZodSchema, anyRefused (alternatives options) = !allWritable options
  | [] => by simp [alternatives, allWritable, anyRefused]
  | schema :: rest => by
      simp [alternatives, allWritable, anyRefused, zodToJsonSchema_isRefused schema,
        alternatives_anyRefused rest]

end

/-- A conversion has something to write exactly when the conversion knows the schema, by
recursion through the wrappers.
-/
theorem zodToJsonSchema_isConverted (schema : ZodSchema) (fields : List (String × Value))
    (converted : zodToJsonSchema schema = .object fields)
    : (∃ field ∈ fields, field.2.isLeftOut = false) ↔ schema.isConverted = true := by
  cases schema with
  | optional innerType =>
      rw [zodToJsonSchema] at converted
      exact zodToJsonSchema_isConverted innerType fields converted
  | default innerType =>
      obtain ⟨inner, innerConverted, functions⟩ := zodToJsonSchema_object innerType
      rw [zodToJsonSchema, innerConverted] at converted
      rw [ZodSchema.isConverted, ← zodToJsonSchema_isConverted innerType inner innerConverted,
        ← Value.object.inj converted]
      have old : ∀ field ∈ inner, field.1 = "default" → ¬field.2.isLeftOut = false := by
        intro field member named
        simp [functions field member named, Value.isLeftOut]
      have new : ¬Value.function.isLeftOut = false := by
        simp [Value.isLeftOut]
      exact exists_mem_setProperty_iff (fun value => value.isLeftOut = false) new old
  | _ =>
      rw [zodToJsonSchema] at converted
      simp [← Value.object.inj converted, ZodSchema.isConverted, Value.isLeftOut]

/-- A writable schema is an object in JSON, which is empty unless the schema is converted. -/
theorem stringify_zodToJsonSchema {schema : ZodSchema} (writable : schema.isWritable = true)
    : ∃ fields,
        stringify (zodToJsonSchema schema) = .ok (some (.obj fields))
        ∧ (fields = [] ↔ schema.isConverted = false) := by
  obtain ⟨fields, converted, _⟩ := zodToJsonSchema_object schema
  have unrefused : anyFieldRefused fields = false := by
    have same := zodToJsonSchema_isRefused schema
    rw [converted, writable] at same
    exact same
  obtain ⟨json, written⟩ := (stringifyFields_ok_iff fields).mpr unrefused
  refine ⟨json, ?_, ?_⟩
  · rw [converted, stringify_object written]
  · rw [stringifyFields_eq_nil_iff written, ← Bool.not_eq_true,
      ← zodToJsonSchema_isConverted schema fields converted]
    simp

/-- JSON refuses a manifest entry whose schema is not writable. -/
theorem toManifestEntry_isRefused (tool : ToolDefinition)
    : (toManifestEntry tool).isRefused = !tool.inputSchema.isWritable := by
  have zones : anyRefused (tool.zones.map (fun zone => .string zone.text)) = false := by
    simp [anyRefused_eq_any, Value.isRefused]
  cases constraints : tool.edge <;>
    simp [toManifestEntry, constraints, EdgeToolConstraints.toValue, Value.isRefused,
      anyFieldRefused, zodToJsonSchema_isRefused, zones]

-----------------------------------------------------------------------------------------
-- What the definitions check
-----------------------------------------------------------------------------------------

/-- What a tool is known to be once it is defined. A limit that is not a number passes. -/
structure ToolDefinition.Checked (tool : ToolDefinition) : Prop where
  name : isBlank tool.name = false
  description : isBlank tool.description = false
  zones : tool.zones ≠ []
  defaultTrustCost : tool.defaultTrustCost.lt (.finite 0) = false
  edge
    : ∀ edge, tool.edge = some edge
      → edge.maxResultBytes.le (.finite 0) = false ∧ edge.timeoutMs.le (.finite 0) = false

theorem if_error_eq_ok {T : Type} {condition : Prop} [Decidable condition] {message : String}
    {next : Except String T} {result : T}
    : (if condition then .error message else next) = .ok result
      ↔ ¬condition ∧ next = .ok result := by
  split <;> simp [*]

theorem defineTool_checked {opts : DefineToolOptions} {tool : ToolDefinition}
    (defined : defineTool opts = .ok tool)
    : tool.Checked := by
  simp only [defineTool, if_error_eq_ok, Except.ok.injEq] at defined
  obtain ⟨name, description, zones, cost, rfl⟩ := defined
  exact {
    name := by simpa using name
    description := by simpa using description
    zones := fun none => zones (List.length_eq_zero_iff.mpr none)
    defaultTrustCost := by simpa using cost
    edge := by simp
  }

theorem defineEdgeTool_checked {opts : DefineEdgeToolOptions} {tool : ToolDefinition}
    (defined : defineEdgeTool opts = .ok tool)
    : tool.Checked := by
  simp only [defineEdgeTool, if_error_eq_ok, Except.ok.injEq] at defined
  obtain ⟨name, description, cost, bytes, timeout, rfl⟩ := defined
  exact {
    name := by simpa using name
    description := by simpa using description
    zones := by simp
    defaultTrustCost := by simpa using cost
    edge := by
      intro edge same
      obtain rfl := Option.some.inj same
      exact ⟨by simpa using bytes, by simpa using timeout⟩
  }

/-- Every defined tool has passed the checks. -/
theorem ToolDefinition.IsDefined.checked {tool : ToolDefinition} (defined : tool.IsDefined)
    : tool.Checked := by
  rcases defined with ⟨opts, core⟩ | ⟨opts, edge⟩
  · exact defineTool_checked core
  · exact defineEdgeTool_checked edge

end Intellisphere.Sdk.ManifestFile
