import Mathlib.Algebra.Order.Field.Rat
import Intellisphere.Cli.ToolValidate
import Intellisphere.Sdk.ManifestFile

/-! Which of the manifests that the SDK builds the command line tool accepts. -/

namespace Intellisphere.Cli

open Intellisphere.Foundation Intellisphere.Foundation.Js Intellisphere.Sdk.ManifestFile

/-- The tool reads the manifest built for some tools and finds no error in it. -/
def Accepts (quoted : String → String) (packageName : String) (tools : List ToolDefinition)
    : Prop :=
  ∃ manifest json decoded,
    buildManifest packageName tools = .ok manifest
    ∧ manifestToJson manifest = .ok (some json)
    ∧ unmarshalToolManifest json = some decoded
    ∧ validateManifest quoted decoded = []

-----------------------------------------------------------------------------------------
-- What is written and what is read back
-----------------------------------------------------------------------------------------

def edgeJson (edge : EdgeToolConstraints) : Json :=
  .obj
    [
      ("maxResultBytes", edge.maxResultBytes.toJson),
      ("timeoutMs", edge.timeoutMs.toJson),
      ("allowNetwork", .bool edge.allowNetwork)
    ]

/-- The fields of the schema of a tool in JSON, if it can be written. -/
def schemaFields (tool : ToolDefinition) : List (String × Json) :=
  match stringify (zodToJsonSchema tool.inputSchema) with
  | .ok (some (.obj fields)) => fields
  | _ => []

def entryJson (tool : ToolDefinition) : Json :=
  .obj
    (
      [
        ("name", .str tool.name),
        ("description", .str tool.description),
        ("inputJsonSchema", .obj (schemaFields tool)),
        ("zones", .arr (tool.zones.map (fun zone => .str zone.text))),
        ("defaultTrustCost", tool.defaultTrustCost.toJson)
      ]
      ++ (tool.edge.map (fun edge => ("edge", edgeJson edge))).toList
    )

def manifestJson (packageName : String) (tools : List ToolDefinition) : Json :=
  .obj
    [
      ("manifestVersion", .str "0.1.0"),
      ("packageName", .str packageName),
      ("tools", .arr (tools.map entryJson))
    ]

theorem stringify_edge (edge : EdgeToolConstraints)
    : stringify edge.toValue = .ok (some (edgeJson edge)) := by
  simp [EdgeToolConstraints.toValue, edgeJson, stringify, stringifyFields, bind, Except.bind,
    pure, Except.pure]

/-- By induction on the zones. -/
theorem stringify_zones (zones : List ToolZone)
    : stringifyItems (zones.map (fun zone => .string zone.text))
      = .ok (zones.map (fun zone => .str zone.text)) := by
  induction zones with
  | nil => rfl
  | cons zone rest ih => exact stringifyItems_cons (by rw [stringify]) ih

theorem stringify_entry {tool : ToolDefinition}
    (writable : tool.inputSchema.isWritable = true)
    : stringify (toManifestEntry tool) = .ok (some (entryJson tool)) := by
  obtain ⟨fields, written, _⟩ := stringify_zodToJsonSchema writable
  have schema : schemaFields tool = fields := by rw [schemaFields, written]
  have zones := stringify_array (stringify_zones tool.zones)
  refine stringify_object ?_
  refine stringifyFields_cons (by rw [stringify]) (stringifyFields_cons (by rw [stringify])
    (stringifyFields_cons (by rw [schema]; exact written) (stringifyFields_cons zones
      (stringifyFields_cons (by rw [stringify]) ?_))))
  cases tool.edge with
  | none => rfl
  | some edge => exact stringifyFields_cons (stringify_edge edge) rfl

/-- By induction on the tools. -/
theorem stringify_entries {tools : List ToolDefinition}
    (writable : ∀ tool ∈ tools, tool.inputSchema.isWritable = true)
    : stringifyItems (tools.map toManifestEntry) = .ok (tools.map entryJson) := by
  induction tools with
  | nil => rfl
  | cons tool rest ih =>
      rw [List.forall_mem_cons] at writable
      exact stringifyItems_cons (stringify_entry writable.1) (ih writable.2)

/-- The manifest of a package with a name. -/
def manifestValue (packageName : String) (tools : List ToolDefinition) : Value :=
  .object
    [
      ("manifestVersion", .string "0.1.0"),
      ("packageName", .string packageName),
      ("tools", .array (tools.map toManifestEntry))
    ]

theorem buildManifest_eq_ok {packageName : String} (named : isBlank packageName = false)
    (tools : List ToolDefinition)
    : buildManifest packageName tools = .ok (manifestValue packageName tools) := by
  rw [buildManifest, named]
  rfl

theorem stringify_manifest (packageName : String) {tools : List ToolDefinition}
    (writable : ∀ tool ∈ tools, tool.inputSchema.isWritable = true)
    : stringify (manifestValue packageName tools)
      = .ok (some (manifestJson packageName tools)) := by
  have entries := stringify_array (stringify_entries writable)
  refine stringify_object ?_
  exact stringifyFields_cons (by rw [stringify]) (stringifyFields_cons (by rw [stringify])
    (stringifyFields_cons entries rfl))

/-- A manifest is written exactly when every schema in it is. -/
theorem manifestToJson_eq_ok_iff (packageName : String) (tools : List ToolDefinition)
    (json : Json)
    : manifestToJson (manifestValue packageName tools) = .ok (some json)
      ↔ (∀ tool ∈ tools, tool.inputSchema.isWritable = true)
        ∧ json = manifestJson packageName tools := by
  unfold manifestToJson
  refine ⟨?_, ?_⟩
  · intro written
    have unrefused := (stringify_ok_iff _).mp ⟨_, written⟩
    have writable : ∀ tool ∈ tools, tool.inputSchema.isWritable = true := by
      intro tool member
      simp only [manifestValue, Value.isRefused, anyFieldRefused, anyRefused_eq_any,
        List.any_map, Bool.or_false, Bool.false_or, List.any_eq_false] at unrefused
      simpa [toManifestEntry_isRefused] using unrefused tool member
    rw [stringify_manifest packageName writable] at written
    exact ⟨writable, (Option.some.inj (Except.ok.inj written)).symm⟩
  · intro ⟨writable, same⟩
    rw [same, stringify_manifest packageName writable]

/-- A constraint that is an integer of 64 bits; none is NaN, infinite or fractional. -/
def IsInt64 (number : Number) : Prop :=
  ∃ value : Int, number = .finite value ∧ GoJson.fitsInt value = true

/-- What a trust cost is read as. -/
def costOf : Number → Rat
  | .finite value => value
  | _ => 0

/-- What a limit is read as, if it can be read. -/
def limitOf (number : Number) : Option Int :=
  GoJson.int 0 number.toJson

/-- The constraints of a tool as they are read. -/
def decodedEdge (edge : EdgeToolConstraints) : Option EdgeConstraints := do
  let maxResultBytes ← limitOf edge.maxResultBytes
  let timeoutMs ← limitOf edge.timeoutMs
  return {
    maxResultBytes
    timeoutMs
    allowNetwork := edge.allowNetwork
  }

/-- A tool as it is read. -/
def decodedEntry (tool : ToolDefinition) (edge : Option EdgeConstraints)
    : ToolManifestEntry where
  name := tool.name
  description := tool.description
  inputJsonSchema := schemaFields tool
  zones := tool.zones.map ToolZone.text
  defaultTrustCost := costOf tool.defaultTrustCost
  edge := edge

theorem decode_edge (edge : EdgeToolConstraints)
    : GoJson.struct edgeConstraintsFields {} (edgeJson edge) = decodedEdge edge := by
  simp only [edgeJson, GoJson.struct, GoJson.entries, GoJson.fieldOf, edgeConstraintsFields,
    GoJson.field, decodedEdge, limitOf]
  cases bytes : GoJson.int 0 edge.maxResultBytes.toJson <;>
    cases timeout : GoJson.int 0 edge.timeoutMs.toJson <;>
    simp [bytes, timeout, GoJson.bool]

/-- By induction on the zones. -/
theorem decode_zones (zones : List ToolZone)
    : (zones.map (fun zone => Json.str zone.text)).mapM (GoJson.string "")
      = some (zones.map ToolZone.text) := by
  induction zones with
  | nil => rfl
  | cons zone rest ih =>
      exact GoJson.mapM_cons_eq_some.mpr ⟨zone.text, rest.map ToolZone.text, rfl, ih, rfl⟩

theorem decode_cost (number : Number)
    : GoJson.float64 0 number.toJson = some (costOf number) := by
  cases number <;> rfl

/-- Constraints that are there are read into new ones. -/
theorem decode_someEdge (edge : EdgeToolConstraints)
    : GoJson.pointer {} (GoJson.struct edgeConstraintsFields) none (edgeJson edge)
      = (decodedEdge edge).map some := by
  rw [← decode_edge]
  rfl

/-- Read the entry of a tool. -/
def decodeTool (tool : ToolDefinition) : Option ToolManifestEntry :=
  GoJson.struct toolManifestEntryFields {} (entryJson tool)

/-- An entry is read as its tool, if its constraints can be read. -/
theorem decodeTool_eq (tool : ToolDefinition)
    : decodeTool tool
      = match tool.edge with
        | none => some (decodedEntry tool none)
        | some edge => (decodedEdge edge).map (fun edge => decodedEntry tool (some edge)) := by
  have described
      : GoJson.entries toolManifestEntryFields {}
          [
            ("name", .str tool.name),
            ("description", .str tool.description),
            ("inputJsonSchema", .obj (schemaFields tool)),
            ("zones", .arr (tool.zones.map (fun zone => .str zone.text))),
            ("defaultTrustCost", tool.defaultTrustCost.toJson)
          ]
        = some (decodedEntry tool none) := by
    simp [GoJson.entries, GoJson.fieldOf, toolManifestEntryFields, GoJson.field,
      GoJson.string, GoJson.map, GoJson.slice, decodedEntry, decode_zones tool.zones,
      decode_cost tool.defaultTrustCost]
  rw [decodeTool, entryJson, GoJson.struct, GoJson.entries_append, described]
  cases tool.edge with
  | none => rfl
  | some edge =>
      have limits := decode_someEdge edge
      simp [GoJson.entries, GoJson.fieldOf, toolManifestEntryFields, GoJson.field,
        decodedEntry, limits]
      rfl

/-- An entry that can be read has the name of its tool. -/
theorem decodeTool_name (tool : ToolDefinition) (entry : ToolManifestEntry)
    (decoded : decodeTool tool = some entry)
    : entry.name = tool.name := by
  rw [decodeTool_eq] at decoded
  cases constraints : tool.edge with
  | none =>
      rw [constraints] at decoded
      rw [← Option.some.inj decoded]
      rfl
  | some edge =>
      rw [constraints] at decoded
      obtain ⟨edge, _, same⟩ := Option.map_eq_some_iff.mp decoded
      rw [← same]
      rfl

/-- A manifest with the tools as they are read. -/
def decodedManifest (packageName : String) (entries : List ToolManifestEntry)
    : ToolManifest where
  manifestVersion := "0.1.0"
  packageName := packageName
  tools := entries

/-- A manifest is read if its entries are. -/
theorem unmarshalToolManifest_manifestJson (packageName : String)
    (tools : List ToolDefinition)
    : unmarshalToolManifest (manifestJson packageName tools)
      = (tools.mapM decodeTool).map (decodedManifest packageName) := by
  have entries
      : (tools.map entryJson).mapM (GoJson.struct toolManifestEntryFields {})
        = tools.mapM decodeTool :=
    List.mapM_map
  simp [unmarshalToolManifest, manifestJson, GoJson.struct, GoJson.entries, GoJson.fieldOf,
    toolManifestFields, GoJson.field, GoJson.string, GoJson.slice, entries]
  rfl

-----------------------------------------------------------------------------------------
-- Which tools pass
-----------------------------------------------------------------------------------------

/-- What the command line tool asks of a tool beyond what its definition checks. -/
structure Passes (tool : ToolDefinition) : Prop where
  writable : tool.inputSchema.isWritable = true
  converted : tool.inputSchema.isConverted = true
  limits
    : ∀ edge, tool.edge = some edge → IsInt64 edge.maxResultBytes ∧ IsInt64 edge.timeoutMs

theorem schemaFields_eq_nil_iff {tool : ToolDefinition}
    (writable : tool.inputSchema.isWritable = true)
    : schemaFields tool = [] ↔ tool.inputSchema.isConverted = false := by
  obtain ⟨fields, written, empty⟩ := stringify_zodToJsonSchema writable
  have same : schemaFields tool = fields := by rw [schemaFields, written]
  rw [same, empty]

theorem ne_empty_of_not_blank {text : String} (filled : isBlank text = false) : text ≠ "" := by
  intro empty
  rw [empty] at filled
  simp [isBlank] at filled

theorem text_mem_validZones (zone : ToolZone) : zone.text ∈ validZones := by
  cases zone <;> decide

/-- A trust cost that is not below zero is not read as one below zero. -/
theorem costOf_nonneg {cost : Number} (checked : cost.lt (.finite 0) = false)
    : 0 ≤ costOf cost := by
  cases cost with
  | finite value =>
      have notBelow : ¬value < 0 := by simpa [Number.lt] using checked
      exact le_of_not_gt notBelow
  | _ => exact le_refl (0 : Rat)

/-- A limit above zero, or NaN, is read as one above zero exactly when it is an integer of 64
bits: NaN and infinity are written as null, which leaves the zero that is there.
-/
theorem limitOf_pos_iff {limit : Number} (checked : limit.le (.finite 0) = false)
    : (∃ value, limitOf limit = some value ∧ 0 < value) ↔ IsInt64 limit := by
  cases limit with
  | finite value =>
      have bounds : ¬value < 0 ∧ ¬value = 0 := by
        simpa [Number.le, Number.lt] using checked
      have positive : 0 < value :=
        lt_of_le_of_ne (le_of_not_gt bounds.1) (Ne.symm bounds.2)
      simp only [limitOf, Number.toJson, GoJson.int_num_eq_some, IsInt64]
      refine ⟨?_, ?_⟩
      · rintro ⟨result, ⟨integral, fits, same⟩, _⟩
        refine ⟨value.num, ?_, fits⟩
        exact congrArg Number.finite (Rat.eq_num_of_isInt integral)
      · rintro ⟨result, same, fits⟩
        obtain rfl := Number.finite.inj same
        exact ⟨result, ⟨rfl, fits, rfl⟩, by exact_mod_cast positive⟩
  | _ => simp [limitOf, Number.toJson, GoJson.int, IsInt64]

theorem decodedEdge_pos_iff {edge : EdgeToolConstraints}
    (bytes : edge.maxResultBytes.le (.finite 0) = false)
    (timeout : edge.timeoutMs.le (.finite 0) = false)
    : (∃ limits,
        decodedEdge edge = some limits ∧ 0 < limits.maxResultBytes ∧ 0 < limits.timeoutMs)
      ↔ IsInt64 edge.maxResultBytes ∧ IsInt64 edge.timeoutMs := by
  rw [← limitOf_pos_iff bytes, ← limitOf_pos_iff timeout, decodedEdge]
  cases limitOf edge.maxResultBytes <;> cases limitOf edge.timeoutMs <;> simp

theorem decodedEntry_valid_iff {tool : ToolDefinition} (checked : tool.Checked)
    (writable : tool.inputSchema.isWritable = true) (edge : Option EdgeConstraints)
    : (decodedEntry tool edge).Valid
      ↔ tool.inputSchema.isConverted = true
        ∧ ∀ limits, edge = some limits → 0 < limits.maxResultBytes ∧ 0 < limits.timeoutMs := by
  have schema : schemaFields tool ≠ [] ↔ tool.inputSchema.isConverted = true := by
    rw [Ne, schemaFields_eq_nil_iff writable, Bool.not_eq_false]
  refine ⟨fun valid => ⟨schema.mp valid.inputJsonSchema, valid.edge⟩, ?_⟩
  intro ⟨converted, limits⟩
  exact {
    name := ne_empty_of_not_blank checked.name
    description := ne_empty_of_not_blank checked.description
    inputJsonSchema := schema.mpr converted
    zones := fun none => checked.zones (List.map_eq_nil_iff.mp none)
    validZones := by
      intro zone member
      obtain ⟨source, _, rfl⟩ := List.mem_map.mp member
      exact text_mem_validZones source
    defaultTrustCost := costOf_nonneg checked.defaultTrustCost
    edge := limits
  }

/-- The entry of a tool is read and valid exactly when the tool passes. -/
theorem decodeTool_valid_iff {tool : ToolDefinition} (checked : tool.Checked)
    (writable : tool.inputSchema.isWritable = true)
    : (∃ entry, decodeTool tool = some entry ∧ entry.Valid) ↔ Passes tool := by
  have passes
      : Passes tool
        ↔ tool.inputSchema.isConverted = true
          ∧ ∀ edge, tool.edge = some edge
            → IsInt64 edge.maxResultBytes ∧ IsInt64 edge.timeoutMs :=
    ⟨fun passes => ⟨passes.converted, passes.limits⟩,
      fun both => ⟨writable, both.1, both.2⟩⟩
  rw [passes, decodeTool_eq]
  cases constraints : tool.edge with
  | none => simp [decodedEntry_valid_iff checked writable]
  | some edge =>
      obtain ⟨bytes, timeout⟩ := checked.edge edge constraints
      have limits := decodedEdge_pos_iff bytes timeout
      simp only [Option.map_eq_some_iff, Option.some.injEq, forall_eq']
      rw [← limits]
      refine ⟨?_, ?_⟩
      · intro ⟨entry, ⟨decoded, read, same⟩, valid⟩
        rw [← same, decodedEntry_valid_iff checked writable] at valid
        exact ⟨valid.1, decoded, read, valid.2 decoded rfl⟩
      · intro ⟨converted, decoded, read, positive⟩
        refine ⟨_, ⟨decoded, read, rfl⟩, ?_⟩
        rw [decodedEntry_valid_iff checked writable]
        refine ⟨converted, ?_⟩
        intro limits same
        obtain rfl := Option.some.inj same
        exact positive

/-- A manifest that was read has no error exactly when the names of the tools are distinct
and every entry is valid.
-/
theorem decodedManifest_valid_iff (quoted : String → String) {packageName : String}
    (named : isBlank packageName = false) {tools : List ToolDefinition}
    (nonempty : tools ≠ []) {entries : List ToolManifestEntry}
    (read : tools.mapM decodeTool = some entries)
    : validateManifest quoted (decodedManifest packageName entries) = []
      ↔ (tools.map ToolDefinition.name).Nodup ∧ ∀ entry ∈ entries, entry.Valid := by
  have names := GoJson.mapM_keeps decodeTool_name read
  have entriesNonempty : entries ≠ [] := by
    intro none
    rw [none] at names
    exact nonempty (List.map_eq_nil_iff.mp names.symm)
  rw [validateManifest_eq_nil_iff, ← names]
  refine ⟨?_, ?_⟩
  · intro ⟨_, _, _, valid, distinct⟩
    exact ⟨distinct, valid⟩
  · intro ⟨distinct, valid⟩
    exact ⟨rfl, ne_empty_of_not_blank named, entriesNonempty, valid, distinct⟩

/-- A manifest is accepted exactly when it is written and its entries are read, are valid
and have distinct names.
-/
theorem accepts_iff (quoted : String → String) {packageName : String}
    (named : isBlank packageName = false) {tools : List ToolDefinition}
    (nonempty : tools ≠ [])
    : Accepts quoted packageName tools
      ↔ (tools.map ToolDefinition.name).Nodup
        ∧ (∀ tool ∈ tools, tool.inputSchema.isWritable = true)
        ∧ ∃ entries,
          tools.mapM decodeTool = some entries ∧ ∀ entry ∈ entries, entry.Valid := by
  refine ⟨?_, ?_⟩
  · intro ⟨manifest, json, decoded, built, written, read, clean⟩
    rw [buildManifest_eq_ok named] at built
    obtain rfl := Except.ok.inj built
    obtain ⟨writable, rfl⟩ := (manifestToJson_eq_ok_iff packageName tools json).mp written
    rw [unmarshalToolManifest_manifestJson] at read
    obtain ⟨entries, all, rfl⟩ := Option.map_eq_some_iff.mp read
    obtain ⟨distinct, valid⟩ := (decodedManifest_valid_iff quoted named nonempty all).mp clean
    exact ⟨distinct, writable, entries, all, valid⟩
  · intro ⟨distinct, writable, entries, all, valid⟩
    have read : unmarshalToolManifest (manifestJson packageName tools)
        = some (decodedManifest packageName entries) := by
      rw [unmarshalToolManifest_manifestJson, all]
      rfl
    exact ⟨_, _, _, buildManifest_eq_ok named tools,
      (manifestToJson_eq_ok_iff packageName tools _).mpr ⟨writable, rfl⟩, read,
      (decodedManifest_valid_iff quoted named nonempty all).mpr ⟨distinct, valid⟩⟩

/-- The command line tool accepts the manifest of a package exactly when the names of its
tools are distinct and every tool passes.
-/
theorem manifest_accepted_iff (quoted : String → String) (packageName : String)
    (named : isBlank packageName = false) (tools : List ToolDefinition)
    (nonempty : tools ≠ []) (defined : ∀ tool ∈ tools, tool.IsDefined)
    : Accepts quoted packageName tools
      ↔ (tools.map ToolDefinition.name).Nodup ∧ ∀ tool ∈ tools, Passes tool := by
  rw [accepts_iff quoted named nonempty, GoJson.mapM_and_forall_iff]
  refine ⟨?_, ?_⟩
  · intro ⟨distinct, writable, entries⟩
    refine ⟨distinct, ?_⟩
    intro tool member
    have checked := (defined tool member).checked
    exact (decodeTool_valid_iff checked (writable tool member)).mp (entries tool member)
  · intro ⟨distinct, passes⟩
    have writable := fun tool member => (passes tool member).writable
    refine ⟨distinct, writable, ?_⟩
    intro tool member
    have checked := (defined tool member).checked
    exact (decodeTool_valid_iff checked (writable tool member)).mpr (passes tool member)

def lookupOptions : DefineToolOptions where
  name := "lookup"
  description := "Look something up"
  inputSchema := .object [("query", .string)]

/-- A tool with the defaults for what its options leave out. -/
def lookupTool : ToolDefinition where
  name := "lookup"
  description := "Look something up"
  inputSchema := .object [("query", .string)]
  zones := [.sphere]
  defaultTrustCost := .finite 1

theorem lookupTool_isDefined : lookupTool.IsDefined := by
  refine .inl ⟨lookupOptions, ?_⟩
  have name : isBlank "lookup" = false := by decide
  have description : isBlank "Look something up" = false := by decide
  simp [defineTool, lookupOptions, lookupTool, name, description, Number.lt]

theorem lookupTool_passes : Passes lookupTool where
  writable := by decide +kernel
  converted := by decide +kernel
  limits edge constraints := by simp [lookupTool] at constraints

def clipOptions : DefineEdgeToolOptions where
  name := "clip"
  description := "Read the clipboard"
  inputSchema := .object []
  timeoutMs := some (.finite 250)

/-- An edge tool with a timeout of its own. -/
def clipTool : ToolDefinition where
  name := "clip"
  description := "Read the clipboard"
  inputSchema := .object []
  zones := [.satellite]
  defaultTrustCost := .finite 1
  edge := some {
    maxResultBytes := .finite 1048576
    timeoutMs := .finite 250
    allowNetwork := false
  }

theorem clipTool_isDefined : clipTool.IsDefined := by
  refine .inr ⟨clipOptions, ?_⟩
  have name : isBlank "clip" = false := by decide
  have description : isBlank "Read the clipboard" = false := by decide
  have bytes : (Number.finite 1048576).le (.finite 0) = false := by decide +kernel
  have timeout : (Number.finite 250).le (.finite 0) = false := by decide +kernel
  simp [defineEdgeTool, clipOptions, clipTool, name, description, Number.lt, bytes, timeout,
    defaultMaxResultBytes, defaultAllowNetwork]

theorem clipTool_passes : Passes clipTool where
  writable := by decide +kernel
  converted := by decide +kernel
  limits edge constraints := by
    obtain rfl := Option.some.inj constraints
    exact ⟨⟨1048576, rfl, by decide +kernel⟩, ⟨250, rfl, by decide +kernel⟩⟩

/-- Two tools with different names, one of them at the edge, are accepted. -/
theorem manifest_accepted_iff_example
    : Accepts (fun text => text) "demo" [lookupTool, clipTool] := by
  have defined : ∀ tool ∈ [lookupTool, clipTool], tool.IsDefined := by
    intro tool member
    rcases List.mem_pair.mp member with rfl | rfl
    · exact lookupTool_isDefined
    · exact clipTool_isDefined
  have accepted :=
    manifest_accepted_iff (fun text => text) "demo" (by decide) [lookupTool, clipTool]
      (List.cons_ne_nil _ _) defined
  refine accepted.mpr ⟨by decide, ?_⟩
  intro tool member
  rcases List.mem_pair.mp member with rfl | rfl
  · exact lookupTool_passes
  · exact clipTool_passes

/-- The same tool twice: the manifest is built, and has an error. -/
theorem sameName_notAccepted
    : isBlank "demo" = false
      ∧ lookupTool.IsDefined
      ∧ ∀ quoted, ¬Accepts quoted "demo" [lookupTool, lookupTool] := by
  have named : isBlank "demo" = false := by decide
  refine ⟨named, lookupTool_isDefined, ?_⟩
  intro quoted accepted
  have distinct := ((accepts_iff quoted named (List.cons_ne_nil _ _)).mp accepted).1
  simp at distinct

end Intellisphere.Cli
