import Intellisphere.Foundation.GoJson

/-! How the command line tool reads a manifest file and what it checks in it. Quoting with
`%q` is a parameter, which only the texts of the errors depend on.
-/

namespace Intellisphere.Cli

open Intellisphere.Foundation

structure EdgeConstraints where
  maxResultBytes : Int := 0
  timeoutMs : Int := 0
  allowNetwork : Bool := false

structure ToolManifestEntry where
  name : String := ""
  description : String := ""
  inputJsonSchema : List (String × Json) := []
  zones : List String := []
  defaultTrustCost : Rat := 0
  edge : Option EdgeConstraints := none

structure ToolManifest where
  manifestVersion : String := ""
  packageName : String := ""
  tools : List ToolManifestEntry := []

-----------------------------------------------------------------------------------------
-- Decoding
-----------------------------------------------------------------------------------------

def edgeConstraintsFields : List (GoJson.Field EdgeConstraints) :=
  [
    GoJson.field "maxResultBytes" (·.maxResultBytes)
      (fun edge maxResultBytes => { edge with maxResultBytes }) GoJson.int,
    GoJson.field "timeoutMs" (·.timeoutMs)
      (fun edge timeoutMs => { edge with timeoutMs }) GoJson.int,
    GoJson.field "allowNetwork" (·.allowNetwork)
      (fun edge allowNetwork => { edge with allowNetwork }) GoJson.bool
  ]

def toolManifestEntryFields : List (GoJson.Field ToolManifestEntry) :=
  [
    GoJson.field "name" (·.name) (fun entry name => { entry with name }) GoJson.string,
    GoJson.field "description" (·.description)
      (fun entry description => { entry with description }) GoJson.string,
    GoJson.field "inputJsonSchema" (·.inputJsonSchema)
      (fun entry inputJsonSchema => { entry with inputJsonSchema }) GoJson.map,
    GoJson.field "zones" (·.zones) (fun entry zones => { entry with zones })
      (GoJson.slice "" GoJson.string),
    GoJson.field "defaultTrustCost" (·.defaultTrustCost)
      (fun entry defaultTrustCost => { entry with defaultTrustCost }) GoJson.float64,
    GoJson.field "edge" (·.edge) (fun entry edge => { entry with edge })
      (GoJson.pointer {} (GoJson.struct edgeConstraintsFields))
  ]

def toolManifestFields : List (GoJson.Field ToolManifest) :=
  [
    GoJson.field "manifestVersion" (·.manifestVersion)
      (fun manifest manifestVersion => { manifest with manifestVersion }) GoJson.string,
    GoJson.field "packageName" (·.packageName)
      (fun manifest packageName => { manifest with packageName }) GoJson.string,
    GoJson.field "tools" (·.tools) (fun manifest tools => { manifest with tools })
      (GoJson.slice {} (GoJson.struct toolManifestEntryFields))
  ]

/-- Decode the contents of a manifest file. -/
def unmarshalToolManifest (json : Json) : Option ToolManifest :=
  GoJson.struct toolManifestFields {} json

-----------------------------------------------------------------------------------------
-- Validation
-----------------------------------------------------------------------------------------

def validZones : List String :=
  ["sphere", "satellite", "wasm"]

/-- The errors of one tool, given the names of the tools before it. -/
def validateTool (quoted : String → String) (index : Nat) (seen : List String)
    (tool : ToolManifestEntry) : List String :=
  let label := "tools[" ++ toString index ++ "]"
  let named := label ++ " (" ++ tool.name ++ ")"
  (if tool.name = "" then [label ++ ": missing name"]
    else if tool.name ∈ seen then [label ++ ": duplicate tool name " ++ quoted tool.name]
    else [])
  ++ (if tool.description = "" then [named ++ ": missing description"] else [])
  ++ (if tool.inputJsonSchema.length = 0 then [named ++ ": missing or empty inputJsonSchema"]
    else [])
  ++ (if tool.zones.length = 0 then [named ++ ": must have at least one zone"] else [])
  ++ (tool.zones.filter (· ∉ validZones)).map
    (fun zone => named ++ ": invalid zone " ++ quoted zone)
  ++ (if tool.defaultTrustCost < 0 then [named ++ ": defaultTrustCost must be >= 0"] else [])
  ++ match tool.edge with
    | none => []
    | some edge =>
        (if edge.maxResultBytes ≤ 0 then [named ++ ": edge.maxResultBytes must be > 0"]
          else [])
        ++ (if edge.timeoutMs ≤ 0 then [named ++ ": edge.timeoutMs must be > 0"] else [])

def validateTools (quoted : String → String) (index : Nat) (seen : List String)
    : List ToolManifestEntry → List String
  | [] => []
  | tool :: rest =>
      validateTool quoted index seen tool
      ++ validateTools quoted (index + 1) (tool.name :: seen) rest

def validateManifest (quoted : String → String) (manifest : ToolManifest) : List String :=
  (if manifest.manifestVersion = "" then ["missing manifestVersion"]
    else if manifest.manifestVersion ≠ "0.1.0" then
      [
        "unsupported manifestVersion: " ++ quoted manifest.manifestVersion
          ++ " (expected \"0.1.0\")"
      ]
    else [])
  ++ (if manifest.packageName = "" then ["missing packageName"] else [])
  ++ (if manifest.tools.length = 0 then ["manifest must contain at least one tool"] else [])
  ++ validateTools quoted 0 [] manifest.tools

/-- A tool entry without errors of its own. -/
structure ToolManifestEntry.Valid (tool : ToolManifestEntry) : Prop where
  name : tool.name ≠ ""
  description : tool.description ≠ ""
  inputJsonSchema : tool.inputJsonSchema ≠ []
  zones : tool.zones ≠ []
  validZones : ∀ zone ∈ tool.zones, zone ∈ validZones
  defaultTrustCost : 0 ≤ tool.defaultTrustCost
  edge : ∀ edge, tool.edge = some edge → 0 < edge.maxResultBytes ∧ 0 < edge.timeoutMs

theorem if_singleton_eq_nil {T : Type} {condition : Prop} [Decidable condition] {item : T}
    : (if condition then [item] else []) = [] ↔ ¬condition := by
  split <;> simp [*]

/-- A tool has no error exactly when it is valid and its name is new. -/
theorem validateTool_eq_nil_iff (quoted : String → String) (index : Nat)
    (seen : List String) (tool : ToolManifestEntry)
    : validateTool quoted index seen tool = [] ↔ tool.Valid ∧ tool.name ∉ seen := by
  have naming (missing duplicate : String)
      : (if tool.name = "" then [missing] else if tool.name ∈ seen then [duplicate] else [])
          = []
        ↔ tool.name ≠ "" ∧ tool.name ∉ seen := by
    by_cases missing : tool.name = "" <;> simp [missing]
  have limits (bytes timeout : String)
      : (match tool.edge with
          | none => []
          | some edge =>
              (if edge.maxResultBytes ≤ 0 then [bytes] else [])
              ++ (if edge.timeoutMs ≤ 0 then [timeout] else []))
          = []
        ↔ ∀ edge, tool.edge = some edge → 0 < edge.maxResultBytes ∧ 0 < edge.timeoutMs := by
    cases tool.edge <;> simp
  unfold validateTool
  simp only [List.append_eq_nil_iff, naming, limits, if_singleton_eq_nil, List.map_eq_nil_iff,
    List.filter_eq_nil_iff, decide_not, Bool.not_eq_true', decide_eq_false_iff_not, not_not,
    List.length_eq_zero_iff, Rat.not_lt]
  refine ⟨?_, ?_⟩
  · intro ⟨⟨⟨⟨⟨⟨⟨name, fresh⟩, description⟩, schema⟩, zones⟩, validZones⟩, cost⟩, edge⟩
    exact ⟨⟨name, description, schema, zones, validZones, cost, edge⟩, fresh⟩
  · intro ⟨valid, fresh⟩
    exact ⟨⟨⟨⟨⟨⟨⟨valid.name, fresh⟩, valid.description⟩, valid.inputJsonSchema⟩, valid.zones⟩,
      valid.validZones⟩, valid.defaultTrustCost⟩, valid.edge⟩

/-- Some tools have no error exactly when each is valid and the names are distinct and new,
by induction on the tools.
-/
theorem validateTools_eq_nil_iff (quoted : String → String) (index : Nat)
    (seen : List String) (tools : List ToolManifestEntry)
    : validateTools quoted index seen tools = []
      ↔ (∀ tool ∈ tools, tool.Valid)
        ∧ (tools.map ToolManifestEntry.name).Nodup
        ∧ ∀ tool ∈ tools, tool.name ∉ seen := by
  induction tools generalizing index seen with
  | nil => simp [validateTools]
  | cons tool rest ih =>
      rw [validateTools, List.append_eq_nil_iff, validateTool_eq_nil_iff, ih]
      rw [List.forall_mem_cons, List.forall_mem_cons, List.map_cons, List.nodup_cons]
      simp only [List.mem_map, List.mem_cons, not_or, not_exists, not_and]
      refine ⟨?_, ?_⟩
      · intro ⟨⟨valid, fresh⟩, allValid, distinct, others⟩
        exact ⟨⟨valid, allValid⟩, ⟨fun other member => (others other member).1, distinct⟩,
          fresh, fun other member => (others other member).2⟩
      · intro ⟨⟨valid, allValid⟩, ⟨differ, distinct⟩, fresh, others⟩
        exact ⟨⟨valid, fresh⟩, allValid, distinct,
          fun other member => ⟨differ other member, others other member⟩⟩

/-- A manifest has no error exactly when it has the one version, a package name and tools,
the tools are valid and their names are distinct.
-/
theorem validateManifest_eq_nil_iff (quoted : String → String) (manifest : ToolManifest)
    : validateManifest quoted manifest = []
      ↔ manifest.manifestVersion = "0.1.0"
        ∧ manifest.packageName ≠ ""
        ∧ manifest.tools ≠ []
        ∧ (∀ tool ∈ manifest.tools, tool.Valid)
        ∧ (manifest.tools.map ToolManifestEntry.name).Nodup := by
  have versions (missing unsupported : String)
      : (if manifest.manifestVersion = "" then [missing]
          else if manifest.manifestVersion ≠ "0.1.0" then [unsupported] else [])
          = []
        ↔ manifest.manifestVersion = "0.1.0" := by
    by_cases missing : manifest.manifestVersion = "" <;>
      by_cases current : manifest.manifestVersion = "0.1.0" <;> simp_all
  unfold validateManifest
  simp only [List.append_eq_nil_iff, versions, if_singleton_eq_nil, List.length_eq_zero_iff,
    validateTools_eq_nil_iff, List.not_mem_nil, not_false_eq_true, implies_true, and_true,
    and_assoc, ne_eq]

end Intellisphere.Cli
