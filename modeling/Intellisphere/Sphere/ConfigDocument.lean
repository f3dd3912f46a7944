import Intellisphere.Foundation.Document
import Intellisphere.Sphere.Config

/-! Reading the configuration from a document. Every section has two defaults: the value it
has when it is left out, and the value its fields give it when it is empty. They agree for
all sections but two.
-/

namespace Intellisphere.Sphere

open Intellisphere.Foundation Intellisphere.Foundation.Document

def asU32 (document : Document) : Option UInt32 :=
  (asUnsigned UInt32.size document).map UInt32.ofNat

def asU64 (document : Document) : Option UInt64 :=
  (asUnsigned UInt64.size document).map UInt64.ofNat

/-- A `usize` of 64 bits. -/
def asUsize : Document → Option Nat :=
  asUnsigned UInt64.size

def readApiKeyEntry (entries : Entries) : Option ApiKeyEntry := do
  let key ← field asString none "key" entries
  let identitySub ← field asString none "identity_sub" entries
  let roles ← field (asList asString) (some []) "roles" entries
  let scopes ← field (asList asString) (some []) "scopes" entries
  return { key, identitySub, roles, scopes }

def asApiKeyEntry : Document → Option ApiKeyEntry :=
  asSection ["key", "identity_sub", "roles", "scopes"] 2 readApiKeyEntry

/-- The `type` entry tells the strategy. -/
def readAuthStrategyConfig (entries : Entries) : Option AuthStrategyConfig := do
  match ← field asString none "type" entries with
  | "jwt" =>
      let secret ← field asString none "secret" entries
      let issuer ← field (asOption asString) (some none) "issuer" entries
      let audience ← field (asOption asString) (some none) "audience" entries
      return .jwt secret issuer audience
  | "api_key" =>
      let keys ← field (asList asApiKeyEntry) none "keys" entries
      return .apiKey keys
  | _ => none

def asAuthStrategyConfig : Document → Option AuthStrategyConfig :=
  asVariant "type"
    (fun variant =>
      match variant with
      | "jwt" => some ["secret", "issuer", "audience"]
      | "api_key" => some ["keys"]
      | _ => none)
    readAuthStrategyConfig

def readAuthConfig (entries : Entries) : Option AuthConfig := do
  let enabled ← field asBool (some false) "enabled" entries
  let strategies ←
    field (asList asAuthStrategyConfig) (some []) "strategies" entries
  return { enabled, strategies }

def asAuthConfig : Document → Option AuthConfig :=
  asSection ["enabled", "strategies"] 0 readAuthConfig

def readRateLimitRule (entries : Entries) : Option RateLimitRule := do
  let requestsPerMinute ← field asU32 (some defaultRpm) "requests_per_minute" entries
  let burst ← field asU32 (some defaultBurst) "burst" entries
  return { requestsPerMinute, burst }

def asRateLimitRule : Document → Option RateLimitRule :=
  asSection ["requests_per_minute", "burst"] 0 readRateLimitRule

/-- The per-tool rules, keyed by tool name. -/
def readPerTool (entries : Entries) : Option (HashMap RateLimitRule) :=
  entries.foldlM
    (fun rules entry => do
      let rule ← asRateLimitRule entry.2
      return rules.insert entry.1 rule)
    ∅

def readRateLimitConfig (entries : Entries) : Option RateLimitConfig := do
  let enabled ← field asBool (some false) "enabled" entries
  let global ←
    field asRateLimitRule (some defaultGlobalRateLimit) "global" entries
  let perIdentity ←
    field asRateLimitRule (some defaultPerIdentityRateLimit) "per_identity"
      entries
  let perTool ← field (asMap readPerTool) (some ∅) "per_tool" entries
  return { enabled, global, perIdentity, perTool }

def asRateLimitConfig : Document → Option RateLimitConfig :=
  asSection ["enabled", "global", "per_identity", "per_tool"] 0 readRateLimitConfig

def readInputSanitizationConfig (entries : Entries) : Option InputSanitizationConfig := do
  let enabled ← field asBool (some true) "enabled" entries
  let stripControlChars ← field asBool (some true) "strip_control_chars" entries
  let normalizeUnicode ← field asBool (some true) "normalize_unicode" entries
  let rejectNullBytes ← field asBool (some true) "reject_null_bytes" entries
  return { enabled, stripControlChars, normalizeUnicode, rejectNullBytes }

def asInputSanitizationConfig : Document → Option InputSanitizationConfig :=
  asSection
    [
      "enabled",
      "strip_control_chars",
      "normalize_unicode",
      "reject_null_bytes"
    ]
    0 readInputSanitizationConfig

def readInboundConfig (entries : Entries) : Option InboundConfig := do
  let inputSanitization ←
    field asInputSanitizationConfig (some {}) "input_sanitization" entries
  return { inputSanitization }

def asInboundConfig : Document → Option InboundConfig :=
  asSection ["input_sanitization"] 0 readInboundConfig

def readOutboundFilterToggle (entries : Entries) : Option OutboundFilterToggle := do
  let enabled ← field asBool (some false) "enabled" entries
  return { enabled }

def asOutboundFilterToggle : Document → Option OutboundFilterToggle :=
  asSection ["enabled"] 0 readOutboundFilterToggle

def readResultSizeConfig (entries : Entries) : Option ResultSizeConfig := do
  let enabled ← field asBool (some false) "enabled" entries
  let maxChars ← field asUsize (some defaultMaxResponseChars) "max_chars" entries
  return { enabled, maxChars }

def asResultSizeConfig : Document → Option ResultSizeConfig :=
  asSection ["enabled", "max_chars"] 0 readResultSizeConfig

def readOutboundConfig (entries : Entries) : Option OutboundConfig := do
  let toggle := field asOutboundFilterToggle (some {})
  let piiLeakDetection ← toggle "pii_leak_detection" entries
  let injectionEcho ← toggle "injection_echo" entries
  let resultSize ← field asResultSizeConfig (some {}) "result_size" entries
  let responseClassifier ← toggle "response_classifier" entries
  let hallucinationFlag ← toggle "hallucination_flag" entries
  return {
    piiLeakDetection
    injectionEcho
    resultSize
    responseClassifier
    hallucinationFlag
  }

def asOutboundConfig : Document → Option OutboundConfig :=
  asSection
    [
      "pii_leak_detection",
      "injection_echo",
      "result_size",
      "response_classifier",
      "hallucination_flag"
    ]
    0 readOutboundConfig

def readPipelineConfig (entries : Entries) : Option PipelineConfig := do
  let inbound ← field asInboundConfig (some {}) "inbound" entries
  let outbound ← field asOutboundConfig (some {}) "outbound" entries
  return { inbound, outbound }

def asPipelineConfig : Document → Option PipelineConfig :=
  asSection ["inbound", "outbound"] 0 readPipelineConfig

def defaultMaxToolIterations : Nat :=
  10

def readToolsConfig (entries : Entries) : Option ToolsConfig := do
  let manifestDir ← field (asOption asString) (some none) "manifest_dir" entries
  let maxToolIterations ←
    field asUsize (some defaultMaxToolIterations) "max_tool_iterations" entries
  return { manifestDir, maxToolIterations }

def asToolsConfig : Document → Option ToolsConfig :=
  asSection ["manifest_dir", "max_tool_iterations"] 1 readToolsConfig

def readPolicyScope (entries : Entries) : Option PolicyScope := do
  match ← field asString none "type" entries with
  | "session" => return .session
  | "identity" => return .identity
  | "tool" => return .tool (← field asString none "name" entries)
  | "global" => return .global
  | _ => none

def asPolicyScope : Document → Option PolicyScope :=
  asVariant "type" (fun variant => some (if variant = "tool" then ["name"] else []))
    readPolicyScope

def readPolicyRule (entries : Entries) : Option PolicyRule := do
  match ← field asString none "type" entries with
  | "max_tool_calls_per_session" =>
      return .maxToolCallsPerSession (← field asU32 none "limit" entries)
  | "max_tokens_per_identity_per_hour" =>
      return .maxTokensPerIdentityPerHour (← field asU64 none "limit" entries)
  | "require_mfa" => return .requireMfa
  | "require_roles" => return .requireRoles (← field (asList asString) none "roles" entries)
  | "max_result_size" => return .maxResultSize (← field asUsize none "limit" entries)
  | _ => none

def asPolicyRule : Document → Option PolicyRule :=
  asVariant "type"
    (fun variant =>
      match variant with
      | "require_mfa" => some []
      | "require_roles" => some ["roles"]
      | _ => some ["limit"])
    readPolicyRule

def asPolicyAction (document : Document) : Option PolicyAction := do
  match ← asString document with
  | "terminate_session" => return .terminateSession
  | "throttle" => return .throttle
  | "block" => return .block
  | "flag" => return .flag
  | "log" => return .log
  | _ => none

def readPolicyConfig (entries : Entries) : Option PolicyConfig := do
  let name ← field asString none "name" entries
  let scope ← field asPolicyScope none "scope" entries
  let rules ← field (asList asPolicyRule) none "rules" entries
  let action ← field asPolicyAction none "action" entries
  return { name, scope, rules, action }

def asPolicyConfig : Document → Option PolicyConfig :=
  asSection ["name", "scope", "rules", "action"] 4 readPolicyConfig

def defaultListenAddr : String :=
  "0.0.0.0:8080"

def defaultCoreGrpcUrl : String :=
  "http://core:50051"

/-- The sections that are left out get the default of their type. -/
def readSphereConfig (entries : Entries) : Option SphereConfig := do
  let listenAddr ← field asString (some defaultListenAddr) "listen_addr" entries
  let coreGrpcUrl ← field asString (some defaultCoreGrpcUrl) "core_grpc_url" entries
  let pipeline ← field asPipelineConfig (some {}) "pipeline" entries
  let tools ← field asToolsConfig (some {}) "tools" entries
  let auth ← field asAuthConfig (some {}) "auth" entries
  let rateLimit ← field asRateLimitConfig (some {}) "rate_limit" entries
  let policies ← field (asList asPolicyConfig) (some []) "policies" entries
  return { listenAddr, coreGrpcUrl, pipeline, tools, auth, rateLimit, policies }

/-- Read the configuration from a document, unless the document is rejected. -/
def SphereConfig.deserialize : Document → Option SphereConfig :=
  asSection
    [
      "listen_addr",
      "core_grpc_url",
      "pipeline",
      "tools",
      "auth",
      "rate_limit",
      "policies"
    ]
    0 readSphereConfig

-----------------------------------------------------------------------------------------
-- Sections that may be left out
-----------------------------------------------------------------------------------------

theorem inputSanitization_optional
    : OptionalSection asInputSanitizationConfig {} [[]] :=
  .leaf rfl

theorem outboundFilterToggle_optional
    : OptionalSection asOutboundFilterToggle {} [[]] :=
  .leaf rfl

theorem resultSize_optional : OptionalSection asResultSizeConfig {} [[]] :=
  .leaf rfl

theorem auth_optional : OptionalSection asAuthConfig {} [[]] :=
  .leaf rfl

theorem perIdentity_optional
    : OptionalSection asRateLimitRule defaultPerIdentityRateLimit [[]] :=
  .leaf rfl

theorem perTool_optional : OptionalSection (asMap readPerTool) ∅ [[]] :=
  .leaf rfl

theorem inbound_optional
    : OptionalSection asInboundConfig {} [[], ["input_sanitization"]] := by
  refine .ofEntries rfl (fun key path member entries absent => ?_)
  obtain ⟨rfl, rfl⟩ : key = "input_sanitization" ∧ path = [] := by simpa using member
  simp only [readInboundConfig,
    inputSanitization_optional.field_addEmpty List.mem_cons_self absent]

def outboundSections : List String :=
  [
    "pii_leak_detection",
    "injection_echo",
    "result_size",
    "response_classifier",
    "hallucination_flag"
  ]

/-- The outbound section and the sections inside. -/
def outboundPaths : List (List String) :=
  [] :: outboundSections.map ([·])

theorem outbound_optional
    : OptionalSection asOutboundConfig {} outboundPaths := by
  refine .ofEntries rfl (fun key path member entries absent => ?_)
  obtain ⟨inside, rfl⟩ : key ∈ outboundSections ∧ path = [] := by
    simpa [outboundPaths] using member
  have toggled
      : field asOutboundFilterToggle (some {}) key (addEmpty key [] entries)
        = field asOutboundFilterToggle (some {}) key entries :=
    outboundFilterToggle_optional.field_addEmpty List.mem_cons_self absent
  have sized
      : field asResultSizeConfig (some {}) key (addEmpty key [] entries)
        = field asResultSizeConfig (some {}) key entries :=
    resultSize_optional.field_addEmpty List.mem_cons_self absent
  simp only [outboundSections, List.mem_cons, List.not_mem_nil, or_false] at inside
  rcases inside with rfl | rfl | rfl | rfl | rfl <;>
    simp [readOutboundConfig, toggled, sized, field_addEmpty_other]

/-- The pipeline section and the sections inside. -/
def pipelinePaths : List (List String) :=
  []
  :: [[], ["input_sanitization"]].map ("inbound" :: ·)
  ++ outboundPaths.map ("outbound" :: ·)

theorem pipeline_optional
    : OptionalSection asPipelineConfig {} pipelinePaths := by
  refine .ofEntries rfl (fun key path member entries absent => ?_)
  simp only [pipelinePaths, List.cons_append, List.mem_cons, List.mem_append, List.mem_map,
    reduceCtorEq, false_or, List.cons.injEq] at member
  rcases member with ⟨inner, inside, rfl, rfl⟩ | ⟨inner, inside, rfl, rfl⟩
  · have same := inbound_optional.field_addEmpty (by simpa using inside) absent
    simp [readPipelineConfig, field_addEmpty_other, same]
  · have same := outbound_optional.field_addEmpty inside absent
    simp [readPipelineConfig, field_addEmpty_other, same]

/-- The section of the rate limits and the sections inside but for the global rule. -/
def rateLimitPaths : List (List String) :=
  [[], ["per_identity"], ["per_tool"]]

theorem rateLimit_optional
    : OptionalSection asRateLimitConfig {} rateLimitPaths := by
  refine .ofEntries rfl (fun key path member entries absent => ?_)
  obtain ⟨inside, rfl⟩ : (key = "per_identity" ∨ key = "per_tool") ∧ path = [] := by
    simpa [rateLimitPaths, or_and_right] using member
  rcases inside with rfl | rfl
  · have same := perIdentity_optional.field_addEmpty List.mem_cons_self absent
    simp [readRateLimitConfig, field_addEmpty_other, same]
  · have same := perTool_optional.field_addEmpty List.mem_cons_self absent
    simp [readRateLimitConfig, field_addEmpty_other, same]

/-- The keys of the configuration and of its sections whose values are mappings. -/
inductive SectionKey where
  | pipeline
  | inbound
  | inputSanitization
  | outbound
  | piiLeakDetection
  | injectionEcho
  | resultSize
  | responseClassifier
  | hallucinationFlag
  | tools
  | auth
  | rateLimit
  | global
  | perIdentity
  | perTool
  deriving DecidableEq

/-- Where the section stands in a document. -/
def SectionKey.path : SectionKey → List String
  | .pipeline => ["pipeline"]
  | .inbound => ["pipeline", "inbound"]
  | .inputSanitization => ["pipeline", "inbound", "input_sanitization"]
  | .outbound => ["pipeline", "outbound"]
  | .piiLeakDetection => ["pipeline", "outbound", "pii_leak_detection"]
  | .injectionEcho => ["pipeline", "outbound", "injection_echo"]
  | .resultSize => ["pipeline", "outbound", "result_size"]
  | .responseClassifier => ["pipeline", "outbound", "response_classifier"]
  | .hallucinationFlag => ["pipeline", "outbound", "hallucination_flag"]
  | .tools => ["tools"]
  | .auth => ["auth"]
  | .rateLimit => ["rate_limit"]
  | .global => ["rate_limit", "global"]
  | .perIdentity => ["rate_limit", "per_identity"]
  | .perTool => ["rate_limit", "per_tool"]

/-- The sections whose two defaults agree. -/
def optionalPaths : List (List String) :=
  pipelinePaths.map ("pipeline" :: ·) ++ [["auth"]] ++ rateLimitPaths.map ("rate_limit" :: ·)

/-- Adding one of these sections empty makes no difference. -/
theorem deserialize_withEmpty_of_optional {document : Document} {path : List String}
    (member : path ∈ optionalPaths) (absent : document.lacks path = true)
    : SphereConfig.deserialize (document.withEmpty path)
      = SphereConfig.deserialize document := by
  simp only [optionalPaths, List.mem_append, List.mem_map, List.mem_singleton] at member
  cases document with
  | mapping entries =>
      rcases member with (⟨inner, inside, rfl⟩ | rfl) | ⟨inner, inside, rfl⟩
      · have same := pipeline_optional.field_addEmpty inside absent
        simp [withEmpty_mapping, SphereConfig.deserialize, asSection, readSphereConfig,
          field_addEmpty_other, same]
      · have same := auth_optional.field_addEmpty List.mem_cons_self absent
        simp [withEmpty_mapping, SphereConfig.deserialize, asSection, readSphereConfig,
          field_addEmpty_other, same]
      · have same := rateLimit_optional.field_addEmpty inside absent
        simp [withEmpty_mapping, SphereConfig.deserialize, asSection, readSphereConfig,
          field_addEmpty_other, same]
  | _ => rcases member with (⟨_, _, rfl⟩ | rfl) | ⟨_, _, rfl⟩ <;> simp [lacks] at absent

-----------------------------------------------------------------------------------------
-- The two sections whose defaults differ
-----------------------------------------------------------------------------------------

/-- With an empty tools section ten iterations are allowed. -/
theorem readSphereConfig_addEmpty_tools {entries : Entries}
    (absent : (mapping entries).lacks ["tools"] = true)
    : readSphereConfig (addEmpty "tools" [] entries)
      = (readSphereConfig entries).map
          (fun config =>
            { config with tools := { maxToolIterations := defaultMaxToolIterations } }) := by
  have empty
      : asToolsConfig (mapping [])
        = some { maxToolIterations := defaultMaxToolIterations } :=
    rfl
  simp only [readSphereConfig, ne_eq, String.reduceEq, not_false_eq_true,
    field_addEmpty_other, field_addEmpty_of_lacks absent, empty, field_of_lacks absent,
    Option.pure_def, Option.bind_eq_bind, Option.bind_some, Option.map_bind,
    Function.comp_def, Option.map_some]

/-- Without a tools section none are. -/
theorem readSphereConfig_tools {entries : Entries} {config : SphereConfig}
    (absent : (mapping entries).lacks ["tools"] = true)
    (accepted : readSphereConfig entries = some config)
    : config.tools = {} := by
  simp only [readSphereConfig, field_of_lacks absent, Option.bind_eq_bind,
    Option.bind_eq_some_iff, Option.bind_some] at accepted
  obtain ⟨_, _, _, _, _, _, _, _, _, _, _, _, same⟩ := accepted
  obtain rfl := Option.some.inj same
  rfl

/-- An empty global rule has the per-field defaults. -/
theorem readRateLimitConfig_addEmpty_global {entries : Entries}
    (absent : (mapping entries).lacks ["global"] = true)
    : readRateLimitConfig (addEmpty "global" [] entries)
      = (readRateLimitConfig entries).map (fun config => { config with global := {} }) := by
  have empty : asRateLimitRule (mapping []) = some {} := rfl
  simp only [readRateLimitConfig, ne_eq, String.reduceEq, not_false_eq_true,
    field_addEmpty_other, field_addEmpty_of_lacks absent, empty, field_of_lacks absent,
    Option.pure_def, Option.bind_eq_bind, Option.bind_some, Option.map_bind,
    Function.comp_def, Option.map_some]

/-- A missing one has the defaults of the section. -/
theorem readRateLimitConfig_global {entries : Entries} {config : RateLimitConfig}
    (absent : (mapping entries).lacks ["global"] = true)
    (accepted : readRateLimitConfig entries = some config)
    : config.global = defaultGlobalRateLimit := by
  simp only [readRateLimitConfig, field_of_lacks absent, Option.bind_eq_bind,
    Option.bind_eq_some_iff, Option.bind_some] at accepted
  obtain ⟨_, _, _, _, _, _, same⟩ := accepted
  obtain rfl := Option.some.inj same
  rfl

/-- The rate limits of a document. -/
def rateLimitField : Entries → Option RateLimitConfig :=
  field asRateLimitConfig (some {}) "rate_limit"

/-- The same where the section of rate limits may itself be missing. -/
theorem rateLimitField_addEmpty_global {entries : Entries}
    (absent : (mapping entries).lacks ["rate_limit", "global"] = true)
    : rateLimitField (addEmpty "rate_limit" ["global"] entries)
      = (rateLimitField entries).map (fun config => { config with global := {} }) := by
  rw [lacks] at absent
  rw [rateLimitField, field, field, addEmpty, lookup_put_self]
  cases found : entries.lookup "rate_limit" with
  | none => rfl
  | some inner =>
      rw [found] at absent
      cases inner with
      | mapping inside => exact readRateLimitConfig_addEmpty_global absent
      | _ => simp [lacks] at absent

theorem rateLimitField_global {entries : Entries} {config : RateLimitConfig}
    (absent : (mapping entries).lacks ["rate_limit", "global"] = true)
    (accepted : rateLimitField entries = some config)
    : config.global = defaultGlobalRateLimit := by
  rw [lacks] at absent
  rw [rateLimitField, field] at accepted
  cases found : entries.lookup "rate_limit" with
  | none =>
      rw [found] at accepted
      obtain rfl := Option.some.inj accepted
      rfl
  | some inner =>
      rw [found] at absent accepted
      cases inner with
      | mapping inside => exact readRateLimitConfig_global absent accepted
      | _ => simp [lacks] at absent

theorem readSphereConfig_addEmpty_global {entries : Entries}
    (absent : (mapping entries).lacks ["rate_limit", "global"] = true)
    : readSphereConfig (addEmpty "rate_limit" ["global"] entries)
      = (readSphereConfig entries).map
          (fun config =>
            { config with rateLimit := { config.rateLimit with global := {} } }) := by
  have added := rateLimitField_addEmpty_global absent
  rw [rateLimitField] at added
  simp only [readSphereConfig, ne_eq, String.reduceEq, not_false_eq_true,
    field_addEmpty_other, added, Option.pure_def, Option.bind_eq_bind, Option.bind_map,
    Option.map_bind, Function.comp_def, Option.map_some]

theorem readSphereConfig_global {entries : Entries} {config : SphereConfig}
    (absent : (mapping entries).lacks ["rate_limit", "global"] = true)
    (accepted : readSphereConfig entries = some config)
    : config.rateLimit.global = defaultGlobalRateLimit := by
  simp only [readSphereConfig, Option.bind_eq_bind, Option.bind_eq_some_iff] at accepted
  obtain ⟨_, _, _, _, _, _, _, _, _, _, rateLimit, limited, _, _, same⟩ := accepted
  obtain rfl := Option.some.inj same
  exact rateLimitField_global absent limited

/-- A change that no accepted configuration survives shows, except on a rejected document. -/
theorem map_eq_self_iff {α : Type} {read : Option α} {change : α → α}
    (changes : ∀ value, read = some value → change value ≠ value)
    : read.map change = read ↔ read = none := by
  cases read with
  | none => simp
  | some value => simpa using changes value rfl

/-- Adding an empty section where it was missing leaves the configuration as it is, unless
it is the tools section or the global rate limit of an accepted document.
-/
theorem missingSection_reads_empty_iff (document : Document) (key : SectionKey)
    (absent : document.lacks key.path = true)
    : SphereConfig.deserialize (document.withEmpty key.path)
        = SphereConfig.deserialize document
      ↔ (key ≠ .tools ∧ key ≠ .global) ∨ SphereConfig.deserialize document = none := by
  have kept (member : key.path ∈ optionalPaths) (differs : key ≠ .tools ∧ key ≠ .global)
      : SphereConfig.deserialize (document.withEmpty key.path)
          = SphereConfig.deserialize document
        ↔ (key ≠ .tools ∧ key ≠ .global) ∨ SphereConfig.deserialize document = none :=
    iff_of_true (deserialize_withEmpty_of_optional member absent) (.inl differs)
  cases key with
  | tools =>
      simp only [SectionKey.path, ne_eq, not_true_eq_false, false_and, false_or] at absent ⊢
      cases document with
      | mapping entries =>
          rw [withEmpty_mapping, SphereConfig.deserialize, asSection, asSection,
            readSphereConfig_addEmpty_tools absent]
          apply map_eq_self_iff
          intro config accepted same
          have none := readSphereConfig_tools absent accepted
          rw [← same] at none
          have differs : defaultMaxToolIterations ≠ 0 := by decide
          exact differs (congrArg ToolsConfig.maxToolIterations none)
      | _ => simp [lacks] at absent
  | global =>
      simp only [SectionKey.path, ne_eq, not_true_eq_false, and_false, false_or] at absent ⊢
      cases document with
      | mapping entries =>
          rw [withEmpty_mapping, SphereConfig.deserialize, asSection, asSection,
            readSphereConfig_addEmpty_global absent]
          apply map_eq_self_iff
          intro config accepted same
          have shared := readSphereConfig_global absent accepted
          rw [← same] at shared
          have differs : ({} : RateLimitRule) ≠ defaultGlobalRateLimit := by decide
          exact differs shared
      | _ => simp [lacks] at absent
  | _ => exact kept (by decide) (by decide)

/-- A document without sections. -/
def addressOnly : Document :=
  .mapping [("listen_addr", .str "127.0.0.1:8080")]

/-- Leaving the outbound section out of it. -/
theorem missingSection_reads_empty_iff_example
    : SphereConfig.deserialize (addressOnly.withEmpty SectionKey.outbound.path)
        = SphereConfig.deserialize addressOnly
      ↔ (SectionKey.outbound ≠ .tools ∧ SectionKey.outbound ≠ .global)
        ∨ SphereConfig.deserialize addressOnly = none :=
  missingSection_reads_empty_iff addressOnly .outbound rfl

/-- Leaving the tools section out of it allows no tool iterations. -/
theorem missingSection_differs
    : ¬∀ (document : Document) (key : SectionKey), document.lacks key.path = true
        → SphereConfig.deserialize (document.withEmpty key.path)
          = SphereConfig.deserialize document := by
  intro same
  have iterations := congrArg (Option.map (fun config => config.tools.maxToolIterations))
    (same addressOnly .tools rfl)
  exact absurd iterations (by decide)

end Intellisphere.Sphere
