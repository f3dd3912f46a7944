import Intellisphere.Sphere.Pipeline.Observation

/-! The content classifier, an inbound filter that no configuration installs. It names the
injection patterns of a message in the context, and the echo filter only looks at responses
when it finds names there.
-/

namespace Intellisphere.Sphere

open Intellisphere.Foundation Intellisphere.Foundation.Regex

inductive ClassifierMode where
  | block
  | flag
  | log
  deriving DecidableEq

/-- One of the optional case-insensitive words, with the whitespace after it. -/
def optWord (words : List String) : Regex :=
  opt (oneOf (words.map (fun word => .seq (caseless word) (plus space))))

/-- The injection patterns of the classifier, by name. -/
def injectionPatterns : List (String × Regex) :=
  [
    (
      "ignore_previous",
      seqAll
        [
          caseless "ignore",
          plus space,
          optWord ["all", "any"],
          anyCaseless ["previous", "prior", "above"],
          plus space,
          anyCaseless ["instructions", "prompts", "rules"]
        ]
    ),
    (
      "role_assignment",
      seqAll
        [
          caseless "you",
          plus space,
          caseless "are",
          plus space,
          caseless "now",
          plus space,
          optWord ["a", "in"]
        ]
    ),
    (
      "disregard_previous",
      seqAll
        [
          caseless "disregard",
          plus space,
          optWord ["all", "any"],
          anyCaseless ["previous", "prior", "earlier"]
        ]
    ),
    (
      "new_instructions",
      seqAll
        [
          caseless "new",
          plus space,
          anyCaseless ["instructions", "rules", "prompt", "persona"],
          char ':'
        ]
    ),
    ("fake_system_message", seqAll [caseless "system", char ':', space]),
    (
      "pretend_to_be",
      seqAll
        [
          caseless "pretend",
          plus space,
          oneOf
            [
              seqAll [caseless "you", plus space, caseless "are"],
              seqAll [caseless "to", plus space, caseless "be"],
              caseless "that"
            ]
        ]
    ),
    ("dan_jailbreak", seqAll [boundary, caseless "dan", boundary]),
    ("jailbreak_keyword", caseless "jailbreak"),
    (
      "bypass_filters",
      seqAll
        [
          caseless "bypass",
          plus space,
          optWord ["your", "all"],
          anyCaseless ["rules", "restrictions", "filters", "safety"]
        ]
    )
  ]

/-- The patterns of a classifier: the built-in ones, then the custom ones by position. -/
def classifierPatterns (customPatterns : List Regex) : List (String × Regex) :=
  injectionPatterns
  ++ customPatterns.zipIdx.map (fun custom => ("custom_" ++ toString custom.2, custom.1))

def contentClassifierApply (tables : UnicodeTables) (mode : ClassifierMode)
    (customPatterns : List Regex) (message : Message) (context : PipelineContext)
    : FilterRun SphereError :=
  let matched :=
    matchedNames tables (classifierPatterns customPatterns) message.content.toList
  if matched.isEmpty then { result := .ok (), message, context }
  else
    match mode with
    | .block =>
        {
          result :=
            .error
              (.filterRejected "ContentClassifier"
                ("Potential injection detected: " ++ ", ".intercalate matched))
          message
          context
        }
    | .flag =>
        {
          result := .ok ()
          message
          context := context.annotateAll "injection_patterns" matched
        }
    | .log => { result := .ok (), message, context }

def contentClassifierFilter (tables : UnicodeTables) (mode : ClassifierMode)
    (customPatterns : List Regex)
    : Filter SphereError :=
  {
    name := "ContentClassifier"
    apply := contentClassifierApply tables mode customPatterns
  }

/-- The text matches one of the patterns of the classifier. -/
def IsInjection (tables : UnicodeTables) (customPatterns : List Regex) (content : String)
    : Prop :=
  ∃ pattern ∈ classifierPatterns customPatterns,
    pattern.2.isMatch tables.word content.toList = true

/-- The lower-cased text contains an indicator of the echo filter. -/
def HasIndicator (tables : UnicodeTables) (content : String) : Prop :=
  ∃ indicator ∈ echoIndicators,
    containsText (tables.lowercase content).toList indicator.toList = true

-----------------------------------------------------------------------------------------
-- The two filters together
-----------------------------------------------------------------------------------------

/-- A flagging classifier names the patterns of an injection. -/
theorem contentClassifierApply_flags {tables : UnicodeTables} {customPatterns : List Regex}
    {message : Message} (injection : IsInjection tables customPatterns message.content)
    (context : PipelineContext)
    : (contentClassifierApply tables .flag customPatterns message context).context.Holds
        "injection_patterns" := by
  obtain ⟨pattern, member, matched⟩ := injection
  have named
      : matchedNames tables (classifierPatterns customPatterns) message.content.toList
        ≠ [] := by
    apply List.ne_nil_of_mem (a := pattern.1)
    exact List.mem_map_of_mem (List.mem_filter.mpr ⟨member, matched⟩)
  simp only [contentClassifierApply, List.isEmpty_iff, named, if_false]
  exact context.annotateAll_holds "injection_patterns" named

/-- With names in the context, the flagging echo filter marks a response with an indicator. -/
theorem injectionEchoApply_detects {tables : UnicodeTables} {response : Message}
    {context : PipelineContext} (flagged : context.Holds "injection_patterns")
    (indicated : HasIndicator tables response.content)
    : (injectionEchoApply tables .flag response context).context.Holds
        "injection_echo_detected" := by
  obtain ⟨indicator, member, contained⟩ := indicated
  obtain ⟨names, found, some⟩ := flagged
  have marked
      : matchedIndicators tables (tables.lowercase response.content) names ≠ [] := by
    apply List.ne_nil_of_mem (a := indicator)
    exact List.mem_append_left _ (List.mem_filter.mpr ⟨member, contained⟩)
  cases names with
  | nil => contradiction
  | cons name names =>
      simp only [injectionEchoApply, found, List.isEmpty_iff, marked, if_false]
      exact context.annotateAll_holds "injection_echo_detected" marked

/-- A classifier in front makes the echo filter detect an echoed injection. -/
theorem classifier_feeds_echo {tables : UnicodeTables} {customPatterns : List Regex}
    {message response : Message}
    (injection : IsInjection tables customPatterns message.content)
    (indicated : HasIndicator tables response.content) (context : PipelineContext)
    : (injectionEchoApply tables .flag response
        (contentClassifierApply tables .flag customPatterns message context).context
        ).context.Holds "injection_echo_detected" :=
  injectionEchoApply_detects (contentClassifierApply_flags injection context) indicated

end Intellisphere.Sphere
