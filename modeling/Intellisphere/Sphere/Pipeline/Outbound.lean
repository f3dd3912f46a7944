import Intellisphere.Sphere.Pipeline.Filter
import Intellisphere.Sphere.Pipeline.Patterns

/-! Outbound filters: size enforcement, personal data, injection echoes, harmful output
and unknown URLs.
-/

namespace Intellisphere.Sphere

open Intellisphere.Foundation

def truncationSuffix : String :=
  " [truncated]"

/-- Cut a text that is longer than the limit at a character boundary and mark the cut. The
limit is compared with the length in bytes; slicing off a boundary would panic.
-/
def truncateContent (maxChars : Nat) (content : List Char) : Except Failure (List Char) :=
  if byteLength content ≤ maxChars then .ok content
  else
    let truncateAt := maxChars - byteLength truncationSuffix.toList
    let boundary := floorCharBoundary content (min truncateAt (byteLength content))
    match sliceTo content boundary with
    | some kept => .ok (kept ++ truncationSuffix.toList)
    | none => .error .panicked

def resultSizeApply (maxChars : Nat) (message : Message) (context : PipelineContext)
    : FilterRun Failure :=
  let length := byteLength message.content.toList
  if length ≤ maxChars then { result := .ok (), message, context }
  else
    match truncateContent maxChars message.content.toList with
    | .error failure => { result := .error failure, message, context }
    | .ok truncated =>
        {
          result := .ok ()
          message := { message with content := String.ofList truncated }
          context :=
            context.annotate "result_truncated"
              ("original_len=" ++ toString length ++ ", truncated_to="
                ++ toString (byteLength truncated))
        }

def resultSizeEnforcementFilter (maxChars : Nat) : Filter Failure :=
  { name := "ResultSizeEnforcement", apply := resultSizeApply maxChars }

inductive PIILeakAction where
  | redact
  | block
  | flag
  deriving DecidableEq

/-- Go through the patterns in order, collecting the kinds of data found and, when
redacting, masking each kind in the text the next pattern sees.
-/
def detectPii (tables : UnicodeTables) (action : PIILeakAction)
    : List PiiPattern → List Char → List String → List Char × List String
  | [], content, detected => (content, detected)
  | entity :: rest, content, detected =>
      if entity.pattern.isMatch tables.word content then
        let content :=
          if action = .redact then entity.mask tables.word content else content
        detectPii tables action rest content (detected ++ [entity.name])
      else detectPii tables action rest content detected

def piiLeakDetectionApply (tables : UnicodeTables) (action : PIILeakAction)
    (message : Message) (context : PipelineContext)
    : FilterRun Failure :=
  let (content, detected) :=
    detectPii tables action (piiPatterns tables) message.content.toList []
  if detected.isEmpty then { result := .ok (), message, context }
  else
    match action with
    | .redact =>
        {
          result := .ok ()
          message := { message with content := String.ofList content }
          context := context.annotateAll "outbound_pii_redacted" detected
        }
    | .block =>
        {
          result :=
            .error
              (.error
                (.outboundRejected
                  ("Response contains PII: " ++ ", ".intercalate detected)))
          message
          context
        }
    | .flag =>
        {
          result := .ok ()
          message
          context := context.annotateAll "outbound_pii_flagged" detected
        }

def piiLeakDetectionFilter (tables : UnicodeTables) (action : PIILeakAction) : Filter Failure :=
  { name := "PIILeakDetection", apply := piiLeakDetectionApply tables action }

inductive InjectionEchoAction where
  | block
  | flag
  | log
  deriving DecidableEq

/-- Phrases that suggest the model followed injected instructions. -/
def echoIndicators : List String :=
  [
    "ignore previous",
    "new instructions",
    "i am now",
    "i will now",
    "as dan",
    "entering",
    "switching to",
    "override accepted",
    "new persona",
    "jailbreak",
    "bypass"
  ]

/-- The indicators found in a lower-cased response, then the flagged pattern names it
echoes.
-/
def matchedIndicators (tables : UnicodeTables) (contentLower : String)
    (injectionPatterns : List String)
    : List String :=
  echoIndicators.filter
    (fun indicator => containsText contentLower.toList indicator.toList)
  ++ (injectionPatterns.filter
      (fun name => containsText contentLower.toList (tables.lowercase name).toList)).map
    ("pattern_echo:" ++ ·)

def injectionEchoApply (tables : UnicodeTables) (action : InjectionEchoAction)
    (message : Message) (context : PipelineContext)
    : FilterRun Failure :=
  match context.getAnnotations "injection_patterns" with
  | none | some [] => { result := .ok (), message, context }
  | some injectionPatterns =>
      let matched :=
        matchedIndicators tables (tables.lowercase message.content) injectionPatterns
      if matched.isEmpty then { result := .ok (), message, context }
      else
        match action with
        | .block =>
            {
              result :=
                .error
                  (.error
                    (.outboundRejected
                      ("Response appears to execute injected instructions: "
                        ++ ", ".intercalate matched)))
              message
              context
            }
        | .flag =>
            {
              result := .ok ()
              message
              context := context.annotateAll "injection_echo_detected" matched
            }
        | .log => { result := .ok (), message, context }

def injectionEchoFilter (tables : UnicodeTables) (action : InjectionEchoAction)
    : Filter Failure :=
  { name := "InjectionEcho", apply := injectionEchoApply tables action }

inductive ResponseClassifierAction where
  | block
  | redact
  | flag
  deriving DecidableEq

/-- The names of the patterns that match a text. -/
def matchedNames (tables : UnicodeTables) (patterns : List (String × Regex))
    (content : List Char)
    : List String :=
  (patterns.filter (fun pattern => pattern.2.isMatch tables.word content)).map Prod.fst

def responseClassifierApply (tables : UnicodeTables) (action : ResponseClassifierAction)
    (message : Message) (context : PipelineContext)
    : FilterRun Failure :=
  let matched := matchedNames tables responsePatterns message.content.toList
  if matched.isEmpty then { result := .ok (), message, context }
  else
    let matchedStr := ", ".intercalate matched
    match action with
    | .block =>
        {
          result :=
            .error
              (.error
                (.outboundRejected ("Response contains harmful content: " ++ matchedStr)))
          message
          context
        }
    | .redact =>
        {
          result := .ok ()
          message :=
            {
              message with
              content :=
                "[Content redacted: harmful patterns detected (" ++ matchedStr ++ ")]"
            }
          context :=
            (context.annotateAll "response_classified_redacted" matched).annotate
              "response_classifier_action" ("redacted: " ++ matchedStr)
        }
    | .flag =>
        {
          result := .ok ()
          message
          context := context.annotateAll "response_classified_flagged" matched
        }

def responseClassifierFilter (tables : UnicodeTables) (action : ResponseClassifierAction)
    : Filter Failure :=
  { name := "ResponseClassifier", apply := responseClassifierApply tables action }

/-- A URL counts as known when it extends a known URL or is a prefix of one. -/
def isKnownUrl (knownUrls : List String) (url : List Char) : Bool :=
  knownUrls.any
    (fun known => known.toList.isPrefixOf url || url.isPrefixOf known.toList)

def hallucinationFlagApply (tables : UnicodeTables) (message : Message)
    (context : PipelineContext)
    : FilterRun Failure :=
  let responseUrls := urlPattern.findIter tables.word message.content.toList
  let knownUrls := (context.getAnnotations "known_urls").getD []
  let hallucinated := responseUrls.filter (fun url => !isKnownUrl knownUrls url)
  if hallucinated.isEmpty then { result := .ok (), message, context }
  else
    {
      result := .ok ()
      message
      context :=
        (context.annotateAll "hallucination_flagged_url"
          (hallucinated.map String.ofList)).annotate
          "hallucination_confidence" "low"
    }

def hallucinationFlagFilter (tables : UnicodeTables) : Filter Failure :=
  { name := "HallucinationFlag", apply := hallucinationFlagApply tables }

-----------------------------------------------------------------------------------------
-- What each filter does to the message
-----------------------------------------------------------------------------------------

/-- The text left when its size is limited. -/
def limitSize (maxChars : Nat) (content : List Char) : List Char :=
  match truncateContent maxChars content with
  | .ok truncated => truncated
  | .error _ => content

/-- Truncation always finds a boundary to cut at. -/
theorem truncateContent_ok (maxChars : Nat) (content : List Char)
    : ∃ truncated, truncateContent maxChars content = .ok truncated := by
  simp only [truncateContent]
  split
  · exact ⟨content, rfl⟩
  · have found :=
      (sliceTo_isSome content _).trans
        (floorCharBoundary_isBoundary content
          (min (maxChars - byteLength truncationSuffix.toList) (byteLength content)))
    obtain ⟨kept, sliced⟩ := Option.isSome_iff_exists.mp found
    exact ⟨_, by rw [sliced]⟩

/-- A text within the limit is left alone. -/
theorem limitSize_of_le {maxChars : Nat} {content : List Char}
    (short : byteLength content ≤ maxChars)
    : limitSize maxChars content = content := by
  simp only [limitSize, truncateContent, short, if_true]

/-- A longer text is cut so that the suffix fits. -/
theorem limitSize_eq_takeBytes {maxChars : Nat} {content : List Char}
    (long : maxChars < byteLength content)
    : limitSize maxChars content
      = takeBytes (maxChars - byteLength truncationSuffix.toList) content
        ++ truncationSuffix.toList := by
  obtain ⟨truncated, same⟩ := truncateContent_ok maxChars content
  rw [limitSize, same]
  simp only [truncateContent, Nat.not_le.mpr long, if_false] at same
  rw [Nat.min_eq_left (by omega)] at same
  split at same
  next kept sliced =>
    obtain rfl := Except.ok.inj same
    rw [sliceTo_floorCharBoundary sliced]
  next => contradiction

/-- It is cut to a prefix that leaves room for the suffix, if there is any. -/
theorem limitSize_of_gt {maxChars : Nat} {content : List Char}
    (long : maxChars < byteLength content)
    : ∃ kept,
        limitSize maxChars content = kept ++ truncationSuffix.toList
        ∧ kept <+: content
        ∧ byteLength kept ≤ maxChars - byteLength truncationSuffix.toList := by
  obtain ⟨isPrefix, within⟩ :=
    takeBytes_spec (maxChars - byteLength truncationSuffix.toList) content
  exact ⟨_, limitSize_eq_takeBytes long, isPrefix, within⟩

/-- Limiting the size leaves a text alone only when it is short enough or is the bare
suffix.
-/
theorem limitSize_eq_self_iff {maxChars : Nat} {content : List Char}
    : limitSize maxChars content = content
      ↔ byteLength content ≤ maxChars ∨ content = truncationSuffix.toList := by
  rcases Nat.lt_or_ge maxChars (byteLength content) with long | short
  · obtain ⟨kept, same, isPrefix, room⟩ := limitSize_of_gt long
    rw [same]
    refine ⟨?_, ?_⟩
    · intro whole
      have length := byteLength_append kept truncationSuffix.toList
      rw [whole] at length
      have empty : kept = [] := byteLength_eq_zero (by omega)
      subst empty
      exact .inr whole.symm
    · intro suffix
      rcases suffix with short | rfl
      · omega
      · have empty : kept = [] := byteLength_eq_zero (by omega)
        rw [empty, List.nil_append]
  · simp only [limitSize_of_le short, short, true_or]

/-- Size enforcement succeeds and replaces the content by its truncation. -/
theorem resultSizeApply_spec (maxChars : Nat) (message : Message)
    (context : PipelineContext)
    : ∃ truncated,
        truncateContent maxChars message.content.toList = .ok truncated
        ∧ (resultSizeApply maxChars message context).result = .ok ()
        ∧ (resultSizeApply maxChars message context).message
          = { message with content := String.ofList truncated } := by
  obtain ⟨truncated, same⟩ := truncateContent_ok maxChars message.content.toList
  refine ⟨truncated, same, ?_⟩
  simp only [resultSizeApply]
  split
  next short =>
    simp only [truncateContent, short, if_true, Except.ok.injEq] at same
    simp [← same]
  next => simp [same]

/-- The text left when personal data is masked. -/
def redactPii (tables : UnicodeTables) (content : List Char) : List Char :=
  (piiPatterns tables).foldl (fun content entity => entity.mask tables.word content) content

/-- Redacting detection masks every pattern in turn: where a pattern is not found, masking
it changes nothing. By induction on the patterns.
-/
theorem detectPii_content (tables : UnicodeTables) (patterns : List PiiPattern)
    (content : List Char) (detected : List String)
    : (detectPii tables .redact patterns content detected).1
      = patterns.foldl (fun content entity => entity.mask tables.word content) content := by
  induction patterns generalizing content detected with
  | nil => rfl
  | cons entity rest ih =>
      simp only [detectPii, List.foldl_cons]
      split
      · simp only [if_true]
        exact ih _ _
      next missing =>
        have absent := Regex.isMatch_eq_false_iff.mp (Bool.eq_false_iff.mpr missing)
        rw [PiiPattern.mask, Pattern.replaceAll_of_absent absent]
        exact ih _ _

/-- Nothing is reported only when nothing was rewritten, by induction on the patterns. -/
theorem detectPii_eq_of_isEmpty {tables : UnicodeTables} {action : PIILeakAction}
    {patterns : List PiiPattern} {content : List Char} {detected : List String}
    (silent : (detectPii tables action patterns content detected).2.isEmpty)
    : (detectPii tables action patterns content detected).1 = content
      ∧ detected.isEmpty := by
  induction patterns generalizing content detected with
  | nil => exact ⟨rfl, silent⟩
  | cons entity rest ih =>
      simp only [detectPii] at silent ⊢
      split at silent
      · have reported := (ih silent).2
        simp at reported
      next missing =>
        rw [if_neg missing]
        exact ih silent

/-- Size enforcement as a rewriting chain. -/
theorem resultSizeEnforcementFilter_rewrites (maxChars : Nat)
    : ChainRewrites [resultSizeEnforcementFilter maxChars]
        (fun content => String.ofList (limitSize maxChars content.toList)) := by
  refine .single ?_ ?_
  · intro message context
    obtain ⟨_, _, ok, _⟩ := resultSizeApply_spec maxChars message context
    exact ok
  · intro message context
    obtain ⟨truncated, same, _, rewritten⟩ := resultSizeApply_spec maxChars message context
    simp only [limitSize, same]
    exact rewritten

/-- Redaction masks every pattern in turn. -/
theorem piiLeakDetectionApply_redact (tables : UnicodeTables) (message : Message)
    (context : PipelineContext)
    : (piiLeakDetectionApply tables .redact message context).message
      = {
        message with
        content := String.ofList (redactPii tables message.content.toList)
      } := by
  have masked := detectPii_content tables (piiPatterns tables) message.content.toList []
  simp only [piiLeakDetectionApply, redactPii, ← masked]
  split
  next silent =>
    rw [(detectPii_eq_of_isEmpty silent).1, String.ofList_toList]
  next => rfl

/-- Redaction as a rewriting chain. -/
theorem piiLeakDetectionFilter_rewrites (tables : UnicodeTables)
    : ChainRewrites [piiLeakDetectionFilter tables .redact]
        (fun content => String.ofList (redactPii tables content.toList)) := by
  refine .single ?_ (piiLeakDetectionApply_redact tables)
  intro message context
  simp only [piiLeakDetectionFilter, piiLeakDetectionApply]
  split <;> rfl

/-- Flagging injection echoes changes annotations only. -/
theorem injectionEchoFilter_rewrites (tables : UnicodeTables)
    : ChainRewrites [injectionEchoFilter tables .flag] id := by
  refine .single ?_ ?_ <;>
  · intro message context
    simp only [injectionEchoFilter, injectionEchoApply]
    split
    · rfl
    · rfl
    · split <;> rfl

/-- Flagging harmful output changes annotations only. -/
theorem responseClassifierFilter_rewrites (tables : UnicodeTables)
    : ChainRewrites [responseClassifierFilter tables .flag] id := by
  refine .single ?_ ?_ <;>
  · intro message context
    simp only [responseClassifierFilter, responseClassifierApply]
    split <;> rfl

/-- Flagging unknown URLs changes annotations only. -/
theorem hallucinationFlagFilter_rewrites (tables : UnicodeTables)
    : ChainRewrites [hallucinationFlagFilter tables] id := by
  refine .single ?_ ?_ <;>
  · intro message context
    simp only [hallucinationFlagFilter, hallucinationFlagApply]
    split <;> rfl

end Intellisphere.Sphere
