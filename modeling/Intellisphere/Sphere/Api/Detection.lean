import Intellisphere.Sphere.Api.Ingress
import Intellisphere.Sphere.Pipeline.ContentClassifier
import Intellisphere.Sphere.Pipeline.KnownUrls

/-! What the outbound detectors of a chat run find in the context. The echo filter looks for
named injections and the hallucination filter for known URLs, and nothing on the way of a
request records either.
-/

namespace Intellisphere.Sphere

open Intellisphere.Foundation

-----------------------------------------------------------------------------------------
-- Echoed injections
-----------------------------------------------------------------------------------------

/-- A context without named injections and without detected echoes. -/
structure PipelineContext.Unwarned (context : PipelineContext) : Prop where
  patterns : context.getAnnotations "injection_patterns" = none
  echoes : context.getAnnotations "injection_echo_detected" = none

theorem PipelineContext.Annotated.unwarned {keys : List String}
    {before after : PipelineContext} (annotated : Annotated keys before after)
    (unwarned : before.Unwarned) (patterns : "injection_patterns" ∉ keys)
    (echoes : "injection_echo_detected" ∉ keys)
    : after.Unwarned :=
  {
    patterns := (annotated.elsewhere _ patterns).trans unwarned.patterns
    echoes := (annotated.elsewhere _ echoes).trans unwarned.echoes
  }

/-- The configured outbound chain detects no echo where no injection was named. -/
theorem PipelineChain.runOutbound_unwarned (tables : UnicodeTables) (config : PipelineConfig)
    (response : Message) {context : PipelineContext} (unwarned : context.Unwarned)
    : ((fromConfig tables config).runOutbound response context).context.Unwarned := by
  refine runFilters_keeps _ ?_ response context unwarned
  intro filter member sent between unwarned
  rcases mem_outboundFilters member with rfl | rfl | rfl | rfl | rfl
  · exact (resultSizeEnforcementFilter_annotates _ sent between).unwarned unwarned (by simp)
      (by simp)
  · exact (piiLeakDetectionFilter_annotates tables _ sent between).unwarned unwarned (by simp)
      (by simp)
  · simpa only [injectionEchoFilter, injectionEchoApply, unwarned.patterns] using unwarned
  · exact (responseClassifierFilter_annotates tables _ sent between).unwarned unwarned
      (by simp) (by simp)
  · exact (hallucinationFlagFilter_annotates tables sent between).unwarned unwarned (by simp)
      (by simp)

/-- With the echo filter enabled, an injection in one of the messages and an indicator in the
response, the run of both chains ends with a detected echo or a rejected response.
-/
def EchoDetected (tables : UnicodeTables) (config : PipelineConfig)
    (customPatterns : List Regex) (request : ChatRequest) (requestId sessionId : String)
    (response : Message)
    : Prop :=
  let chain := PipelineChain.fromConfig tables config
  config.outbound.injectionEcho.enabled = true
  → (∃ message ∈ request.messages, IsInjection tables customPatterns message.content)
  → HasIndicator tables response.content
  → ∀ sanitised context,
      Sanitised chain (.new requestId sessionId) request.messages sanitised context
      → (∃ failure, (chain.runOutbound response context).result = .error failure)
        ∨ (chain.runOutbound response context).context.Holds "injection_echo_detected"

/-- Two runs of the chains never detect an echo. -/
theorem runOutbound_holds_no_echo {tables : UnicodeTables} {config : PipelineConfig}
    {messages : List ChatMessage} {requestId sessionId : String} {sanitised : List Message}
    {context : PipelineContext}
    (passed
      : Sanitised (.fromConfig tables config) (.new requestId sessionId) messages sanitised
          context)
    (response : Message)
    : ¬(((PipelineChain.fromConfig tables config).runOutbound response context).context.Holds
          "injection_echo_detected") := by
  obtain rfl := passed.context_eq (PipelineChain.fromConfig_inbound_context tables config)
  have unwarned
      := PipelineChain.runOutbound_unwarned tables config response
        { patterns := rfl, echoes := rfl : (PipelineContext.new requestId sessionId).Unwarned }
  intro detected
  obtain ⟨values, found, _⟩ := detected
  rw [unwarned.echoes] at found
  contradiction

/-- Messages either all pass the inbound chain, or one of them is rejected. -/
theorem rejected_iff_not_sanitised {chain : PipelineChain} {context : PipelineContext}
    {messages : List ChatMessage}
    : Rejected chain context messages
      ↔ ∀ sanitised final, ¬Sanitised chain context messages sanitised final := by
  simp only [← inboundMessages_eq_error_iff, ← inboundMessages_eq_ok_iff]
  cases inboundMessages chain messages context with
  | error error => simp
  | ok passed =>
      obtain ⟨sanitised, final⟩ := passed
      simp

/-- An echoed injection is detected only when there is nothing to detect: the filter is
disabled, no message is an injection, no indicator is in the response, or the request ends
with a rejected message.
-/
theorem echoDetected_iff (tables : UnicodeTables) (config : PipelineConfig)
    (customPatterns : List Regex) (request : ChatRequest) (requestId sessionId : String)
    (response : Message)
    : EchoDetected tables config customPatterns request requestId sessionId response
      ↔ config.outbound.injectionEcho.enabled = false
        ∨ (∀ message ∈ request.messages, ¬IsInjection tables customPatterns message.content)
        ∨ ¬HasIndicator tables response.content
        ∨ Rejected (.fromConfig tables config) (.new requestId sessionId)
            request.messages := by
  refine ⟨?_, ?_⟩
  · intro detected
    by_cases enabled : config.outbound.injectionEcho.enabled = true
    · by_cases injected
          : ∃ message ∈ request.messages, IsInjection tables customPatterns message.content
      · by_cases indicated : HasIndicator tables response.content
        · refine .inr (.inr (.inr (rejected_iff_not_sanitised.mpr ?_)))
          intro sanitised context passed
          rcases detected enabled injected indicated sanitised context passed with
            ⟨failure, failed⟩ | found
          · rw [PipelineChain.runOutbound,
              (PipelineChain.fromConfig_outbound tables config).ok] at failed
            contradiction
          · exact runOutbound_holds_no_echo passed response found
        · exact .inr (.inr (.inl indicated))
      · refine .inr (.inl (fun message member injection => ?_))
        exact injected ⟨message, member, injection⟩
    · exact .inl (Bool.eq_false_iff.mpr enabled)
  · intro nothing enabled injected indicated sanitised context passed
    rcases nothing with disabled | clean | silent | rejected
    · rw [enabled] at disabled
      contradiction
    · obtain ⟨message, member, injection⟩ := injected
      exact (clean message member injection).elim
    · exact (silent indicated).elim
    · exact (rejected_iff_not_sanitised.mp rejected sanitised context passed).elim

/-- A chain with echo detection enabled. -/
def echoDetection : PipelineConfig :=
  { outbound := { injectionEcho := { enabled := true } } }

def jailbreak : ChatMessage :=
  { role := "user", content := "jailbreak" }

/-- A jailbreak that the response echoes goes undetected. -/
theorem echo_undetected
    : ¬∀ (tables : UnicodeTables) (config : PipelineConfig) (customPatterns : List Regex)
        (request : ChatRequest) (requestId sessionId : String) (response : Message),
        EchoDetected tables config customPatterns request requestId sessionId response := by
  intro detected
  have injected
      : ∃ message ∈ [jailbreak], IsInjection asciiTables [] message.content := by
    refine ⟨_, List.mem_singleton_self _, ("jailbreak_keyword", caseless "jailbreak"), ?_, ?_⟩
    · simp [classifierPatterns, injectionPatterns]
    · decide +kernel
  have indicated : HasIndicator asciiTables (assistantText "I will now help").content :=
    ⟨"i will now", by simp [echoIndicators], by decide +kernel⟩
  have passed
      : Sanitised (.fromConfig asciiTables echoDetection) (.new "r" "s") [jailbreak]
          [jailbreak.toProto] (.new "r" "s") :=
    inboundMessages_eq_ok_iff.mp (by rfl)
  rcases detected asciiTables echoDetection [] { messages := [jailbreak] } "r" "s"
      (assistantText "I will now help") rfl injected indicated _ _ passed with
    ⟨failure, failed⟩ | found
  · rw [PipelineChain.runOutbound, (PipelineChain.fromConfig_outbound _ _).ok] at failed
    contradiction
  · exact runOutbound_holds_no_echo passed _ found

-----------------------------------------------------------------------------------------
-- Known URLs
-----------------------------------------------------------------------------------------

section KnownUrls

variable (libraries : ToolLibraries) (state : AppState) (world : ServerWorld)
  (identity : Option Identity)

/-- Within the iterations left, Core comes to a final response after these tool results. -/
inductive ChatFinishes : Nat → Nat → List ToolResult → CompletionResponse → Prop
  | final {left iteration : Nat} {response : CompletionResponse}
    (answer : world.complete iteration = .ok response)
    (finished : response.wantsTools = false)
    : ChatFinishes (left + 1) iteration [] response
  | round {left iteration : Nat} {response last : CompletionResponse}
    {toolResults later : List ToolResult}
    (answer : world.complete iteration = .ok response) (wants : response.wantsTools = true)
    (answered
      : process libraries state.toolRegistry state.toolExecutor identity
          (world.tools iteration) response.toolCalls = .ok toolResults)
    (rest : ChatFinishes left (iteration + 1) later last)
    : ChatFinishes (left + 1) iteration (toolResults ++ later) last

variable {libraries state world identity}

/-- The loop then ends with that response. By induction on its rounds. -/
theorem ChatFinishes.outcome {request : ChatRequest} {context : PipelineContext}
    {left iteration : Nat} {toolResults : List ToolResult} {response : CompletionResponse}
    (finishes
      : ChatFinishes libraries state world context.identity left iteration toolResults response)
    (messages : List Message) (usage : UsageResponse)
    : ∃ total,
        (chatLoop libraries state request world context left iteration messages usage).outcome
        = state.finishChat context response total := by
  induction finishes generalizing messages usage with
  | @final left iteration response answer finished =>
      refine ⟨usage.add response.usage, ?_⟩
      simp [chatLoop, answer, finished, HandlerRun.after]
  | @round left iteration response last toolResults later answer wants answered rest ih =>
      obtain ⟨total, ends⟩ := ih
        (messages
          ++ [
            assistantMessage response.content response.toolCalls,
            toolResultMessage toolResults
          ])
        (usage.add response.usage)
      refine ⟨total, ?_⟩
      simpa only [chatLoop, answer, wants, answered, HandlerRun.after, if_true] using ends

end KnownUrls

/-- The URL occurs verbatim in a client message or in a tool result. -/
def IsKnownUrl (request : ChatRequest) (toolResults : List ToolResult) (url : List Char)
    : Prop :=
  (∃ message ∈ request.messages, containsText message.content.toList url = true)
  ∨ ∃ result ∈ toolResults, containsText result.resultJson.toList url = true

/-- Without known URLs in the context the filter flags every URL it finds. -/
theorem hallucinationFlagApply_flags {tables : UnicodeTables} {message : Message}
    {context : PipelineContext} (unknown : context.getAnnotations "known_urls" = none)
    {url : List Char} (found : url ∈ responseUrls tables message.content)
    : (hallucinationFlagApply tables message context).context.FlagsUrl url := by
  rw [hallucinationFlagApply_flagsUrl_iff, PipelineContext.knownUrls, unknown]
  exact .inr ⟨found, rfl⟩

/-- The same configuration without the hallucination filter. -/
def PipelineConfig.withoutHallucinationFlag (config : PipelineConfig) : PipelineConfig :=
  { config with outbound := { config.outbound with hallucinationFlag := {} } }

/-- When enabled, the hallucination filter is the last one. -/
theorem outboundFilters_hallucinationFlag (tables : UnicodeTables) {config : PipelineConfig}
    (enabled : config.outbound.hallucinationFlag.enabled = true)
    : (PipelineChain.fromConfig tables config).outboundFilters
      = (PipelineChain.fromConfig tables config.withoutHallucinationFlag).outboundFilters
        ++ [hallucinationFlagFilter tables] := by
  simp only [PipelineChain.fromConfig, PipelineConfig.withoutHallucinationFlag, enabled]
  simp only [whenEnabled, Bool.false_eq_true, if_true, if_false, List.append_nil]

/-- Every URL of the text that leaves the chain is flagged. -/
theorem PipelineChain.runOutbound_flags {tables : UnicodeTables} {config : PipelineConfig}
    (enabled : config.outbound.hallucinationFlag.enabled = true) (response : Message)
    {context : PipelineContext} (unknown : context.getAnnotations "known_urls" = none)
    {url : List Char}
    (found
      : url
        ∈ responseUrls tables
            ((fromConfig tables config).runOutbound response context).message.content)
    : ((fromConfig tables config).runOutbound response context).context.FlagsUrl url := by
  have ok := (fromConfig_outbound tables config.withoutHallucinationFlag).ok response context
  have annotated :=
    runOutbound_annotated tables config.withoutHallucinationFlag response context
  rw [runOutbound, outboundFilters_hallucinationFlag tables enabled,
    runFilters_append _ _ _ _ ok] at found ⊢
  rw [runOutbound] at annotated
  -- what the filters before the last one leave behind
  generalize runFilters _ response context = run at found annotated ⊢
  rw [(hallucinationFlagFilter_rewrites tables).message] at found
  rw [runFilters_singleton]
  have stillUnknown := (annotated.elsewhere "known_urls" (by simp [outboundKeys])).trans unknown
  exact hallucinationFlagApply_flags stillUnknown found

section ChatRuns

variable (tables : UnicodeTables) (libraries : ToolLibraries) (now : ℚ)
  (config : SphereConfig) (request : ChatRequest) (world : ServerWorld)

/-- A chat run comes to a final response, with the given tool results before it and the
given state of the outbound chain at its end.
-/
def ChatEnds (toolResults : List ToolResult) (final : FilterRun Failure) : Prop :=
  let state := AppState.start tables now config
  ∃ sanitised context response,
    Sanitised state.pipeline (.new world.requestId "") request.messages sanitised context
    ∧ ChatFinishes libraries state world context.identity state.effectiveMax 0 toolResults
        response
    ∧ final = state.pipeline.runOutbound (assistantMessage response.content []) context

/-- With the hallucination filter enabled, a chat run never flags a URL of its final
response that occurs verbatim in a client message or in a tool result.
-/
def KnownUrlsUnflagged : Prop :=
  config.pipeline.outbound.hallucinationFlag.enabled = true
  → ∀ toolResults final,
      ChatEnds tables libraries now config request world toolResults final
      → ∀ url ∈ responseUrls tables final.message.content,
          IsKnownUrl request toolResults url → ¬final.context.FlagsUrl url

variable {tables libraries now config request world}

/-- The text that the chat handler delivers is the one the outbound chain ends with. -/
theorem ChatEnds.delivers {toolResults : List ToolResult} {final : FilterRun Failure}
    (ends : ChatEnds tables libraries now config request world toolResults final)
    : ∃ delivered,
        (chat libraries (.start tables now config) request world).outcome = .ok delivered
        ∧ delivered.content = final.message.content := by
  obtain ⟨sanitised, context, response, passed, finishes, rfl⟩ := ends
  obtain ⟨total, outcome⟩ := @ChatFinishes.outcome _ _ _ request _ _ _ _ _ finishes sanitised
    { inputTokens := 0, outputTokens := 0 }
  have ok
      : ((AppState.start tables now config).pipeline.runOutbound
          (assistantMessage response.content []) context).result = .ok () :=
    (PipelineChain.fromConfig_outbound tables config.pipeline).ok _ context
  rw [AppState.finishChat, ok] at outcome
  rw [chat, inboundMessages_eq_ok_iff.mpr passed]
  exact ⟨_, outcome, rfl⟩

/-- The filter is enabled and flags all URLs of the final response. -/
theorem ChatEnds.flags {toolResults : List ToolResult} {final : FilterRun Failure}
    (ends : ChatEnds tables libraries now config request world toolResults final)
    (enabled : config.pipeline.outbound.hallucinationFlag.enabled = true) {url : List Char}
    (found : url ∈ responseUrls tables final.message.content)
    : final.context.FlagsUrl url := by
  obtain ⟨sanitised, context, response, passed, _, rfl⟩ := ends
  obtain rfl := passed.context_eq
    (PipelineChain.fromConfig_inbound_context tables config.pipeline)
  exact PipelineChain.runOutbound_flags enabled _ rfl found

variable (tables libraries now config request world)

/-- Known URLs stay unflagged only in runs whose final response has none. -/
theorem knownUrls_unflagged_iff
    : KnownUrlsUnflagged tables libraries now config request world
      ↔ config.pipeline.outbound.hallucinationFlag.enabled = false
        ∨ ∀ toolResults final,
            ChatEnds tables libraries now config request world toolResults final
            → ∀ url ∈ responseUrls tables final.message.content,
                ¬IsKnownUrl request toolResults url := by
  refine ⟨?_, ?_⟩
  · intro unflagged
    cases enabled : config.pipeline.outbound.hallucinationFlag.enabled with
    | false => exact .inl rfl
    | true =>
        refine .inr (fun toolResults final ends url found known => ?_)
        exact unflagged enabled toolResults final ends url found known
          (ends.flags enabled found)
  · intro nothing enabled toolResults final ends url found known
    rcases nothing with disabled | none
    · rw [enabled] at disabled
      contradiction
    · exact (none toolResults final ends url found known).elim

end ChatRuns

/-- A chat with the hallucination filter enabled. -/
def hallucinationDetection : SphereConfig :=
  {
    tools := { maxToolIterations := 10 }
    pipeline := { outbound := { hallucinationFlag := { enabled := true } } }
  }

/-- A question that names a URL. -/
def linkQuestion : ChatRequest :=
  { messages := [{ role := "user", content := "see https://a.io" }] }

/-- Core answers with that URL. -/
def linkAnswer : CompletionResponse :=
  {
    content := "https://a.io"
    toolCalls := []
    stopReasonRaw := 1
    usage := none
    model := "m"
  }

def linkWorld : ServerWorld :=
  { echoWorld with complete := fun _ => .ok linkAnswer }

/-- The URL of the question is flagged in the answer. -/
theorem knownUrl_flagged
    : ¬∀ (tables : UnicodeTables) (libraries : ToolLibraries) (now : ℚ)
        (config : SphereConfig) (request : ChatRequest) (world : ServerWorld),
        KnownUrlsUnflagged tables libraries now config request world := by
  intro unflagged
  have passed
      : Sanitised (AppState.start asciiTables 0 hallucinationDetection).pipeline
          (.new linkWorld.requestId "") linkQuestion.messages
          (linkQuestion.messages.map ChatMessage.toProto) (.new linkWorld.requestId "") :=
    inboundMessages_eq_ok_iff.mp (by rfl)
  have ends
      : ChatEnds asciiTables lenientLibraries 0 hallucinationDetection linkQuestion linkWorld []
          ((AppState.start asciiTables 0 hallucinationDetection).pipeline.runOutbound
            (assistantMessage linkAnswer.content []) (.new linkWorld.requestId "")) :=
    ⟨_, _, linkAnswer, passed, .final rfl (by decide), rfl⟩
  have found : "https://a.io".toList ∈ responseUrls asciiTables "https://a.io" := by
    decide +kernel
  have known : IsKnownUrl linkQuestion [] "https://a.io".toList :=
    .inl ⟨_, List.mem_singleton_self _, by decide⟩
  exact unflagged asciiTables lenientLibraries 0 hallucinationDetection linkQuestion linkWorld
    rfl [] _ ends _ found known (ends.flags rfl found)

end Intellisphere.Sphere
