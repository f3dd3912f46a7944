import Intellisphere.Sphere.Pipeline.Redaction

/-! What a filter run leaves in the context: annotations only accumulate, and each filter
writes under its own keys. Outbound filters that flag are observers of the message.
-/

namespace Intellisphere.Sphere

open Intellisphere.Foundation

/-- The second context continues the annotation lists of the first, and differs from it
under the given keys only.
-/
structure PipelineContext.Annotated (keys : List String) (before after : PipelineContext)
    : Prop where
  grows
    : ∀ key values, before.getAnnotations key = some values
      → ∃ later, after.getAnnotations key = some later ∧ values <+: later
  elsewhere : ∀ key, key ∉ keys → after.getAnnotations key = before.getAnnotations key

theorem PipelineContext.Annotated.refl (keys : List String) (context : PipelineContext)
    : Annotated keys context context :=
  {
    grows := fun _ values found => ⟨values, found, List.prefix_rfl⟩
    elsewhere := fun _ _ => rfl
  }

theorem PipelineContext.Annotated.trans {keys : List String}
    {first second third : PipelineContext}
    (left : Annotated keys first second) (right : Annotated keys second third)
    : Annotated keys first third := by
  refine { grows := ?_, elsewhere := ?_ }
  · intro key values found
    obtain ⟨middle, foundMiddle, isPrefix⟩ := left.grows key values found
    obtain ⟨later, foundLater, isPrefixLater⟩ := right.grows key middle foundMiddle
    exact ⟨later, foundLater, isPrefix.trans isPrefixLater⟩
  · intro key other
    rw [right.elsewhere key other, left.elsewhere key other]

/-- The list under the annotated key is extended by the value. -/
theorem PipelineContext.getAnnotations_annotate (context : PipelineContext)
    (key value : String)
    : (context.annotate key value).getAnnotations key
      = some ((context.getAnnotations key).getD [] ++ [value]) :=
  AList.lookup_insert context.annotations

theorem PipelineContext.getAnnotations_annotate_of_ne (context : PipelineContext)
    {key other : String} (value : String) (different : other ≠ key)
    : (context.annotate key value).getAnnotations other = context.getAnnotations other :=
  AList.lookup_insert_ne different

theorem PipelineContext.annotate_annotated (context : PipelineContext) {keys : List String}
    {key : String} (own : key ∈ keys) (value : String)
    : Annotated keys context (context.annotate key value) := by
  refine { grows := ?_, elsewhere := ?_ }
  · intro other values found
    by_cases same : other = key
    · subst same
      refine ⟨values ++ [value], ?_, List.prefix_append _ _⟩
      rw [getAnnotations_annotate, found, Option.getD_some]
    · refine ⟨values, ?_, List.prefix_rfl⟩
      rw [getAnnotations_annotate_of_ne context value same, found]
  · intro other outside
    apply getAnnotations_annotate_of_ne
    intro same
    exact outside (same ▸ own)

/-- Several annotations under one key, by induction on them. -/
theorem PipelineContext.annotateAll_annotated (context : PipelineContext)
    {keys : List String} {key : String} (own : key ∈ keys) (values : List String)
    : Annotated keys context (context.annotateAll key values) := by
  induction values generalizing context with
  | nil => exact .refl keys context
  | cons value rest ih => exact (context.annotate_annotated own value).trans (ih _)

/-- The list under the key is extended by the values, by induction on them. -/
theorem PipelineContext.getAnnotations_annotateAll (context : PipelineContext) (key : String)
    {values : List String} (some : values ≠ [])
    : (context.annotateAll key values).getAnnotations key
      = Option.some ((context.getAnnotations key).getD [] ++ values) := by
  induction values generalizing context with
  | nil => contradiction
  | cons value rest ih =>
      have first := context.getAnnotations_annotate key value
      cases rest with
      | nil => exact first
      | cons next rest =>
          have later := ih (context.annotate key value) (by simp)
          rw [first, Option.getD_some, List.append_assoc] at later
          exact later

/-- The context holds at least one annotation under the key. -/
def PipelineContext.Holds (context : PipelineContext) (key : String) : Prop :=
  ∃ values, context.getAnnotations key = some values ∧ values ≠ []

theorem PipelineContext.annotateAll_holds (context : PipelineContext) (key : String)
    {values : List String} (some : values ≠ [])
    : (context.annotateAll key values).Holds key :=
  ⟨_, context.getAnnotations_annotateAll key some, by simp [some]⟩

/-- The filter annotates under the given keys only, also where it fails. -/
def Filter.AnnotatesUnder {Error : Type} (filter : Filter Error) (keys : List String)
    : Prop :=
  ∀ message context,
    PipelineContext.Annotated keys context (filter.apply message context).context

/-- What every filter keeps of the context, the chain keeps, by induction on the chain. -/
theorem runFilters_keeps {Error : Type} {Kept : PipelineContext → Prop}
    (filters : List (Filter Error))
    (each
      : ∀ filter ∈ filters, ∀ message context,
          Kept context → Kept (filter.apply message context).context)
    (message : Message) (context : PipelineContext) (kept : Kept context)
    : Kept (runFilters filters message context).context := by
  induction filters generalizing message context with
  | nil => exact kept
  | cons filter rest ih =>
      have first := each filter List.mem_cons_self message context kept
      simp only [runFilters]
      split
      · exact ih (fun other member => each other (List.mem_cons_of_mem filter member)) _ _ first
      · exact first

/-- One filter as a chain, whether it fails or not. -/
theorem runFilters_singleton {Error : Type} (filter : Filter Error) (message : Message)
    (context : PipelineContext)
    : (runFilters [filter] message context).context
      = (filter.apply message context).context := by
  simp only [runFilters]
  split <;> rfl

/-- A chain annotates under the keys of its filters. -/
theorem runFilters_annotated {Error : Type} {keys : List String}
    (filters : List (Filter Error))
    (each : ∀ filter ∈ filters, filter.AnnotatesUnder keys) (message : Message)
    (context : PipelineContext)
    : PipelineContext.Annotated keys context (runFilters filters message context).context := by
  have kept
      : ∀ filter ∈ filters, ∀ sent between,
          PipelineContext.Annotated keys context between
          → PipelineContext.Annotated keys context (filter.apply sent between).context := by
    intro filter member sent between annotated
    exact annotated.trans (each filter member sent between)
  exact runFilters_keeps filters kept message context (.refl keys context)

theorem Filter.AnnotatesUnder.mono {Error : Type} {filter : Filter Error}
    {keys more : List String} (annotates : filter.AnnotatesUnder keys) (within : keys ⊆ more)
    : filter.AnnotatesUnder more :=
  fun message context =>
    {
      grows := (annotates message context).grows
      elsewhere := fun key outside =>
        (annotates message context).elsewhere key (fun member => outside (within member))
    }

theorem mem_whenEnabled {Error : Type} {enabled : Bool} {filter other : Filter Error}
    (member : other ∈ whenEnabled enabled filter)
    : enabled = true ∧ other = filter := by
  cases enabled with
  | false => contradiction
  | true => exact ⟨rfl, List.mem_singleton.mp member⟩

-----------------------------------------------------------------------------------------
-- The keys of each filter
-----------------------------------------------------------------------------------------

theorem inputSanitizationFilter_annotates (config : InputSanitizationConfig)
    : (inputSanitizationFilter config).AnnotatesUnder [] := by
  intro message context
  simp only [inputSanitizationFilter, InputSanitizationConfig.apply]
  split
  · exact .refl _ context
  · split <;> exact .refl _ context

theorem resultSizeEnforcementFilter_annotates (maxChars : Nat)
    : (resultSizeEnforcementFilter maxChars).AnnotatesUnder ["result_truncated"] := by
  intro message context
  simp only [resultSizeEnforcementFilter, resultSizeApply]
  split
  · exact .refl _ context
  · split
    · exact .refl _ context
    · exact context.annotate_annotated List.mem_cons_self _

theorem piiLeakDetectionFilter_annotates (tables : UnicodeTables) (action : PIILeakAction)
    : (piiLeakDetectionFilter tables action).AnnotatesUnder
        ["outbound_pii_redacted", "outbound_pii_flagged"] := by
  intro message context
  simp only [piiLeakDetectionFilter, piiLeakDetectionApply]
  split
  · exact .refl _ context
  · cases action with
    | redact => exact context.annotateAll_annotated (by simp) _
    | block => exact .refl _ context
    | flag => exact context.annotateAll_annotated (by simp) _

theorem injectionEchoFilter_annotates (tables : UnicodeTables) (action : InjectionEchoAction)
    : (injectionEchoFilter tables action).AnnotatesUnder ["injection_echo_detected"] := by
  intro message context
  simp only [injectionEchoFilter, injectionEchoApply]
  split
  · exact .refl _ context
  · exact .refl _ context
  · split
    · exact .refl _ context
    · cases action with
      | block => exact .refl _ context
      | flag => exact context.annotateAll_annotated List.mem_cons_self _
      | log => exact .refl _ context

theorem responseClassifierFilter_annotates (tables : UnicodeTables)
    (action : ResponseClassifierAction)
    : (responseClassifierFilter tables action).AnnotatesUnder
        [
          "response_classified_redacted",
          "response_classifier_action",
          "response_classified_flagged"
        ] := by
  intro message context
  simp only [responseClassifierFilter, responseClassifierApply]
  split
  · exact .refl _ context
  · cases action with
    | block => exact .refl _ context
    | redact =>
        apply PipelineContext.Annotated.trans (context.annotateAll_annotated ?_ _)
        · apply PipelineContext.annotate_annotated
          simp
        · simp
    | flag => exact context.annotateAll_annotated (by simp) _

theorem hallucinationFlagFilter_annotates (tables : UnicodeTables)
    : (hallucinationFlagFilter tables).AnnotatesUnder
        ["hallucination_flagged_url", "hallucination_confidence"] := by
  intro message context
  simp only [hallucinationFlagFilter, hallucinationFlagApply]
  split
  · exact .refl _ context
  · apply PipelineContext.Annotated.trans (context.annotateAll_annotated ?_ _)
    · apply PipelineContext.annotate_annotated
      simp
    · simp

-----------------------------------------------------------------------------------------
-- The configured chains
-----------------------------------------------------------------------------------------

/-- The keys the outbound filters annotate under. -/
def outboundKeys : List String :=
  [
    "result_truncated",
    "outbound_pii_redacted",
    "outbound_pii_flagged",
    "injection_echo_detected",
    "response_classified_redacted",
    "response_classifier_action",
    "response_classified_flagged",
    "hallucination_flagged_url",
    "hallucination_confidence"
  ]

/-- The filters a configured outbound chain may hold. -/
theorem mem_outboundFilters {tables : UnicodeTables} {config : PipelineConfig}
    {filter : Filter Failure}
    (member : filter ∈ (PipelineChain.fromConfig tables config).outboundFilters)
    : filter = resultSizeEnforcementFilter config.outbound.resultSize.maxChars
      ∨ filter = piiLeakDetectionFilter tables .redact
      ∨ filter = injectionEchoFilter tables .flag
      ∨ filter = responseClassifierFilter tables .flag
      ∨ filter = hallucinationFlagFilter tables := by
  simp only [PipelineChain.fromConfig, List.mem_append] at member
  rcases member with (((sized | masked) | echo) | classified) | urls
  · exact .inl (mem_whenEnabled sized).2
  · exact .inr (.inl (mem_whenEnabled masked).2)
  · exact .inr (.inr (.inl (mem_whenEnabled echo).2))
  · exact .inr (.inr (.inr (.inl (mem_whenEnabled classified).2)))
  · exact .inr (.inr (.inr (.inr (mem_whenEnabled urls).2)))

/-- A configured outbound chain only adds annotations, under its own keys. -/
theorem PipelineChain.runOutbound_annotated (tables : UnicodeTables) (config : PipelineConfig)
    (message : Message) (context : PipelineContext)
    : PipelineContext.Annotated outboundKeys context
        ((fromConfig tables config).runOutbound message context).context := by
  apply runFilters_annotated
  intro filter member
  rcases mem_outboundFilters member with rfl | rfl | rfl | rfl | rfl
  · exact (resultSizeEnforcementFilter_annotates _).mono (by simp [outboundKeys])
  · exact (piiLeakDetectionFilter_annotates tables _).mono (by simp [outboundKeys])
  · exact (injectionEchoFilter_annotates tables _).mono (by simp [outboundKeys])
  · exact (responseClassifierFilter_annotates tables _).mono (by simp [outboundKeys])
  · exact (hallucinationFlagFilter_annotates tables).mono (by simp [outboundKeys])

/-- Two outbound chains that agree on the size limit and on leak detection both succeed and
deliver the same message, whatever they flag, and keep every annotation made before.
-/
theorem PipelineChain.flagging_observes (tables : UnicodeTables)
    (first second : PipelineConfig)
    (sized : first.outbound.resultSize = second.outbound.resultSize)
    (masked : first.outbound.piiLeakDetection = second.outbound.piiLeakDetection)
    (message : Message) (context : PipelineContext)
    : let ranFirst := (fromConfig tables first).runOutbound message context
      let ranSecond := (fromConfig tables second).runOutbound message context
      ranFirst.result = .ok ()
      ∧ ranSecond.result = .ok ()
      ∧ ranFirst.message.content = ranSecond.message.content
      ∧ ranFirst.message.toolCalls = ranSecond.message.toolCalls
      ∧ ranFirst.message.toolResults = ranSecond.message.toolResults
      ∧ ∀ key values, context.getAnnotations key = some values
        → (∃ later, ranFirst.context.getAnnotations key = some later ∧ values <+: later)
          ∧ ∃ later, ranSecond.context.getAnnotations key = some later ∧ values <+: later := by
  have rewritesFirst := fromConfig_outbound tables first
  have rewritesSecond := fromConfig_outbound tables second
  have same : first.outbound.rewrite tables = second.outbound.rewrite tables := by
    funext content
    simp only [OutboundConfig.rewrite, sized, masked]
  have messages
      : ((fromConfig tables first).runOutbound message context).message
        = ((fromConfig tables second).runOutbound message context).message := by
    simp only [runOutbound, rewritesFirst.message, rewritesSecond.message, same]
  refine ⟨rewritesFirst.ok message context, rewritesSecond.ok message context, ?_⟩
  rw [messages]
  refine ⟨rfl, rfl, rfl, fun key values found => ⟨?_, ?_⟩⟩
  · exact (runOutbound_annotated tables first message context).grows key values found
  · exact (runOutbound_annotated tables second message context).grows key values found

/-- A chain with every flagging filter enabled. -/
def allFlags : PipelineConfig :=
  {
    outbound :=
      {
        injectionEcho := { enabled := true }
        responseClassifier := { enabled := true }
        hallucinationFlag := { enabled := true }
      }
  }

/-- Flagging everything against flagging nothing. -/
theorem PipelineChain.flagging_observes_example
    : ((fromConfig asciiTables allFlags).runOutbound
        (assistantText "I am now at https://a.io") (.new "r" "s")).message.content
      = ((fromConfig asciiTables {}).runOutbound
          (assistantText "I am now at https://a.io") (.new "r" "s")).message.content :=
  (flagging_observes asciiTables allFlags {} rfl rfl (assistantText "I am now at https://a.io")
    (.new "r" "s")).2.2.1

end Intellisphere.Sphere
