import Intellisphere.Foundation.Meter
import Intellisphere.Sphere.Pipeline.ContentClassifier
import Intellisphere.Sphere.Pipeline.Inbound
import Intellisphere.Sphere.Pipeline.InboundRedaction
import Intellisphere.Sphere.Pipeline.TokenBudget

/-! A conversation: several messages through one chain of inbound filters with one context.
The filters come in any order. Those that bound the conversation keep their counts in the
context, where later filters and later messages find them.
-/

namespace Intellisphere.Sphere

open Intellisphere.Foundation

-----------------------------------------------------------------------------------------
-- The filters that no other module has
-----------------------------------------------------------------------------------------

structure ConversationBoundaryFilter where
  maxTurns : Option UInt32
  maxContextTokens : Option UInt64

/-- The refusal of a message to a conversation with too many tokens. -/
def ConversationBoundaryFilter.contextRefusal (filter : ConversationBoundaryFilter)
    (context : PipelineContext)
    : Option SphereError :=
  match filter.maxContextTokens, context.sessionTokenCount with
  | some max, some sessionTokens =>
      if sessionTokens > max then
        some
          (.filterRejected "ConversationBoundary"
            ("Context window exceeded: " ++ toString sessionTokens ++ " tokens (max "
              ++ toString max ++ ")"))
      else none
  | _, _ => none

/-- Check the tokens of the conversation. -/
def ConversationBoundaryFilter.checkContext (filter : ConversationBoundaryFilter)
    (message : Message) (context : PipelineContext)
    : FilterRun SphereError :=
  match filter.contextRefusal context with
  | some error => { result := .error error, message, context }
  | none => { result := .ok (), message, context }

/-- Count the turn, which is a machine integer that wraps around, and check both limits. -/
def ConversationBoundaryFilter.apply (filter : ConversationBoundaryFilter)
    (message : Message) (context : PipelineContext)
    : FilterRun SphereError :=
  match filter.maxTurns with
  | none => filter.checkContext message context
  | some max =>
      let current := context.turnCount.getD 0
      let newCount := current + 1
      let context := { context with turnCount := some newCount }
      if newCount > max then
        {
          result :=
            .error
              (.filterRejected "ConversationBoundary"
                ("Session exceeded maximum turns: " ++ toString newCount ++ " (max "
                  ++ toString max ++ ")"))
          message
          context
        }
      else filter.checkContext message context

structure TopicRule where
  name : String
  keywords : List String
  threshold : Nat

structure TopicGuardrailFilter where
  allowedTopics : List TopicRule
  blockedTopics : List TopicRule

/-- The keywords of a filter are lower-cased when it is made. -/
def TopicGuardrailFilter.new (tables : UnicodeTables)
    (allowedTopics blockedTopics : List TopicRule)
    : TopicGuardrailFilter :=
  let lowercased (rule : TopicRule) : TopicRule :=
    { rule with keywords := rule.keywords.map tables.lowercase }
  {
    allowedTopics := allowedTopics.map lowercased
    blockedTopics := blockedTopics.map lowercased
  }

def countMatches (tables : UnicodeTables) (content : String) (rule : TopicRule) : Nat :=
  rule.keywords.countP
    (fun keyword => containsText (tables.lowercase content).toList keyword.toList)

/-- The text is on the topic of a rule. -/
def TopicRule.matchesTopic (tables : UnicodeTables) (content : String) (rule : TopicRule)
    : Bool :=
  rule.threshold ≤ countMatches tables content rule

/-- Blocked topics come first. -/
def TopicGuardrailFilter.apply (tables : UnicodeTables) (filter : TopicGuardrailFilter)
    (message : Message) (context : PipelineContext)
    : FilterRun SphereError :=
  match filter.blockedTopics.find? (TopicRule.matchesTopic tables message.content) with
  | some rule =>
      {
        result :=
          .error
            (.filterRejected "TopicGuardrail" ("Blocked topic detected: " ++ rule.name))
        message
        context
      }
  | none =>
      if !filter.allowedTopics.isEmpty
          && !filter.allowedTopics.any (TopicRule.matchesTopic tables message.content) then
        {
          result :=
            .error
              (.filterRejected "TopicGuardrail" "Message does not match any allowed topic")
          message
          context
        }
      else { result := .ok (), message, context }

-----------------------------------------------------------------------------------------
-- Chains and conversations
-----------------------------------------------------------------------------------------

/-- The inbound filters there are. -/
inductive InboundFilter where
  | inputSanitization (config : InputSanitizationConfig)
  | piiRedaction (strategy : RedactionStrategy)
  | contentClassifier (mode : ClassifierMode) (customPatterns : List Regex)
  | topicGuardrail (filter : TopicGuardrailFilter)
  | tokenBudget (filter : TokenBudgetFilter)
  | conversationBoundary (filter : ConversationBoundaryFilter)

def InboundFilter.toFilter (tables : UnicodeTables) : InboundFilter → Filter SphereError
  | .inputSanitization config => inputSanitizationFilter config
  | .piiRedaction strategy => piiRedactionFilter tables strategy
  | .contentClassifier mode customPatterns =>
      contentClassifierFilter tables mode customPatterns
  | .topicGuardrail filter => { name := "TopicGuardrail", apply := filter.apply tables }
  | .tokenBudget filter => tokenBudgetFilter filter
  | .conversationBoundary filter =>
      { name := "ConversationBoundary", apply := filter.apply }

section Conversation

variable (tables : UnicodeTables)

/-- Run the filters of a chain on a message. -/
def runInbound (chain : List InboundFilter) (message : Message) (context : PipelineContext)
    : FilterRun SphereError :=
  runFilters (chain.map (InboundFilter.toFilter tables)) message context

/-- Messages go through a chain one after the other, with one context. -/
def conversation (chain : List InboundFilter)
    : Machine PipelineContext Message (FilterRun SphereError) where
  step context message :=
    let run := runInbound tables chain message context
    some (run.context, run)

/-- What `measure` sees of a message that is accepted, when it comes to the filters after
`before`.
-/
def accepted? (chain before : List InboundFilter) (measure : Message → Nat)
    (context : PipelineContext) (message : Message)
    : Option Nat :=
  if (runInbound tables chain message context).result = .ok () then
    some (measure (runInbound tables before message context).message)
  else none

end Conversation

abbrev ConversationTrace :=
  List (Message × FilterRun SphereError)

/-- How many messages were accepted. -/
def acceptedCount (trace : ConversationTrace) : Nat :=
  trace.countP (fun entry => entry.2.result = .ok ())

/-- What `measure` sees of all accepted messages of a conversation. -/
def acceptedMeasures (tables : UnicodeTables) (chain before : List InboundFilter)
    (measure : Message → Nat) (context : PipelineContext) (trace : ConversationTrace)
    : List Nat :=
  (conversation tables chain).observed
    (Machine.noting (accepted? tables chain before measure)) context trace

/-- The tokens of the accepted messages, as estimated after the filters in `before`. -/
def acceptedTokens (tables : UnicodeTables) (chain before : List InboundFilter)
    (context : PipelineContext) (trace : ConversationTrace)
    : Nat :=
  paidTogether
    (acceptedMeasures tables chain before
      (fun message => (estimateTokens message.content).toNat) context trace)

-----------------------------------------------------------------------------------------
-- What the filters do to the counts
-----------------------------------------------------------------------------------------

/-- The turns counted so far. -/
def PipelineContext.turns (context : PipelineContext) : Nat :=
  (context.turnCount.getD 0).toNat

/-- The tokens counted so far. -/
def PipelineContext.tokens (context : PipelineContext) : Nat :=
  (context.sessionTokenCount.getD 0).toNat

/-- The second context is for the same identity, and no sizes of results were recorded between
them.
-/
structure Settled (context after : PipelineContext) : Prop where
  identity : after.identity = context.identity
  resultSizes : after.getAnnotations "result_size" = context.getAnnotations "result_size"

/-- The counts are the same, too. -/
structure SameView (context after : PipelineContext) : Prop extends Settled context after where
  turnCount : after.turnCount = context.turnCount
  sessionTokenCount : after.sessionTokenCount = context.sessionTokenCount

theorem Settled.refl (context : PipelineContext) : Settled context context :=
  ⟨rfl, rfl⟩

theorem Settled.trans {first second third : PipelineContext}
    (left : Settled first second) (right : Settled second third)
    : Settled first third :=
  ⟨right.identity.trans left.identity, right.resultSizes.trans left.resultSizes⟩

theorem SameView.refl (context : PipelineContext) : SameView context context :=
  ⟨.refl context, rfl, rfl⟩

theorem SameView.trans {first second third : PipelineContext}
    (left : SameView first second) (right : SameView second third)
    : SameView first third :=
  ⟨left.toSettled.trans right.toSettled, right.turnCount.trans left.turnCount,
    right.sessionTokenCount.trans left.sessionTokenCount⟩

/-- Annotations under other keys. -/
theorem annotate_sameView (context : PipelineContext) {key : String}
    (other : "result_size" ≠ key) (value : String)
    : SameView context (context.annotate key value) :=
  ⟨⟨rfl, context.getAnnotations_annotate_of_ne value other⟩, rfl, rfl⟩

theorem annotateAll_sameView (context : PipelineContext) {key : String}
    (other : "result_size" ≠ key) (values : List String)
    : SameView context (context.annotateAll key values) := by
  unfold PipelineContext.annotateAll
  induction values generalizing context with
  | nil => exact .refl context
  | cons value rest ih => exact (annotate_sameView context other value).trans (ih _)

theorem redactMatches_sameView (tables : UnicodeTables) (strategy : RedactionStrategy)
    (patterns : List RedactionPattern) (content : List Char) (detectedCount : UInt32)
    (context : PipelineContext)
    : SameView context
        (redactMatches tables strategy patterns content detectedCount context).2.2 := by
  induction patterns generalizing content detectedCount context with
  | nil => exact .refl context
  | cons entity rest ih =>
      rw [redactMatches]
      split
      · exact (annotate_sameView context (by decide) _).trans (ih _ _ _)
      · exact ih _ _ _

/-- The filter keeps a count in the context. -/
def InboundFilter.counts : InboundFilter → Bool
  | .tokenBudget _ | .conversationBoundary _ => true
  | _ => false

theorem InboundFilter.apply_sameView (tables : UnicodeTables) {filter : InboundFilter}
    (silent : filter.counts = false) (message : Message) (context : PipelineContext)
    : SameView context ((filter.toFilter tables).apply message context).context := by
  cases filter with
  | inputSanitization config =>
      show SameView context (config.apply message context).context
      unfold InputSanitizationConfig.apply
      split
      · exact .refl context
      · split <;> exact .refl context
  | piiRedaction strategy =>
      show SameView context (piiRedactionApply tables strategy message context).context
      have redacted := redactMatches_sameView tables strategy (redactionPatterns tables)
        message.content.toList 0 context
      unfold piiRedactionApply
      dsimp only
      split
      · exact redacted.trans (annotate_sameView _ (by decide) _)
      · exact redacted
  | contentClassifier mode customPatterns =>
      show SameView context
        (contentClassifierApply tables mode customPatterns message context).context
      unfold contentClassifierApply
      dsimp only
      split
      · exact .refl context
      · split
        · exact .refl context
        · exact annotateAll_sameView context (by decide) _
        · exact .refl context
  | topicGuardrail filter =>
      show SameView context (filter.apply tables message context).context
      unfold TopicGuardrailFilter.apply
      split
      · exact .refl context
      · split <;> exact .refl context
  | tokenBudget filter => contradiction
  | conversationBoundary filter => contradiction

theorem checkContext_context (filter : ConversationBoundaryFilter) (message : Message)
    (context : PipelineContext)
    : (filter.checkContext message context).context = context := by
  unfold ConversationBoundaryFilter.checkContext
  split <;> rfl

/-- A boundary filter with a limit on turns counts every message it sees. -/
theorem boundary_context (filter : ConversationBoundaryFilter) (message : Message)
    (context : PipelineContext)
    : (filter.apply message context).context
      = if filter.maxTurns.isSome then
          { context with turnCount := some (context.turnCount.getD 0 + 1) }
        else context := by
  unfold ConversationBoundaryFilter.apply
  cases filter.maxTurns with
  | none => exact checkContext_context filter message context
  | some max =>
      dsimp only [Option.isSome_some]
      rw [if_pos rfl]
      split
      · rfl
      · exact checkContext_context filter message _

/-- The filter charges the session for a message. -/
def TokenBudgetFilter.charges (filter : TokenBudgetFilter) (message : Message) : Bool :=
  (filter.inputRefusal (estimateTokens message.content)).isNone
  && filter.maxSessionTokens.isSome

/-- A token budget charges the session whether it then accepts the message or not. -/
theorem tokenBudget_context (filter : TokenBudgetFilter) (message : Message)
    (context : PipelineContext)
    : let estimated := estimateTokens message.content
      (filter.apply message context).context
      = {
          context with
          inputTokenCount := some estimated
          sessionTokenCount :=
            if filter.charges message then
              some (context.sessionTokenCount.getD 0 + estimated.toUInt64)
            else context.sessionTokenCount
        } := by
  dsimp only
  unfold TokenBudgetFilter.apply TokenBudgetFilter.charges
  dsimp only
  cases filter.inputRefusal (estimateTokens message.content) with
  | some error => rfl
  | none =>
      cases filter.maxSessionTokens with
      | none => rfl
      | some max =>
          dsimp only
          split <;> rfl

/-- Each count is the same, or it went up: the turns by one, the tokens by an estimate. -/
structure Counted (context after : PipelineContext) : Prop where
  turnCount
    : after.turnCount = context.turnCount
      ∨ after.turnCount = some (context.turnCount.getD 0 + 1)
  sessionTokenCount
    : after.sessionTokenCount = context.sessionTokenCount
      ∨ ∃ estimated : UInt32,
          after.sessionTokenCount
          = some (context.sessionTokenCount.getD 0 + estimated.toUInt64)

theorem SameView.counted {context after : PipelineContext} (same : SameView context after)
    : Counted context after :=
  ⟨.inl same.turnCount, .inl same.sessionTokenCount⟩

/-- No filter does more to the counts. -/
theorem InboundFilter.apply_counted (tables : UnicodeTables) (filter : InboundFilter)
    (message : Message) (context : PipelineContext)
    : Counted context ((filter.toFilter tables).apply message context).context := by
  cases silent : filter.counts with
  | false => exact (filter.apply_sameView tables silent message context).counted
  | true =>
      cases filter with
      | tokenBudget filter =>
          show Counted context (filter.apply message context).context
          rw [tokenBudget_context]
          refine ⟨.inl rfl, ?_⟩
          dsimp only
          split
          · exact .inr ⟨estimateTokens message.content, rfl⟩
          · exact .inl rfl
      | conversationBoundary filter =>
          show Counted context (filter.apply message context).context
          rw [boundary_context]
          split
          · exact ⟨.inr rfl, .inl rfl⟩
          · exact ⟨.inl rfl, .inl rfl⟩
      | inputSanitization config => contradiction
      | piiRedaction strategy => contradiction
      | contentClassifier mode customPatterns => contradiction
      | topicGuardrail filter => contradiction

-----------------------------------------------------------------------------------------
-- Readings
-----------------------------------------------------------------------------------------

/-- A reading of the context that filters raise by a unit at most, as long as it has room. -/
structure Raised (reading : PipelineContext → Nat) (unit capacity : Nat) : Prop where
  raises {context after : PipelineContext} (counted : Counted context after)
    (room : reading context + unit ≤ capacity)
    : reading context ≤ reading after ∧ reading after ≤ reading context + unit

theorem turns_raised : Raised PipelineContext.turns 1 4294967295 where
  raises {context after} counted room := by
    unfold PipelineContext.turns at room ⊢
    rcases counted.turnCount with same | up
    · rw [same]
      omega
    · rw [up, Option.getD_some, UInt32.toNat_add]
      have exact : (context.turnCount.getD 0).toNat + UInt32.toNat 1 < 4294967296 := by
        simpa using Nat.lt_succ_of_le room
      rw [Nat.mod_eq_of_lt exact]
      simp

theorem tokens_raised
    : Raised PipelineContext.tokens 4294967295 18446744073709551615 where
  raises {context after} counted room := by
    unfold PipelineContext.tokens at room ⊢
    rcases counted.sessionTokenCount with same | ⟨estimated, up⟩
    · rw [same]
      omega
    · have small := estimated.toNat_lt
      rw [up, Option.getD_some, UInt64.toNat_add, UInt32.toNat_toUInt64]
      omega

section Chain

variable {tables : UnicodeTables} {reading : PipelineContext → Nat} {unit capacity : Nat}

/-- A chain raises a reading by a unit for each of its filters. By induction on the chain. -/
theorem Raised.runInbound (raised : Raised reading unit capacity)
    (chain : List InboundFilter) (message : Message) (context : PipelineContext)
    (room : reading context + chain.length * unit ≤ capacity)
    : reading context ≤ reading (runInbound tables chain message context).context
      ∧ reading (runInbound tables chain message context).context
        ≤ reading context + chain.length * unit := by
  induction chain generalizing message context with
  | nil => exact ⟨Nat.le_refl _, Nat.le_add_right _ _⟩
  | cons filter rest ih =>
      rw [List.length_cons, Nat.add_mul, Nat.one_mul] at room ⊢
      obtain ⟨up, low⟩ :=
        raised.raises (filter.apply_counted tables message context) (by omega)
      unfold Sphere.runInbound
      rw [List.map_cons, runFilters]
      split
      · obtain ⟨rises, bounded⟩ :=
          ih ((filter.toFilter tables).apply message context).message
            ((filter.toFilter tables).apply message context).context (by omega)
        unfold Sphere.runInbound at rises bounded
        exact ⟨by omega, by omega⟩
      · exact ⟨up, by omega⟩

-----------------------------------------------------------------------------------------
-- A filter in its chain
-----------------------------------------------------------------------------------------

theorem runFilters_append_result {first second : List (Filter SphereError)}
    {message : Message} {context : PipelineContext}
    (ok : (runFilters (first ++ second) message context).result = .ok ())
    : (runFilters first message context).result = .ok () := by
  induction first generalizing message context with
  | nil => rfl
  | cons filter rest ih =>
      simp only [List.cons_append, runFilters] at ok ⊢
      cases applied : (filter.apply message context).result with
      | ok done =>
          simp only [applied] at ok ⊢
          exact ih ok
      | error failure =>
          simp only [applied] at ok
          contradiction

/-- An accepted message passes each filter of the chain, with what the filters before it left
and on to those after it.
-/
theorem runInbound_passes {before after : List InboundFilter} {filter : InboundFilter}
    {message : Message} {context : PipelineContext}
    (ok
      : (runInbound tables (before ++ filter :: after) message context).result = .ok ())
    : let seen := runInbound tables before message context
      let run := (filter.toFilter tables).apply seen.message seen.context
      run.result = .ok ()
      ∧ runInbound tables (before ++ filter :: after) message context
        = runInbound tables after run.message run.context := by
  dsimp only
  unfold runInbound at ok ⊢
  rw [List.map_append, List.map_cons] at ok ⊢
  have passed := runFilters_append_result ok
  rw [runFilters_append _ _ _ _ passed] at ok ⊢
  generalize runFilters (before.map (InboundFilter.toFilter tables)) message context = seen
    at ok ⊢
  cases applied : ((filter.toFilter tables).apply seen.message seen.context).result with
  | ok done => exact ⟨rfl, runFilters_cons_ok applied⟩
  | error failure => simp [runFilters, applied] at ok

/-- What a reading is when a filter of a chain sees an accepted message, and after it. -/
theorem Raised.runInbound_passes (raised : Raised reading unit capacity)
    {before after : List InboundFilter} {filter : InboundFilter} {message : Message}
    {context : PipelineContext}
    (room : reading context + (before ++ filter :: after).length * unit ≤ capacity)
    (ok
      : (Sphere.runInbound tables (before ++ filter :: after) message context).result
        = .ok ())
    : let seen := Sphere.runInbound tables before message context
      let run := (filter.toFilter tables).apply seen.message seen.context
      run.result = .ok ()
      ∧ reading context ≤ reading seen.context
      ∧ reading run.context
        ≤ reading
            (Sphere.runInbound tables (before ++ filter :: after) message context).context
      ∧ reading seen.context + unit ≤ capacity
      ∧ reading run.context + after.length * unit ≤ capacity := by
  obtain ⟨passed, onward⟩ := Sphere.runInbound_passes ok
  dsimp only at passed onward ⊢
  rw [List.length_append, List.length_cons, Nat.add_mul, Nat.add_mul, Nat.one_mul] at room
  obtain ⟨first, firstUp⟩ :=
    @Raised.runInbound tables reading unit capacity raised before message context
      (by omega)
  obtain ⟨own, ownUp⟩ :=
    raised.raises
      (filter.apply_counted tables (Sphere.runInbound tables before message context).message
        (Sphere.runInbound tables before message context).context)
      (by omega)
  rw [onward]
  refine ⟨passed, first, ?_, by omega, by omega⟩
  exact (raised.runInbound after _ _ (by omega)).1

end Chain

end Intellisphere.Sphere
