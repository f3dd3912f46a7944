import Intellisphere.Sphere.Pipeline.Conversation

/-! A session: messages from the client and from the model, in any order, through chains of
inbound and outbound filters with one context. What the filters count is added up exactly, and
what they leave alone stays as it was throughout.
-/

namespace Intellisphere.Sphere

open Intellisphere.Foundation

/-- The outbound filters there are. -/
inductive OutboundFilter where
  | resultSizeEnforcement (maxChars : Nat)
  | piiLeakDetection (action : PIILeakAction)
  | injectionEcho (action : InjectionEchoAction)
  | responseClassifier (action : ResponseClassifierAction)
  | hallucinationFlag

def OutboundFilter.toFilter (tables : UnicodeTables) : OutboundFilter → Filter Failure
  | .resultSizeEnforcement maxChars => resultSizeEnforcementFilter maxChars
  | .piiLeakDetection action => piiLeakDetectionFilter tables action
  | .injectionEcho action => injectionEchoFilter tables action
  | .responseClassifier action => responseClassifierFilter tables action
  | .hallucinationFlag => hallucinationFlagFilter tables

/-- A message of the client or of the model. -/
inductive SessionMessage where
  | inbound (message : Message)
  | outbound (message : Message)

inductive SessionRun where
  | inbound (run : FilterRun SphereError)
  | outbound (run : FilterRun Failure)

def SessionRun.context : SessionRun → PipelineContext
  | .inbound run => run.context
  | .outbound run => run.context

/-- The two chains of a session. -/
structure SessionChains where
  inbound : List InboundFilter
  outbound : List OutboundFilter

/-- The chains that a configuration builds. -/
def PipelineConfig.sessionChains (config : PipelineConfig) : SessionChains where
  inbound :=
    if config.inbound.inputSanitization.enabled then
      [.inputSanitization config.inbound.inputSanitization]
    else []
  outbound :=
    (if config.outbound.resultSize.enabled then
      [.resultSizeEnforcement config.outbound.resultSize.maxChars]
    else [])
    ++ (if config.outbound.piiLeakDetection.enabled then [.piiLeakDetection .redact] else [])
    ++ (if config.outbound.injectionEcho.enabled then [.injectionEcho .flag] else [])
    ++ (if config.outbound.responseClassifier.enabled then [.responseClassifier .flag] else [])
    ++ (if config.outbound.hallucinationFlag.enabled then [.hallucinationFlag] else [])

section Session

variable (tables : UnicodeTables) (chains : SessionChains)

/-- Run the filters of the chain for a message. -/
def SessionChains.run (message : SessionMessage) (context : PipelineContext) : SessionRun :=
  match message with
  | .inbound message => .inbound (runInbound tables chains.inbound message context)
  | .outbound message =>
      .outbound
        (runFilters (chains.outbound.map (OutboundFilter.toFilter tables)) message context)

/-- Messages go through the chains one after the other, with one context. -/
def session : Machine PipelineContext SessionMessage SessionRun where
  step context message :=
    let run := chains.run tables message context
    some (run.context, run)

end Session

/-- The chains of a configuration are those of its pipeline. -/
theorem PipelineChain.fromConfig_sessionChains (tables : UnicodeTables)
    (config : PipelineConfig)
    : fromConfig tables config
      = {
          inboundFilters := config.sessionChains.inbound.map (InboundFilter.toFilter tables)
          outboundFilters := config.sessionChains.outbound.map (OutboundFilter.toFilter tables)
        } := by
  unfold fromConfig PipelineConfig.sessionChains whenEnabled
  simp only [List.map_append, apply_ite (List.map _), List.map_cons, List.map_nil]
  rfl

-----------------------------------------------------------------------------------------
-- What filters leave alone
-----------------------------------------------------------------------------------------

/-- Outbound filters annotate the context and do nothing else to it. -/
theorem OutboundFilter.apply_sameView (tables : UnicodeTables) (filter : OutboundFilter)
    (message : Message) (context : PipelineContext)
    : SameView context ((filter.toFilter tables).apply message context).context := by
  cases filter with
  | resultSizeEnforcement maxChars =>
      show SameView context (resultSizeApply maxChars message context).context
      unfold resultSizeApply
      dsimp only
      split
      · exact .refl context
      · split
        · exact .refl context
        · exact annotate_sameView context (by decide) _
  | piiLeakDetection action =>
      show SameView context (piiLeakDetectionApply tables action message context).context
      unfold piiLeakDetectionApply
      dsimp only
      split
      · exact .refl context
      · cases action with
        | redact => exact annotateAll_sameView context (by decide) _
        | block => exact .refl context
        | flag => exact annotateAll_sameView context (by decide) _
  | injectionEcho action =>
      show SameView context (injectionEchoApply tables action message context).context
      unfold injectionEchoApply
      split
      · exact .refl context
      · exact .refl context
      · dsimp only
        split
        · exact .refl context
        · cases action with
          | block => exact .refl context
          | flag => exact annotateAll_sameView context (by decide) _
          | log => exact .refl context
  | responseClassifier action =>
      show SameView context (responseClassifierApply tables action message context).context
      unfold responseClassifierApply
      dsimp only
      split
      · exact .refl context
      · cases action with
        | block => exact .refl context
        | redact =>
            exact (annotateAll_sameView context (by decide) _).trans
              (annotate_sameView _ (by decide) _)
        | flag => exact annotateAll_sameView context (by decide) _
  | hallucinationFlag =>
      show SameView context (hallucinationFlagApply tables message context).context
      unfold hallucinationFlagApply
      dsimp only
      split
      · exact .refl context
      · exact (annotateAll_sameView context (by decide) _).trans
          (annotate_sameView _ (by decide) _)

/-- No inbound filter touches the identity or records the size of a result. -/
theorem InboundFilter.apply_settled (tables : UnicodeTables) (filter : InboundFilter)
    (message : Message) (context : PipelineContext)
    : Settled context ((filter.toFilter tables).apply message context).context := by
  cases silent : filter.counts with
  | false => exact (filter.apply_sameView tables silent message context).toSettled
  | true =>
      cases filter with
      | tokenBudget filter =>
          show Settled context (filter.apply message context).context
          rw [tokenBudget_context]
          exact ⟨rfl, rfl⟩
      | conversationBoundary filter =>
          show Settled context (filter.apply message context).context
          rw [boundary_context]
          split
          · exact ⟨rfl, rfl⟩
          · exact .refl context
      | inputSanitization config => contradiction
      | piiRedaction strategy => contradiction
      | contentClassifier mode customPatterns => contradiction
      | topicGuardrail filter => contradiction

section Chain

variable {tables : UnicodeTables} {chains : SessionChains}

theorem runOutbound_sameView (filters : List OutboundFilter) (message : Message)
    (context : PipelineContext)
    : let chain := filters.map (OutboundFilter.toFilter tables)
      SameView context (runFilters chain message context).context := by
  have kept
      : ∀ filter ∈ filters.map (OutboundFilter.toFilter tables), ∀ sent between,
          SameView context between
          → SameView context (filter.apply sent between).context := by
    intro filter member sent between same
    obtain ⟨kind, _, rfl⟩ := List.mem_map.mp member
    exact same.trans (kind.apply_sameView tables sent between)
  exact runFilters_keeps _ kept message context (.refl context)

theorem runInbound_settled (chain : List InboundFilter) (message : Message)
    (context : PipelineContext)
    : Settled context (runInbound tables chain message context).context := by
  have kept
      : ∀ filter ∈ chain.map (InboundFilter.toFilter tables), ∀ sent between,
          Settled context between → Settled context (filter.apply sent between).context := by
    intro filter member sent between settled
    obtain ⟨kind, _, rfl⟩ := List.mem_map.mp member
    exact settled.trans (kind.apply_settled tables sent between)
  exact runFilters_keeps _ kept message context (.refl context)

theorem session_step {context next : PipelineContext} {message : SessionMessage}
    {run : SessionRun}
    (stepped : (session tables chains).step context message = some (next, run))
    : run = chains.run tables message context ∧ next = run.context := by
  obtain ⟨rfl, rfl⟩ := Prod.mk.inj (Option.some.inj stepped)
  exact ⟨rfl, rfl⟩

/-- A session is for one identity, and no sizes of results are recorded in it. -/
theorem session_settled {start finish : PipelineContext}
    {trace : List (SessionMessage × SessionRun)}
    (run : (session tables chains).Run start trace finish)
    : Settled start finish := by
  refine run.invariant (fun context => Settled start context) ?_ (.refl start)
  intro context message next output settled stepped
  obtain ⟨rfl, rfl⟩ := session_step stepped
  cases message with
  | inbound message => exact settled.trans (runInbound_settled chains.inbound message context)
  | outbound message =>
      exact settled.trans (runOutbound_sameView chains.outbound message context).toSettled

end Chain

-----------------------------------------------------------------------------------------
-- What filters count
-----------------------------------------------------------------------------------------

/-- The turns that a filter counts for a message. -/
def InboundFilter.turns : InboundFilter → Message → Nat
  | .conversationBoundary filter, _ => if filter.maxTurns.isSome then 1 else 0
  | _, _ => 0

/-- The tokens that a filter counts for a message. -/
def InboundFilter.tokens : InboundFilter → Message → Nat
  | .tokenBudget filter, message =>
      if filter.charges message then (estimateTokens message.content).toNat else 0
  | _, _ => 0

section Counting

variable (tables : UnicodeTables) (chains : SessionChains)
  (weight : InboundFilter → Message → Nat)

/-- What the filters of a chain count that a message comes to, the one that refuses it included.
-/
def chainCount : List InboundFilter → Message → PipelineContext → Nat
  | [], _, _ => 0
  | filter :: rest, message, context =>
      let run := (filter.toFilter tables).apply message context
      weight filter message
      + match run.result with
        | .ok () => chainCount rest run.message run.context
        | .error _ => 0

/-- What is counted for a message of a session. -/
def messageCount (context : PipelineContext) : SessionMessage → Option Nat
  | .inbound message => some (chainCount tables weight chains.inbound message context)
  | .outbound _ => none

/-- What is counted in a session. -/
def sessionCount (context : PipelineContext) (trace : List (SessionMessage × SessionRun))
    : Nat :=
  paidTogether
    ((session tables chains).observed (Machine.noting (messageCount tables chains weight))
      context trace)

end Counting

/-- A reading of the context to which each filter adds its weight, as long as it has room. -/
structure Metered (reading : PipelineContext → Nat) (weight : InboundFilter → Message → Nat)
    (capacity : Nat)
    : Prop where
  adds (tables : UnicodeTables) (filter : InboundFilter) (message : Message)
    (context : PipelineContext) (room : reading context + weight filter message ≤ capacity)
    : reading ((filter.toFilter tables).apply message context).context
      = reading context + weight filter message
  sees {context after : PipelineContext} (same : SameView context after)
    : reading after = reading context

theorem turns_metered : Metered PipelineContext.turns InboundFilter.turns 4294967295 where
  adds tables filter message context room := by
    cases silent : filter.counts with
    | false =>
        have same := (filter.apply_sameView tables silent message context).turnCount
        unfold PipelineContext.turns
        rw [same]
        cases filter <;> first | rfl | contradiction
    | true =>
        cases filter with
        | tokenBudget filter =>
            show PipelineContext.turns (filter.apply message context).context = _
            rw [tokenBudget_context]
            rfl
        | conversationBoundary filter =>
            show PipelineContext.turns (filter.apply message context).context = _
            rw [boundary_context]
            dsimp only [InboundFilter.turns] at room ⊢
            split at room
            next counting =>
              rw [if_pos counting, if_pos counting]
              unfold PipelineContext.turns at room ⊢
              rw [Option.getD_some, UInt32.toNat_add]
              exact Nat.mod_eq_of_lt (Nat.lt_succ_of_le room)
            next silent => rw [if_neg silent, if_neg silent, Nat.add_zero]
        | inputSanitization config => contradiction
        | piiRedaction strategy => contradiction
        | contentClassifier mode customPatterns => contradiction
        | topicGuardrail filter => contradiction
  sees same := by
    unfold PipelineContext.turns
    rw [same.turnCount]

theorem tokens_metered
    : Metered PipelineContext.tokens InboundFilter.tokens 18446744073709551615 where
  adds tables filter message context room := by
    cases silent : filter.counts with
    | false =>
        have same := (filter.apply_sameView tables silent message context).sessionTokenCount
        unfold PipelineContext.tokens
        rw [same]
        cases filter <;> first | rfl | contradiction
    | true =>
        cases filter with
        | tokenBudget filter =>
            show PipelineContext.tokens (filter.apply message context).context = _
            rw [tokenBudget_context]
            dsimp only [InboundFilter.tokens] at room ⊢
            unfold PipelineContext.tokens at room ⊢
            split at room
            next charging =>
              rw [if_pos charging, if_pos charging, Option.getD_some, UInt64.toNat_add,
                UInt32.toNat_toUInt64]
              exact Nat.mod_eq_of_lt (Nat.lt_succ_of_le room)
            next silent => rw [if_neg silent, if_neg silent, Nat.add_zero]
        | conversationBoundary filter =>
            show PipelineContext.tokens (filter.apply message context).context = _
            rw [boundary_context]
            split <;> rfl
        | inputSanitization config => contradiction
        | piiRedaction strategy => contradiction
        | contentClassifier mode customPatterns => contradiction
        | topicGuardrail filter => contradiction
  sees same := by
    unfold PipelineContext.tokens
    rw [same.sessionTokenCount]

section Metering

variable {tables : UnicodeTables} {chains : SessionChains} {reading : PipelineContext → Nat}
  {weight : InboundFilter → Message → Nat} {capacity : Nat}

/-- A chain adds what its filters count to the reading. By induction on the chain. -/
theorem Metered.runInbound (metered : Metered reading weight capacity)
    (chain : List InboundFilter) (message : Message) (context : PipelineContext)
    (room : reading context + chainCount tables weight chain message context ≤ capacity)
    : reading (runInbound tables chain message context).context
      = reading context + chainCount tables weight chain message context := by
  induction chain generalizing message context with
  | nil => rfl
  | cons filter rest ih =>
      have first := metered.adds tables filter message context
      unfold Sphere.runInbound at ih ⊢
      rw [List.map_cons, runFilters]
      rw [chainCount] at room ⊢
      cases applied : ((filter.toFilter tables).apply message context).result with
      | ok done =>
          rw [applied] at room
          dsimp only at room ⊢
          have added := first (by omega)
          rw [ih _ _ (by omega), added, Nat.add_assoc]
      | error failure =>
          rw [applied] at room
          exact first room

/-- What is counted in a session is what its reading goes up by. By induction on the run. -/
theorem Metered.session (metered : Metered reading weight capacity)
    {start finish : PipelineContext} {trace : List (SessionMessage × SessionRun)}
    (run : (session tables chains).Run start trace finish)
    (room : reading start + sessionCount tables chains weight start trace ≤ capacity)
    : reading finish = reading start + sessionCount tables chains weight start trace := by
  unfold sessionCount at room ⊢
  induction run with
  | nil => rfl
  | @snoc middle finish trace message output run stepped ih =>
      rw [run.noted_snoc stepped, paidTogether_append] at room ⊢
      have before := ih (by omega)
      obtain ⟨rfl, rfl⟩ := session_step stepped
      cases message with
      | inbound message =>
          dsimp only [messageCount, Option.toList_some] at room ⊢
          rw [paidTogether_singleton] at room ⊢
          have added :=
            @Metered.runInbound tables _ _ _ metered chains.inbound message middle (by omega)
          rw [← Nat.add_assoc, ← before]
          exact added
      | outbound message =>
          have same :=
            metered.sees (@runOutbound_sameView tables chains.outbound message middle)
          rw [before] at same
          exact same

end Metering

end Intellisphere.Sphere
