import Intellisphere.Sphere.Pipeline.Session
import Intellisphere.Sphere.Policy.Engine

/-! Policies over whole sessions. Two of the rules compare a count that filters keep with a
limit, the others look at what no filter touches. So what is violated once is violated until the
session ends, and a limit is violated exactly when filters have counted more.
-/

namespace Intellisphere.Sphere

open Intellisphere.Foundation

/-- The rule compares a count with a limit. -/
def PolicyRule.counts : PolicyRule → Bool
  | .maxToolCallsPerSession _ | .maxTokensPerIdentityPerHour _ => true
  | _ => false

-----------------------------------------------------------------------------------------
-- Rules and counts
-----------------------------------------------------------------------------------------

section Rules

variable {context after : PipelineContext}

/-- Rules that do not count are evaluated as before once filters have run. -/
theorem evaluateRule_settled {rule : PolicyRule} (settled : Settled context after)
    (uncounted : rule.counts = false) (event : PolicyEvent)
    : evaluateRule rule after event = evaluateRule rule context event := by
  cases rule with
  | maxToolCallsPerSession limit => contradiction
  | maxTokensPerIdentityPerHour limit => contradiction
  | requireMfa => simp only [evaluateRule, settled.identity]
  | requireRoles roles => simp only [evaluateRule, settled.identity]
  | maxResultSize limit => simp only [evaluateRule, settled.resultSizes]

/-- A conversation that was not counted has no turns. -/
theorem evaluateRule_turns (limit : UInt32) (context : PipelineContext) (event : PolicyEvent)
    : evaluateRule (.maxToolCallsPerSession limit) context event
      = match event with
        | .requestReceived => none
        | .toolCallRequested _ | .sessionUpdate =>
            if limit.toNat < context.turns then
              some
                ("Tool call count " ++ toString context.turns ++ " exceeds session limit of "
                  ++ toString limit)
            else none := by
  unfold PipelineContext.turns
  cases counted : context.turnCount with
  | none => cases event <;> simp [evaluateRule, counted]
  | some turnCount =>
      cases event <;> simp only [evaluateRule, counted, gt_iff_lt, UInt32.lt_iff_toNat_lt] <;>
        rfl

theorem evaluateRule_tokens (limit : UInt64) (context : PipelineContext) (event : PolicyEvent)
    : evaluateRule (.maxTokensPerIdentityPerHour limit) context event
      = if limit.toNat < context.tokens then
          some
            ("Token count " ++ toString context.tokens ++ " exceeds hourly limit of "
              ++ toString limit)
        else none := by
  unfold PipelineContext.tokens
  cases counted : context.sessionTokenCount with
  | none => simp [evaluateRule, counted]
  | some sessionTokens =>
      simp only [evaluateRule, counted, gt_iff_lt, UInt64.lt_iff_toNat_lt]
      rfl

/-- Tool calls and updates of the session are checked against the turns, other requests are not.
-/
theorem evaluateRule_turns_isSome (limit : UInt32) (context : PipelineContext)
    (event : PolicyEvent)
    : (evaluateRule (.maxToolCallsPerSession limit) context event).isSome = true
      ↔ event ≠ .requestReceived ∧ limit.toNat < context.turns := by
  rw [evaluateRule_turns]
  cases event <;> simp

theorem evaluateRule_tokens_isSome (limit : UInt64) (context : PipelineContext)
    (event : PolicyEvent)
    : (evaluateRule (.maxTokensPerIdentityPerHour limit) context event).isSome = true
      ↔ limit.toNat < context.tokens := by
  rw [evaluateRule_tokens]
  simp

/-- What is violated stays so when the counts go up. By cases on the rule. -/
theorem evaluateRule_isSome_of_settled {rule : PolicyRule} {event : PolicyEvent}
    (settled : Settled context after) (turns : context.turns ≤ after.turns)
    (tokens : context.tokens ≤ after.tokens)
    (violated : (evaluateRule rule context event).isSome = true)
    : (evaluateRule rule after event).isSome = true := by
  cases uncounted : rule.counts with
  | false =>
      rw [evaluateRule_settled settled uncounted]
      exact violated
  | true =>
      cases rule with
      | maxToolCallsPerSession limit =>
          rw [evaluateRule_turns_isSome] at violated ⊢
          exact ⟨violated.1, violated.2.trans_le turns⟩
      | maxTokensPerIdentityPerHour limit =>
          rw [evaluateRule_tokens_isSome] at violated ⊢
          exact violated.trans_le tokens
      | requireMfa => contradiction
      | requireRoles roles => contradiction
      | maxResultSize limit => contradiction

/-- Where nothing was counted, every rule is evaluated as before. -/
theorem evaluateRule_same {rule : PolicyRule} (settled : Settled context after)
    (turns : after.turns = context.turns) (tokens : after.tokens = context.tokens)
    (event : PolicyEvent)
    : evaluateRule rule after event = evaluateRule rule context event := by
  cases uncounted : rule.counts with
  | false => exact evaluateRule_settled settled uncounted event
  | true =>
      cases rule with
      | maxToolCallsPerSession limit => rw [evaluateRule_turns, evaluateRule_turns, turns]
      | maxTokensPerIdentityPerHour limit =>
          rw [evaluateRule_tokens, evaluateRule_tokens, tokens]
      | requireMfa => contradiction
      | requireRoles roles => contradiction
      | maxResultSize limit => contradiction

/-- Rules that stay violated make the violations a sublist of the later ones. -/
theorem PolicyEngine.violated_sublist_of_isSome (engine : PolicyEngine) (event : PolicyEvent)
    (lasting
      : ∀ rule,
          (evaluateRule rule context event).isSome = true
          → (evaluateRule rule after event).isSome = true)
    : (engine.violated context event).Sublist (engine.violated after event) := by
  refine List.Sublist.flatMap_right engine.policies (fun policy _ => ?_)
  split
  · exact List.Sublist.refl _
  · exact List.Sublist.map _ (List.monotone_filter_right policy.rules lasting)

end Rules

/-- Configured chains count nothing. -/
theorem sessionCount_configured {tables : UnicodeTables} {config : PipelineConfig}
    {weight : InboundFilter → Message → Nat} {start finish : PipelineContext}
    {trace : List (SessionMessage × SessionRun)}
    (silent : ∀ sanitization message, weight (.inputSanitization sanitization) message = 0)
    (run : (session tables config.sessionChains).Run start trace finish)
    : sessionCount tables config.sessionChains weight start trace = 0 := by
  unfold sessionCount
  induction run with
  | nil => rfl
  | @snoc middle finish trace message output run stepped ih =>
      rw [run.noted_snoc stepped, paidTogether_append, ih]
      cases message with
      | outbound message => rfl
      | inbound message =>
          dsimp only [messageCount, Option.toList_some]
          rw [paidTogether_singleton, Nat.zero_add]
          unfold PipelineConfig.sessionChains
          dsimp only
          split
          · rw [chainCount, silent, Nat.zero_add]
            split <;> rfl
          · rfl

-----------------------------------------------------------------------------------------
-- Sessions
-----------------------------------------------------------------------------------------

/-- Policies at the end of a session that counted `turns` and `tokens`. Each engine finds all
violations of the start again; a limit is violated exactly when more was counted; the other
rules give the same reasons, and sizes of results are never too large if none was recorded
before. Where nothing was counted everything is reported as it was.
-/
structure PoliciesLast (start finish : PipelineContext) (turns tokens : Nat) : Prop where
  lasting (engine : PolicyEngine) (event : PolicyEvent)
    : (engine.violated start event).Sublist (engine.violated finish event)
      ∧ ((engine.evaluate start event).map
            (fun violation => (violation.policyName, violation.action))).Sublist
          ((engine.evaluate finish event).map
            (fun violation => (violation.policyName, violation.action)))
  turnLimit (limit : UInt32) (event : PolicyEvent)
    : (evaluateRule (.maxToolCallsPerSession limit) finish event).isSome = true
      ↔ event ≠ .requestReceived ∧ limit.toNat < start.turns + turns
  tokenLimit (limit : UInt64) (event : PolicyEvent)
    : (evaluateRule (.maxTokensPerIdentityPerHour limit) finish event).isSome = true
      ↔ limit.toNat < start.tokens + tokens
  others (rule : PolicyRule) (uncounted : rule.counts = false) (event : PolicyEvent)
    : evaluateRule rule finish event = evaluateRule rule start event
  sizes (unrecorded : start.getAnnotations "result_size" = none) (limit : Nat)
    (event : PolicyEvent)
    : evaluateRule (.maxResultSize limit) finish event = none
  unchanged (nothing : turns = 0 ∧ tokens = 0) (engine : PolicyEngine) (event : PolicyEvent)
    : engine.evaluate finish event = engine.evaluate start event

section Sessions

variable {tables : UnicodeTables} {chains : SessionChains} {start finish : PipelineContext}
  {trace : List (SessionMessage × SessionRun)}

/-- Counts that went up by so much, and nothing else that policies look at. -/
theorem PoliciesLast.of_settled {turns tokens : Nat} (settled : Settled start finish)
    (counted : finish.turns = start.turns + turns)
    (charged : finish.tokens = start.tokens + tokens)
    : PoliciesLast start finish turns tokens where
  lasting engine event := by
    have lasting (rule : PolicyRule)
        (violated : (evaluateRule rule start event).isSome = true)
        : (evaluateRule rule finish event).isSome = true := by
      exact evaluateRule_isSome_of_settled settled (by omega) (by omega) violated
    refine ⟨engine.violated_sublist_of_isSome event lasting, ?_⟩
    rw [engine.evaluate_violated, engine.evaluate_violated]
    exact (engine.violated_sublist_of_isSome event lasting).map _
  turnLimit limit event := by rw [evaluateRule_turns_isSome, counted]
  tokenLimit limit event := by rw [evaluateRule_tokens_isSome, charged]
  others rule uncounted event := evaluateRule_settled settled uncounted event
  sizes unrecorded limit event := by
    rw [evaluateRule_settled settled rfl]
    simp only [evaluateRule, unrecorded, Option.bind_none]
  unchanged nothing engine event := by
    obtain ⟨rfl, rfl⟩ := nothing
    have same (rule : PolicyRule)
        : evaluateRule rule finish event = evaluateRule rule start event :=
      evaluateRule_same settled counted charged event
    simp only [PolicyEngine.evaluate, same]

/-- Policies over a session through any chains, as long as the counts do not wrap around. In a
session through the chains of a configuration nothing is counted.
-/
theorem session_policies
    (run : (session tables chains).Run start trace finish)
    (turns
      : start.turns + sessionCount tables chains InboundFilter.turns start trace
        < 4294967296)
    (tokens
      : start.tokens + sessionCount tables chains InboundFilter.tokens start trace
        < 18446744073709551616)
    : PoliciesLast start finish
          (sessionCount tables chains InboundFilter.turns start trace)
          (sessionCount tables chains InboundFilter.tokens start trace)
      ∧ ∀ config, chains = PipelineConfig.sessionChains config
        → sessionCount tables chains InboundFilter.turns start trace = 0
          ∧ sessionCount tables chains InboundFilter.tokens start trace = 0 := by
  have counted := turns_metered.session run (Nat.le_of_lt_succ turns)
  have charged := tokens_metered.session run (Nat.le_of_lt_succ tokens)
  refine ⟨.of_settled (session_settled run) counted charged, ?_⟩
  intro config configured
  subst configured
  exact
    ⟨sessionCount_configured (fun _ _ => rfl) run,
      sessionCount_configured (fun _ _ => rfl) run⟩

end Sessions

/-- Every turn is counted, and the second one is beyond the limit of the filter. -/
def oneTurn : SessionChains where
  inbound := [.conversationBoundary { maxTurns := some 1, maxContextTokens := none }]
  outbound := [.piiLeakDetection .redact]

/-- Two messages of the client with an answer in between. -/
def twoQuestions : List SessionMessage :=
  [.inbound (lettersMessage 3), .outbound (lettersMessage 3), .inbound (lettersMessage 3)]

/-- The second message is refused and counted all the same. -/
theorem session_policies_refused
    : let trace := (session asciiTables oneTurn).traceOf (.new "r" "s") twoQuestions
      sessionCount asciiTables oneTurn InboundFilter.turns (.new "r" "s") trace = 2
      ∧ PoliciesLast (.new "r" "s")
          ((session asciiTables oneTurn).stateAfter (.new "r" "s") twoQuestions)
          (sessionCount asciiTables oneTurn InboundFilter.turns (.new "r" "s") trace)
          (sessionCount asciiTables oneTurn InboundFilter.tokens (.new "r" "s") trace) :=
  ⟨by decide +kernel,
    (session_policies (Machine.traceOf_run (by decide +kernel)) (by decide +kernel)
      (by decide +kernel)).1⟩

end Intellisphere.Sphere
