import Intellisphere.Sphere.Pipeline.Conversation

/-! The limits of a conversation. Turns and tokens of accepted messages are paid into counts
that every filter of the chain leaves at least as high, so the limits hold whatever filters
come in between; and a count beyond its limit closes the conversation.
-/

namespace Intellisphere.Sphere

open Intellisphere.Foundation

-----------------------------------------------------------------------------------------
-- What an accepted message tells of the filters that count
-----------------------------------------------------------------------------------------

/-- A message within the turns was counted. -/
theorem ConversationBoundaryFilter.apply_turns {filter : ConversationBoundaryFilter}
    {message : Message} {context : PipelineContext} {max : UInt32}
    (limited : filter.maxTurns = some max)
    (ok : (filter.apply message context).result = .ok ())
    : (filter.apply message context).context.turnCount
        = some (context.turnCount.getD 0 + 1)
      ∧ context.turnCount.getD 0 + 1 ≤ max := by
  unfold apply at ok ⊢
  rw [limited] at ok ⊢
  dsimp only at ok ⊢
  split at ok
  · contradiction
  next within =>
    rw [if_neg within, checkContext_context]
    exact ⟨rfl, UInt32.not_lt.mp within⟩

theorem ConversationBoundaryFilter.checkContext_tokens {filter : ConversationBoundaryFilter}
    {message : Message} {context : PipelineContext} {max : UInt64}
    (limited : filter.maxContextTokens = some max)
    (ok : (filter.checkContext message context).result = .ok ())
    : context.tokens ≤ max.toNat := by
  unfold checkContext contextRefusal at ok
  rw [limited] at ok
  unfold PipelineContext.tokens
  cases counted : context.sessionTokenCount with
  | none => exact Nat.zero_le _
  | some sessionTokens =>
      rw [counted] at ok
      by_cases beyond : sessionTokens > max
      · simp [beyond] at ok
      · exact UInt64.le_iff_toNat_le.mp (UInt64.not_lt.mp beyond)

/-- A message to a conversation within its context finds no more tokens than the limit. -/
theorem ConversationBoundaryFilter.apply_tokens {filter : ConversationBoundaryFilter}
    {message : Message} {context : PipelineContext} {max : UInt64}
    (limited : filter.maxContextTokens = some max)
    (ok : (filter.apply message context).result = .ok ())
    : context.tokens ≤ max.toNat := by
  unfold apply at ok
  split at ok
  · exact checkContext_tokens limited ok
  · dsimp only at ok
    split at ok
    · contradiction
    · have found := checkContext_tokens limited ok
      exact found

/-- A message within the budget of the session was counted. -/
theorem TokenBudgetFilter.apply_tokens {filter : TokenBudgetFilter} {message : Message}
    {context : PipelineContext} {max : UInt64} (limited : filter.maxSessionTokens = some max)
    (ok : (filter.apply message context).result = .ok ())
    : (filter.apply message context).context.sessionTokenCount
        = some
            (context.sessionTokenCount.getD 0 + (estimateTokens message.content).toUInt64)
      ∧ context.sessionTokenCount.getD 0 + (estimateTokens message.content).toUInt64
        ≤ max := by
  have passed : filter.WithinInput (estimateTokens message.content).toNat := by
    by_contra tooLong
    exact (apply_of_tooLong tooLong).1 ok
  obtain ⟨accepted, counted⟩ := @apply_of_limited filter message context max passed limited
  exact ⟨counted, accepted.mp ok⟩

-----------------------------------------------------------------------------------------
-- Meters of a conversation
-----------------------------------------------------------------------------------------

section Meters

variable {tables : UnicodeTables} {chain before between after : List InboundFilter}
  {reading : PipelineContext → Nat} {unit capacity : Nat} {measure : Message → Nat}
  {limit : Nat}

/-- Each accepted message adds its measure to a reading, which stays within a limit with it. -/
def PaysInto (tables : UnicodeTables) (chain before : List InboundFilter)
    (reading : PipelineContext → Nat) (unit capacity : Nat) (measure : Message → Nat)
    (limit : Nat)
    : Prop :=
  ∀ message context,
    reading context + chain.length * unit ≤ capacity
    → (runInbound tables chain message context).result = .ok ()
    → let cost := measure (runInbound tables before message context).message
      reading context + cost
        ≤ reading (runInbound tables chain message context).context
      ∧ reading context + cost ≤ limit

theorem conversation_step {context next : PipelineContext} {message : Message}
    {run : FilterRun SphereError}
    (stepped : (conversation tables chain).step context message = some (next, run))
    : run = runInbound tables chain message context ∧ next = run.context := by
  obtain ⟨rfl, rfl⟩ := Prod.mk.inj (Option.some.inj stepped)
  exact ⟨rfl, rfl⟩

theorem Raised.conversation_rises (raised : Raised reading unit capacity)
    {context next : PipelineContext} {message : Message} {run : FilterRun SphereError}
    (stepped : (conversation tables chain).step context message = some (next, run))
    (room : reading context + chain.length * unit ≤ capacity)
    : reading context ≤ reading next
      ∧ reading next ≤ reading context + chain.length * unit := by
  obtain ⟨rfl, rfl⟩ := conversation_step stepped
  exact raised.runInbound chain message context room

theorem PaysInto.conversation_pays
    (pays : PaysInto tables chain before reading unit capacity measure limit)
    {context next : PipelineContext} {message : Message} {run : FilterRun SphereError}
    {cost : Nat}
    (stepped : (conversation tables chain).step context message = some (next, run))
    (room : reading context + chain.length * unit ≤ capacity)
    (priced : accepted? tables chain before measure context message = some cost)
    : reading context + cost ≤ reading next ∧ reading context + cost ≤ limit := by
  obtain ⟨rfl, rfl⟩ := conversation_step stepped
  unfold accepted? at priced
  split at priced
  next ok =>
    obtain rfl := Option.some.inj priced
    exact pays message context room ok
  · contradiction

/-- The meter of a conversation that accepted messages pay into. -/
def PaysInto.meter (raised : Raised reading unit capacity)
    (pays : PaysInto tables chain before reading unit capacity measure limit)
    : Meter (conversation tables chain) where
  reading := reading
  price := accepted? tables chain before measure
  limit := limit
  rate := chain.length * unit
  capacity := capacity
  rises := raised.conversation_rises
  pays := pays.conversation_pays

theorem turns_next {context after : PipelineContext}
    (counted : after.turnCount = some (context.turnCount.getD 0 + 1))
    (room : context.turns + 1 ≤ 4294967295)
    : after.turns = context.turns + 1
      ∧ (context.turnCount.getD 0 + 1).toNat = context.turns + 1 := by
  unfold PipelineContext.turns at room ⊢
  have next : (context.turnCount.getD 0 + 1).toNat = (context.turnCount.getD 0).toNat + 1 := by
    rw [UInt32.toNat_add]
    exact Nat.mod_eq_of_lt (Nat.lt_succ_of_le room)
  rw [counted, Option.getD_some]
  exact ⟨next, next⟩

theorem tokens_next {context after : PipelineContext} {estimated : UInt32}
    (counted
      : after.sessionTokenCount
        = some (context.sessionTokenCount.getD 0 + estimated.toUInt64))
    (room : context.tokens + 4294967295 ≤ 18446744073709551615)
    : after.tokens = context.tokens + estimated.toNat
      ∧ (context.sessionTokenCount.getD 0 + estimated.toUInt64).toNat
        = context.tokens + estimated.toNat := by
  unfold PipelineContext.tokens at room ⊢
  have small := estimated.toNat_lt
  have next
      : (context.sessionTokenCount.getD 0 + estimated.toUInt64).toNat
        = (context.sessionTokenCount.getD 0).toNat + estimated.toNat := by
    rw [UInt64.toNat_add, UInt32.toNat_toUInt64]
    exact Nat.mod_eq_of_lt (by omega)
  rw [counted, Option.getD_some]
  exact ⟨next, next⟩

/-- Accepted messages pay their turns into the count of a boundary filter. -/
theorem boundary_turns {boundary : ConversationBoundaryFilter} {max : UInt32}
    (limited : boundary.maxTurns = some max)
    : PaysInto tables (before ++ .conversationBoundary boundary :: after) before
        PipelineContext.turns 1 4294967295 (fun _ => 1) max.toNat := by
  intro message context room ok
  obtain ⟨passed, first, last, small, _⟩ := turns_raised.runInbound_passes room ok
  obtain ⟨counted, within⟩ := boundary.apply_turns limited passed
  obtain ⟨next, value⟩ := turns_next counted small
  rw [UInt32.le_iff_toNat_le, value] at within
  dsimp only [InboundFilter.toFilter] at last ⊢
  omega

/-- Accepted messages pay their tokens into the count of a token budget. -/
theorem budget_tokens {budget : TokenBudgetFilter} {max : UInt64}
    (limited : budget.maxSessionTokens = some max)
    : PaysInto tables (before ++ .tokenBudget budget :: after) before
        PipelineContext.tokens 4294967295 18446744073709551615
        (fun message => (estimateTokens message.content).toNat) max.toNat := by
  intro message context room ok
  obtain ⟨passed, first, last, small, _⟩ := tokens_raised.runInbound_passes room ok
  obtain ⟨counted, within⟩ := budget.apply_tokens limited passed
  obtain ⟨next, value⟩ := tokens_next counted small
  rw [UInt64.le_iff_toNat_le, value] at within
  dsimp only [InboundFilter.toFilter, tokenBudgetFilter] at last ⊢
  omega

/-- A boundary filter accepts nothing when there are more tokens than its context has. -/
theorem boundary_tokens {boundary : ConversationBoundaryFilter} {max : UInt64}
    (limited : boundary.maxContextTokens = some max)
    : PaysInto tables (before ++ .conversationBoundary boundary :: after) before
        PipelineContext.tokens 4294967295 18446744073709551615 (fun _ => 0) max.toNat := by
  intro message context room ok
  obtain ⟨passed, first, last, _⟩ := tokens_raised.runInbound_passes room ok
  have found := boundary.apply_tokens limited passed
  have whole :=
    (@Raised.runInbound tables _ _ _ tokens_raised _ message context room).1
  dsimp only at *
  omega

/-- Accepted messages pay their tokens into a count that a later boundary filter finds within
its context.
-/
theorem window_tokens {budget : TokenBudgetFilter} {boundary : ConversationBoundaryFilter}
    {max : UInt64} (counts : budget.maxSessionTokens.isSome)
    (limited : boundary.maxContextTokens = some max)
    : PaysInto tables
        (before ++ .tokenBudget budget :: (between ++ .conversationBoundary boundary :: after))
        before PipelineContext.tokens 4294967295 18446744073709551615
        (fun message => (estimateTokens message.content).toNat) max.toNat := by
  intro message context room ok
  obtain ⟨session, counted⟩ := Option.isSome_iff_exists.mp counts
  obtain ⟨passed, first, last, small, left⟩ := tokens_raised.runInbound_passes room ok
  obtain ⟨next, _⟩ := tokens_next (budget.apply_tokens counted passed).1 small
  rw [(runInbound_passes ok).2] at ok
  obtain ⟨within, later, _⟩ := tokens_raised.runInbound_passes left ok
  have found := boundary.apply_tokens limited within
  dsimp only [InboundFilter.toFilter, tokenBudgetFilter] at *
  omega

-----------------------------------------------------------------------------------------
-- Refusals
-----------------------------------------------------------------------------------------

/-- An error names the filter it comes from. -/
theorem InboundFilter.apply_error {filter : InboundFilter} {message : Message}
    {context : PipelineContext} {error : SphereError}
    (refused : ((filter.toFilter tables).apply message context).result = .error error)
    : ∃ reason, error = .filterRejected (filter.toFilter tables).name reason := by
  cases filter with
  | inputSanitization config =>
      dsimp only [InboundFilter.toFilter, inputSanitizationFilter] at refused ⊢
      unfold InputSanitizationConfig.apply at refused
      split at refused
      · contradiction
      · split at refused
        · contradiction
        next sanitised =>
          obtain rfl := Except.error.inj refused
          unfold InputSanitizationConfig.sanitize at sanitised
          split at sanitised
          · exact ⟨_, (Except.error.inj sanitised).symm⟩
          · split at sanitised <;> contradiction
  | piiRedaction strategy => contradiction
  | contentClassifier mode customPatterns =>
      dsimp only [InboundFilter.toFilter, contentClassifierFilter] at refused ⊢
      unfold contentClassifierApply at refused
      dsimp only at refused
      split at refused
      · contradiction
      · split at refused
        · exact ⟨_, (Except.error.inj refused).symm⟩
        · contradiction
        · contradiction
  | topicGuardrail filter =>
      dsimp only [InboundFilter.toFilter] at refused ⊢
      unfold TopicGuardrailFilter.apply at refused
      split at refused
      · exact ⟨_, (Except.error.inj refused).symm⟩
      · split at refused
        · exact ⟨_, (Except.error.inj refused).symm⟩
        · contradiction
  | tokenBudget filter =>
      dsimp only [InboundFilter.toFilter, tokenBudgetFilter] at refused ⊢
      unfold TokenBudgetFilter.apply at refused
      dsimp only at refused
      split at refused
      next rejected =>
        obtain rfl := Except.error.inj refused
        unfold TokenBudgetFilter.inputRefusal at rejected
        split at rejected
        · contradiction
        · split at rejected
          · exact ⟨_, (Option.some.inj rejected).symm⟩
          · contradiction
      · split at refused
        · contradiction
        · split at refused
          · exact ⟨_, (Except.error.inj refused).symm⟩
          · contradiction
  | conversationBoundary filter =>
      dsimp only [InboundFilter.toFilter] at refused ⊢
      have checked {context : PipelineContext}
          (refused : (filter.checkContext message context).result = .error error)
          : ∃ reason, error = .filterRejected "ConversationBoundary" reason := by
        unfold ConversationBoundaryFilter.checkContext at refused
        split at refused
        next rejected =>
          obtain rfl := Except.error.inj refused
          unfold ConversationBoundaryFilter.contextRefusal at rejected
          split at rejected
          · split at rejected
            · exact ⟨_, (Option.some.inj rejected).symm⟩
            · contradiction
          · contradiction
        · contradiction
      unfold ConversationBoundaryFilter.apply at refused
      split at refused
      · exact checked refused
      · dsimp only at refused
        split at refused
        · exact ⟨_, (Except.error.inj refused).symm⟩
        · exact checked refused

/-- A refused message came to the filter that refuses it. By induction on the chain. -/
theorem runInbound_refused {message : Message} {context : PipelineContext}
    {error : SphereError}
    (refused : (runInbound tables chain message context).result = .error error)
    : ∃ before filter after,
        chain = before ++ filter :: after
        ∧ (runInbound tables chain message context)
          = (filter.toFilter tables).apply (runInbound tables before message context).message
              (runInbound tables before message context).context := by
  induction chain generalizing message context with
  | nil => contradiction
  | cons filter rest ih =>
      cases applied : ((filter.toFilter tables).apply message context).result with
      | ok done =>
          have onward (chain : List InboundFilter)
              : runInbound tables (filter :: chain) message context
                = runInbound tables chain
                    ((filter.toFilter tables).apply message context).message
                    ((filter.toFilter tables).apply message context).context :=
            runFilters_cons_ok applied
          rw [onward] at refused
          obtain ⟨before, refuser, after, rfl, same⟩ := ih refused
          refine ⟨filter :: before, refuser, after, rfl, ?_⟩
          rw [onward, onward, same]
      | error failure =>
          refine ⟨[], filter, rest, rfl, ?_⟩
          unfold runInbound
          simp [runFilters, applied]

/-- A boundary filter refuses when one of its counts is beyond its limit. -/
theorem ConversationBoundaryFilter.apply_refused {filter : ConversationBoundaryFilter}
    {message : Message} {context : PipelineContext} {error : SphereError}
    (refused : (filter.apply message context).result = .error error)
    : (∃ max,
        filter.maxTurns = some max
        ∧ max.toNat < (filter.apply message context).context.turns)
      ∨ ∃ max,
          filter.maxContextTokens = some max
          ∧ max.toNat < (filter.apply message context).context.tokens := by
  have checked {context : PipelineContext}
      (refused : (filter.checkContext message context).result = .error error)
      : ∃ max, filter.maxContextTokens = some max ∧ max.toNat < context.tokens := by
    unfold checkContext at refused
    split at refused
    next rejected =>
      unfold contextRefusal at rejected
      split at rejected
      next max sessionTokens limited counted =>
        split at rejected
        next beyond =>
          refine ⟨max, limited, ?_⟩
          rw [PipelineContext.tokens, counted]
          exact UInt64.lt_iff_toNat_lt.mp beyond
        · contradiction
      · contradiction
    · contradiction
  unfold apply at refused ⊢
  cases limited : filter.maxTurns with
  | none =>
      rw [limited] at refused
      dsimp only at refused ⊢
      rw [checkContext_context]
      exact .inr (checked refused)
  | some max =>
      rw [limited] at refused
      dsimp only at refused ⊢
      by_cases beyond : context.turnCount.getD 0 + 1 > max
      · rw [if_pos beyond]
        exact .inl ⟨max, rfl, UInt32.lt_iff_toNat_lt.mp beyond⟩
      · rw [if_neg beyond] at refused ⊢
        rw [checkContext_context]
        exact .inr (checked refused)

-----------------------------------------------------------------------------------------
-- Whole conversations
-----------------------------------------------------------------------------------------

variable {start finish : PipelineContext} {trace : ConversationTrace}

/-- Each accepted message is seen once. By induction on the run. -/
theorem acceptedMeasures_length
    (run : (conversation tables chain).Run start trace finish)
    (before : List InboundFilter) (measure : Message → Nat)
    : (acceptedMeasures tables chain before measure start trace).length
      = acceptedCount trace := by
  unfold acceptedMeasures
  induction run with
  | nil => rfl
  | @snoc middle finish trace message result run stepped ih =>
      obtain ⟨rfl, _⟩ := conversation_step stepped
      rw [run.noted_snoc stepped, List.length_append, ih]
      by_cases ok : (runInbound tables chain message middle).result = .ok () <;>
        simp [acceptedCount, accepted?, ok]

/-- The turns of accepted messages are their number. By induction on the run. -/
theorem acceptedMeasures_turns
    (run : (conversation tables chain).Run start trace finish)
    (before : List InboundFilter)
    : paidTogether (acceptedMeasures tables chain before (fun _ => 1) start trace)
      = acceptedCount trace := by
  rw [← acceptedMeasures_length run before (fun _ => 1)]
  unfold acceptedMeasures
  induction run with
  | nil => rfl
  | @snoc middle finish trace message result run stepped ih =>
      rw [run.noted_snoc stepped, paidTogether_append, List.length_append, ih]
      by_cases ok : (runInbound tables chain message middle).result = .ok () <;>
        simp [accepted?, ok, paidTogether]

/-- Nothing is accepted any more once a reading is beyond the limit of what is paid into it. -/
theorem PaysInto.locks (raised : Raised reading unit capacity)
    (pays : PaysInto tables chain before reading unit capacity measure limit)
    (run : (conversation tables chain).Run start trace finish)
    (room : (pays.meter raised).Room start trace.length) (spent : limit < reading start)
    : ∀ entry ∈ trace, entry.2.result ≠ .ok () := by
  have nothing : acceptedMeasures tables chain before measure start trace = [] :=
    (pays.meter raised).payments_locked run room spent
  have count := acceptedMeasures_length run before measure
  rw [nothing] at count
  intro entry member ok
  exact List.countP_eq_zero.mp count.symm entry member (by simpa using ok)

/-- A short conversation has room for its turns and for its tokens. -/
theorem short_room {steps : Nat} (raised : Raised reading unit capacity)
    (pays : PaysInto tables chain before reading unit capacity measure limit)
    (fresh : reading start = 0) (short : steps * chain.length < 4294967296)
    (enough : 4294967295 * unit ≤ capacity)
    : (pays.meter raised).Room start steps := by
  show reading start + steps * (chain.length * unit) ≤ capacity
  rw [fresh, Nat.zero_add, ← Nat.mul_assoc]
  exact (Nat.mul_le_mul_right unit (Nat.le_of_lt_succ short)).trans enough

end Meters

/-- The limits on a conversation through some chain: of the turns, of the tokens that a token
budget counts, and of the tokens in the context of a boundary filter after it. A boundary
filter that refused a message leaves the conversation closed.
-/
structure ConversationLimited (tables : UnicodeTables) (chain : List InboundFilter)
    (start : PipelineContext) (trace : ConversationTrace)
    : Prop where
  turns (boundary : ConversationBoundaryFilter) (max : UInt32)
    (member : .conversationBoundary boundary ∈ chain)
    (limited : boundary.maxTurns = some max)
    : acceptedCount trace ≤ max.toNat
  tokens (before after : List InboundFilter) (budget : TokenBudgetFilter) (max : UInt64)
    (place : chain = before ++ .tokenBudget budget :: after)
    (limited : budget.maxSessionTokens = some max)
    : acceptedTokens tables chain before start trace ≤ max.toNat
  window (before between after : List InboundFilter) (budget : TokenBudgetFilter)
    (boundary : ConversationBoundaryFilter) (max : UInt64)
    (place
      : chain
        = before
          ++ .tokenBudget budget :: (between ++ .conversationBoundary boundary :: after))
    (counts : budget.maxSessionTokens.isSome) (limited : boundary.maxContextTokens = some max)
    : acceptedTokens tables chain before start trace ≤ max.toNat
  closed (earlier later : ConversationTrace) (message : Message)
    (run : FilterRun SphereError) (reason : String)
    (place : trace = earlier ++ (message, run) :: later)
    (refused : run.result = .error (.filterRejected "ConversationBoundary" reason))
    : ∀ entry ∈ later, entry.2.result ≠ .ok ()

section Limits

variable {tables : UnicodeTables} {chain : List InboundFilter} {requestId sessionId : String}
  {trace : ConversationTrace} {context : PipelineContext}

/-- After a refusal by a boundary filter nothing is accepted. -/
theorem refusal_closes {earlier later : ConversationTrace} {message : Message}
    {result : FilterRun SphereError} {reason : String}
    (run
      : (conversation tables chain).Run (.new requestId sessionId)
          (earlier ++ (message, result) :: later) context)
    (short : (earlier ++ (message, result) :: later).length * chain.length < 4294967296)
    (refused : result.result = .error (.filterRejected "ConversationBoundary" reason))
    : ∀ entry ∈ later, entry.2.result ≠ .ok () := by
  obtain ⟨middle, first, rest⟩ := run.split earlier ((message, result) :: later)
  obtain ⟨next, stepped, rest⟩ := rest.uncons
  obtain ⟨rfl, rfl⟩ := conversation_step stepped
  have run := first.snoc stepped
  obtain ⟨before, filter, after, rfl, same⟩ := runInbound_refused refused
  rw [same] at refused
  obtain ⟨_, named⟩ := filter.apply_error refused
  rw [List.append_cons, List.length_append] at short
  cases filter with
  | conversationBoundary boundary =>
      rcases boundary.apply_refused refused with ⟨max, limited, spent⟩ | ⟨max, limited, spent⟩
      · have pays := @boundary_turns tables before after boundary max limited
        have room : (pays.meter turns_raised).Room (.new requestId sessionId) _ :=
          short_room turns_raised pays rfl short (by omega)
        refine pays.locks turns_raised rest (room.after run) ?_
        rw [same]
        exact spent
      · have pays := @boundary_tokens tables before after boundary max limited
        have room : (pays.meter tokens_raised).Room (.new requestId sessionId) _ :=
          short_room tokens_raised pays rfl short (by omega)
        refine pays.locks tokens_raised rest (room.after run) ?_
        rw [same]
        exact spent
  | inputSanitization config => simp [InboundFilter.toFilter, inputSanitizationFilter] at named
  | piiRedaction strategy => simp [InboundFilter.toFilter, piiRedactionFilter] at named
  | contentClassifier mode patterns =>
      simp [InboundFilter.toFilter, contentClassifierFilter] at named
  | topicGuardrail filter => simp [InboundFilter.toFilter] at named
  | tokenBudget filter => simp [InboundFilter.toFilter, tokenBudgetFilter] at named

/-- A conversation stays within the limits of all filters of its chain, in whatever order they
come, as long as its turns and those of its filters are fewer than a machine integer counts.
-/
theorem conversation_limited
    (run : (conversation tables chain).Run (.new requestId sessionId) trace context)
    (short : trace.length * chain.length < 4294967296)
    : ConversationLimited tables chain (.new requestId sessionId) trace where
  turns boundary max member limited := by
    obtain ⟨before, after, rfl⟩ := List.append_of_mem member
    have pays := @boundary_turns tables before after boundary max limited
    have within := (pays.meter turns_raised).payments_le run
      (short_room turns_raised pays rfl short (by omega))
    rw [← acceptedMeasures_turns run before]
    exact within
  tokens before after budget max place limited := by
    subst place
    have pays := @budget_tokens tables before after budget max limited
    exact (pays.meter tokens_raised).payments_le run
      (short_room tokens_raised pays rfl short (by omega))
  window before between after budget boundary max place counts limited := by
    subst place
    have pays :=
      @window_tokens tables before between after budget boundary max counts limited
    exact (pays.meter tokens_raised).payments_le run
      (short_room tokens_raised pays rfl short (by omega))
  closed earlier later message result reason place refused := by
    subst place
    exact refusal_closes run short refused

end Limits

/-- Ten tokens and two turns. -/
def shortConversation : List InboundFilter :=
  [
    .tokenBudget { maxInputTokens := none, maxSessionTokens := some 10 },
    .conversationBoundary { maxTurns := some 2, maxContextTokens := some 8 }
  ]

/-- Four messages of three tokens each. -/
def fourMessages : ConversationTrace :=
  (conversation asciiTables shortConversation).traceOf (.new "r" "s")
    (List.replicate 4 (lettersMessage 12))

theorem conversation_limited_twoTurns
    : fourMessages.map (fun entry => entry.2.result.isOk) = [true, true, false, false]
      ∧ ConversationLimited asciiTables shortConversation (.new "r" "s") fourMessages :=
  ⟨by decide +kernel,
    conversation_limited (Machine.traceOf_run (by decide +kernel)) (by decide +kernel)⟩

end Intellisphere.Sphere
