import Intellisphere.Foundation.Text
import Intellisphere.Sphere.Pipeline.Filter

/-! Token budgets for a request and for a session. The session's count is advanced before it is
compared with its limit, so a message refused there is charged all the same.
-/

namespace Intellisphere.Sphere

open Intellisphere.Foundation

structure TokenBudgetFilter where
  maxInputTokens : Option UInt32
  maxSessionTokens : Option UInt64

/-- A quarter of the bytes, rounded up. -/
def tokensOf (text : String) : Nat :=
  (byteLength text.toList + 3) / 4

/-- The quotient is a floating-point number, exact below 2^53 bytes, and the conversion back
stops at the largest machine integer.
-/
def estimateTokens (text : String) : UInt32 :=
  UInt32.ofNat (min (tokensOf text) 4294967295)

/-- The refusal of a message whose estimate is more than a request may have. -/
def TokenBudgetFilter.inputRefusal (filter : TokenBudgetFilter) (estimated : UInt32)
    : Option SphereError :=
  match filter.maxInputTokens with
  | none => none
  | some max =>
      if estimated > max then
        some
          (.filterRejected "TokenBudget"
            ("Input exceeds token budget: ~" ++ toString estimated ++ " tokens (max "
              ++ toString max ++ ")"))
      else none

/-- The sum of the counts wraps around. -/
def TokenBudgetFilter.apply (filter : TokenBudgetFilter) (message : Message)
    (context : PipelineContext)
    : FilterRun SphereError :=
  let estimated := estimateTokens message.content
  let context := { context with inputTokenCount := some estimated }
  match filter.inputRefusal estimated with
  | some error => { result := .error error, message, context }
  | none =>
      match filter.maxSessionTokens with
      | none => { result := .ok (), message, context }
      | some maxSession =>
          let current := context.sessionTokenCount.getD 0
          let newTotal := current + estimated.toUInt64
          let context := { context with sessionTokenCount := some newTotal }
          if newTotal > maxSession then
            {
              result :=
                .error
                  (.filterRejected "TokenBudget"
                    ("Session token budget exceeded: " ++ toString newTotal ++ " tokens (max "
                      ++ toString maxSession ++ ")"))
              message
              context
            }
          else { result := .ok (), message, context }

def tokenBudgetFilter (filter : TokenBudgetFilter) : Filter SphereError :=
  { name := "TokenBudget", apply := filter.apply }

/-- The estimate is within the limit of a request. -/
def TokenBudgetFilter.WithinInput (filter : TokenBudgetFilter) (tokens : Nat) : Prop :=
  ∀ max ∈ filter.maxInputTokens, tokens ≤ max.toNat

/-- The estimate is within the limit of a session together with what it was charged. -/
def TokenBudgetFilter.WithinSession (filter : TokenBudgetFilter) (tokens : Nat) : Prop :=
  ∀ max ∈ filter.maxSessionTokens, tokens ≤ max.toNat

/-- A message is accepted exactly when it is within both limits, the session's with what the
messages accepted before it are charged, and leaves the session's count as it was if not.
-/
def TokenBudgetFilter.ChargesFairly (filter : TokenBudgetFilter) (message : Message)
    (charged : Nat) (context : PipelineContext)
    : Prop :=
  let run := filter.apply message context
  let tokens := tokensOf message.content
  (run.result = .ok () ↔ filter.WithinInput tokens ∧ filter.WithinSession (charged + tokens))
  ∧ (run.result ≠ .ok () → run.context.sessionTokenCount = context.sessionTokenCount)

/-- Every one of several messages in a row is charged fairly. -/
def TokenBudgetFilter.ChargesAccepted (filter : TokenBudgetFilter)
    : List Message → Nat → PipelineContext → Prop
  | [], _, _ => True
  | message :: rest, charged, context =>
      let run := filter.apply message context
      filter.ChargesFairly message charged context
      ∧ filter.ChargesAccepted rest
          (if run.result = .ok () then charged + tokensOf message.content else charged)
          run.context

instance (filter : TokenBudgetFilter) (tokens : Nat) : Decidable (filter.WithinInput tokens) :=
  Option.decidableForallMem filter.maxInputTokens

/-- The tokens of the messages within the limit of a request. -/
def TokenBudgetFilter.tokensWithinInput (filter : TokenBudgetFilter) : List Message → Nat
  | [] => 0
  | message :: rest =>
      (if filter.WithinInput (tokensOf message.content) then tokensOf message.content else 0)
      + filter.tokensWithinInput rest

/-- An estimate that is compared with the largest machine integer is not beyond it. -/
def TokenBudgetFilter.Measured (filter : TokenBudgetFilter) (tokens : Nat) : Prop :=
  filter.maxInputTokens = some 4294967295 → tokens ≤ 4294967295

/-- The messages within the input limit are together within the session's limit, and every
message is measured.
-/
structure TokenBudgetFilter.Suffices (filter : TokenBudgetFilter) (messages : List Message)
    (charged : Nat)
    : Prop where
  session : filter.WithinSession (charged + filter.tokensWithinInput messages)
  measured : ∀ message ∈ messages, filter.Measured (tokensOf message.content)

/-- The session's count is not ahead of what it was charged, which is within its limit. -/
structure TokenBudgetFilter.Accounts (filter : TokenBudgetFilter) (charged : Nat)
    (context : PipelineContext)
    : Prop where
  behind : (context.sessionTokenCount.getD 0).toNat ≤ charged
  within : filter.WithinSession charged

section Budget

variable {filter : TokenBudgetFilter} {message : Message} {context : PipelineContext}
  {charged : Nat}

theorem estimateTokens_toNat (text : String)
    : (estimateTokens text).toNat = min (tokensOf text) 4294967295 := by
  rw [estimateTokens, UInt32.toNat_ofNat']
  omega

/-- What is within a limit is still within it when it is less. -/
theorem TokenBudgetFilter.WithinInput.mono {tokens fewer : Nat}
    (within : filter.WithinInput tokens) (le : fewer ≤ tokens)
    : filter.WithinInput fewer :=
  fun max member => Nat.le_trans le (within max member)

theorem TokenBudgetFilter.WithinSession.mono {tokens fewer : Nat}
    (within : filter.WithinSession tokens) (le : fewer ≤ tokens)
    : filter.WithinSession fewer :=
  fun max member => Nat.le_trans le (within max member)

/-- A message is refused at once exactly when its estimate is not within the input limit. -/
theorem TokenBudgetFilter.inputRefusal_eq_none_iff (filter : TokenBudgetFilter)
    (estimated : UInt32)
    : filter.inputRefusal estimated = none ↔ filter.WithinInput estimated.toNat := by
  unfold inputRefusal WithinInput
  cases filter.maxInputTokens with
  | none => simp
  | some max =>
      simp only [Option.mem_def, Option.some.injEq, forall_eq']
      rw [← UInt32.le_iff_toNat_le, ← UInt32.not_lt]
      split <;> simp_all

/-- A message refused for its own size leaves the session's count alone. -/
theorem TokenBudgetFilter.apply_of_tooLong
    (tooLong : ¬filter.WithinInput (estimateTokens message.content).toNat)
    : (filter.apply message context).result ≠ .ok ()
      ∧ (filter.apply message context).context.sessionTokenCount
        = context.sessionTokenCount := by
  rw [← inputRefusal_eq_none_iff] at tooLong
  obtain ⟨error, refused⟩ := Option.ne_none_iff_exists'.mp tooLong
  simp [apply, refused]

/-- Without a limit for the session, every message within the input limit is accepted. -/
theorem TokenBudgetFilter.apply_of_unlimited
    (within : filter.WithinInput (estimateTokens message.content).toNat)
    (unlimited : filter.maxSessionTokens = none)
    : (filter.apply message context).result = .ok ()
      ∧ (filter.apply message context).context.sessionTokenCount
        = context.sessionTokenCount := by
  rw [← inputRefusal_eq_none_iff] at within
  simp [apply, within, unlimited]

/-- With a limit the count is advanced, and the message accepted when it is still within. -/
theorem TokenBudgetFilter.apply_of_limited {maxSession : UInt64}
    (within : filter.WithinInput (estimateTokens message.content).toNat)
    (limited : filter.maxSessionTokens = some maxSession)
    : let newTotal :=
        context.sessionTokenCount.getD 0 + (estimateTokens message.content).toUInt64
      ((filter.apply message context).result = .ok () ↔ newTotal ≤ maxSession)
      ∧ (filter.apply message context).context.sessionTokenCount = some newTotal := by
  rw [← inputRefusal_eq_none_iff] at within
  simp only [apply, within, limited, ← UInt64.not_lt]
  split <;> simp_all

/-- A message within both limits is accepted, and charged no more than its tokens. -/
theorem TokenBudgetFilter.Accounts.accept (accounts : filter.Accounts charged context)
    (input : filter.WithinInput (tokensOf message.content))
    (session : filter.WithinSession (charged + tokensOf message.content))
    : (filter.apply message context).result = .ok ()
      ∧ filter.Accounts (charged + tokensOf message.content)
          (filter.apply message context).context := by
  have measured := estimateTokens_toNat message.content
  have within := input.mono (show (estimateTokens message.content).toNat ≤ _ by omega)
  have behind := accounts.behind
  cases limit : filter.maxSessionTokens with
  | none =>
      obtain ⟨accepted, same⟩ := @apply_of_unlimited filter message context within limit
      refine ⟨accepted, ?_, session⟩
      rw [same]
      omega
  | some maxSession =>
      obtain ⟨accepted, count⟩ := @apply_of_limited filter message context _ within limit
      have room := session maxSession limit
      have small := maxSession.toNat_lt
      have total
          : (context.sessionTokenCount.getD 0
                + (estimateTokens message.content).toUInt64).toNat
            = (context.sessionTokenCount.getD 0).toNat
              + (estimateTokens message.content).toNat := by
        rw [UInt64.toNat_add, UInt32.toNat_toUInt64]
        exact Nat.mod_eq_of_lt (by omega)
      refine ⟨accepted.mpr ?_, ?_, session⟩
      · rw [UInt64.le_iff_toNat_le, total]
        omega
      · rw [count, Option.getD_some, total]
        omega

/-- A message that passes the input limit with an estimate above zero, but is not within both
limits, is accepted or charged.
-/
theorem TokenBudgetFilter.not_chargesFairly
    (within : filter.WithinInput (estimateTokens message.content).toNat)
    (positive : 0 < (estimateTokens message.content).toNat)
    (exceeded
      : ¬(filter.WithinInput (tokensOf message.content)
        ∧ filter.WithinSession (charged + tokensOf message.content)))
    : ¬filter.ChargesFairly message charged context := by
  intro ⟨accepted, unchanged⟩
  have refused := fun ok => exceeded (accepted.mp ok)
  cases limit : filter.maxSessionTokens with
  | none => exact refused (apply_of_unlimited within limit).1
  | some maxSession =>
      have count := (@apply_of_limited filter message context _ within limit).2
      rw [unchanged refused] at count
      have advanced := congrArg (fun count => (count.getD 0).toNat) count
      have small := (estimateTokens message.content).toNat_lt
      have bound := (context.sessionTokenCount.getD 0).toNat_lt
      simp only [Option.getD_some, UInt64.toNat_add, UInt32.toNat_toUInt64] at advanced
      omega

/-- A message is measured exactly when it is within the input limit or refused at once. -/
theorem TokenBudgetFilter.measured_iff (text : String)
    : filter.Measured (tokensOf text)
      ↔ filter.WithinInput (tokensOf text)
        ∨ ¬filter.WithinInput (estimateTokens text).toNat := by
  have measured := estimateTokens_toNat text
  unfold Measured WithinInput
  cases filter.maxInputTokens with
  | none => simp
  | some max =>
      have bound := max.toNat_lt
      have largest : max = 4294967295 ↔ max.toNat = 4294967295 := UInt32.toNat_inj.symm
      simp only [Option.mem_def, Option.some.injEq, forall_eq', largest]
      omega

/-- Budgets suffice for a message and the rest when the message is measured and they suffice for
the rest, after the message if it is within the input limit.
-/
theorem TokenBudgetFilter.suffices_cons_iff (rest : List Message)
    : filter.Suffices (message :: rest) charged
      ↔ filter.Measured (tokensOf message.content)
        ∧ filter.Suffices rest
            (charged
              + if filter.WithinInput (tokensOf message.content) then
                  tokensOf message.content
                else 0) := by
  refine ⟨fun enough => ⟨?_, ?_, ?_⟩, fun ⟨measured, enough⟩ => ⟨?_, ?_⟩⟩
  · exact enough.measured message (by simp)
  · simpa only [tokensWithinInput, Nat.add_assoc] using enough.session
  · exact fun later member => enough.measured later (by simp [member])
  · simpa only [tokensWithinInput, Nat.add_assoc] using enough.session
  · exact List.forall_mem_cons.mpr ⟨measured, enough.measured⟩

/-- A message is charged fairly exactly when it is measured and, if it is within the input
limit, within the session's: otherwise it is charged all the same.
-/
theorem TokenBudgetFilter.Accounts.chargesFairly_iff
    (accounts : filter.Accounts charged context)
    : filter.ChargesFairly message charged context
      ↔ filter.Measured (tokensOf message.content)
        ∧ (filter.WithinInput (tokensOf message.content)
          → filter.WithinSession (charged + tokensOf message.content)) := by
  have estimate := estimateTokens_toNat message.content
  by_cases passed : filter.WithinInput (estimateTokens message.content).toNat
  · by_cases both
      : filter.WithinInput (tokensOf message.content)
        ∧ filter.WithinSession (charged + tokensOf message.content)
    · have accepted := (accounts.accept both.1 both.2).1
      have measured := (measured_iff message.content).mpr (.inl both.1)
      have fair : filter.ChargesFairly message charged context :=
        ⟨by simp [accepted, both.1, both.2], fun refused => absurd accepted refused⟩
      simp only [fair, measured, both.2, implies_true, and_self]
    · have positive : 0 < (estimateTokens message.content).toNat := by
        by_contra zero
        exact both ⟨passed.mono (by omega), accounts.within.mono (by omega)⟩
      have unfair : ¬filter.ChargesFairly message charged context :=
        not_chargesFairly passed positive both
      simp only [unfair, false_iff, measured_iff, passed, not_true_eq_false, or_false]
      intro within
      exact both ⟨within.1, within.2 within.1⟩
  · have input : ¬filter.WithinInput (tokensOf message.content) :=
      fun within => passed (within.mono (by omega))
    have measured := (measured_iff message.content).mpr (.inr passed)
    obtain ⟨refused, same⟩ := @apply_of_tooLong filter message context passed
    have fair : filter.ChargesFairly message charged context :=
      ⟨by simp [refused, input], fun _ => same⟩
    simp only [fair, measured, input, false_implies, and_self]

/-- A message that is charged fairly is accepted exactly when it is within the input limit, and
then charged.
-/
theorem TokenBudgetFilter.Accounts.step (accounts : filter.Accounts charged context)
    (fair : filter.ChargesFairly message charged context)
    : ((filter.apply message context).result = .ok ()
        ↔ filter.WithinInput (tokensOf message.content))
      ∧ filter.Accounts
          (charged
            + if filter.WithinInput (tokensOf message.content) then
                tokensOf message.content
              else 0)
          (filter.apply message context).context := by
  have session := (accounts.chargesFairly_iff.mp fair).2
  by_cases input : filter.WithinInput (tokensOf message.content)
  · obtain ⟨accepted, onward⟩ := accounts.accept input (session input)
    simp only [accepted, input, if_true, true_and]
    exact onward
  · have refused : (filter.apply message context).result ≠ .ok () :=
      fun accepted => input (fair.1.mp accepted).1
    simp only [refused, input, if_false, Nat.add_zero, true_and]
    exact ⟨fair.2 refused ▸ accounts.behind, accounts.within⟩

/-- Messages are charged fairly exactly when the budgets suffice for them, by induction on
them.
-/
theorem TokenBudgetFilter.Accounts.charges_iff (messages : List Message)
    (accounts : filter.Accounts charged context)
    : filter.ChargesAccepted messages charged context
      ↔ filter.Suffices messages charged := by
  induction messages generalizing charged context with
  | nil =>
      simp only [ChargesAccepted, true_iff]
      exact ⟨accounts.within, fun _ member => absurd member List.not_mem_nil⟩
  | cons message rest ih =>
      have onward (fair : filter.ChargesFairly message charged context)
          : filter.ChargesAccepted rest
                (if (filter.apply message context).result = .ok () then
                  charged + tokensOf message.content
                else charged)
                (filter.apply message context).context
            ↔ filter.Suffices rest
                (charged
                  + if filter.WithinInput (tokensOf message.content) then
                      tokensOf message.content
                    else 0) := by
        obtain ⟨accepted, kept⟩ := accounts.step fair
        rw [← ih kept]
        simp only [accepted]
        split
        · rfl
        · rfl
      rw [suffices_cons_iff, ChargesAccepted]
      refine ⟨?_, ?_⟩
      · intro charged
        obtain ⟨fair, later⟩ := charged
        exact ⟨(accounts.chargesFairly_iff.mp fair).1, (onward fair).mp later⟩
      · intro sufficient
        obtain ⟨measured, enough⟩ := sufficient
        have fair : filter.ChargesFairly message charged context := by
          refine accounts.chargesFairly_iff.mpr ⟨measured, fun input => ?_⟩
          refine enough.session.mono ?_
          rw [if_pos input]
          exact Nat.le_add_right _ _
        exact ⟨fair, (onward fair).mpr enough⟩

/-- Messages of a new session are charged fairly exactly if those within the input limit are
together within the session's limit, and none is too long to be measured.
-/
theorem TokenBudgetFilter.chargesAccepted_iff (filter : TokenBudgetFilter)
    (messages : List Message) (context : PipelineContext)
    (fresh : context.sessionTokenCount = none)
    : filter.ChargesAccepted messages 0 context ↔ filter.Suffices messages 0 := by
  have accounts : filter.Accounts 0 context :=
    ⟨by simp [fresh], fun _ _ => Nat.zero_le _⟩
  exact accounts.charges_iff messages

end Budget

/-- A message of the given number of letters. -/
def lettersMessage (count : Nat) : Message :=
  {
    role := "user"
    content := String.ofList (List.replicate count 'x')
    toolResults := []
    toolCalls := []
  }

/-- A session of ten tokens has room for two messages of five. -/
theorem TokenBudgetFilter.chargesAccepted_iff_two
    : (TokenBudgetFilter.mk none (some 10)).ChargesAccepted
        [lettersMessage 20, lettersMessage 20] 0 (.new "r" "s") := by
  have room
      : (TokenBudgetFilter.mk none (some 10)).Suffices [lettersMessage 20, lettersMessage 20]
          0 := by
    refine ⟨?_, ?_⟩
    · intro max limit
      obtain rfl := Option.some.inj limit
      decide +kernel
    · intro _ _ limit
      exact absurd limit (by simp)
  exact
    (chargesAccepted_iff (.mk none (some 10)) [lettersMessage 20, lettersMessage 20]
      (.new "r" "s") rfl).mpr
      room

/-- A message of eleven tokens is refused and charged to a session of ten. -/
theorem TokenBudgetFilter.charges_refused
    : ¬∀ (filter : TokenBudgetFilter) (messages : List Message) (context : PipelineContext),
        context.sessionTokenCount = none → filter.ChargesAccepted messages 0 context := by
  intro fair
  have charged :=
    (fair (.mk none (some 10)) [lettersMessage 44] (.new "r" "s") rfl).1.2 (by decide +kernel)
  exact absurd charged (by decide +kernel)

end Intellisphere.Sphere
