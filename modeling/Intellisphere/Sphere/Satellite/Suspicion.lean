import Intellisphere.Sphere.Satellite.TrustBounds

/-! What a sequence of proposals costs a session in suspicion, against the documented weights
of their outcomes. The adjudicator tells an injection attempt by the name of the filter that
rejected the payload.
-/

namespace Intellisphere.Sphere

open Intellisphere.Foundation

/-- How a proposal ends, and where. -/
inductive ProposalOutcome where
  | accepted
  | budgetExhausted
  | unregistered
  | outsideZone
  | oversized
  | rejectedBy (filter : String)
  deriving DecidableEq

/-- The documented weight of an outcome: an injection attempt is what the sanitization filter
rejects.
-/
def ProposalOutcome.weight : ProposalOutcome → ℚ
  | .accepted => 0
  | .budgetExhausted => 0
  | .unregistered => suspicionUnregisteredTool
  | .outsideZone => suspicionUnregisteredTool
  | .oversized => suspicionOversized
  | .rejectedBy filter =>
      if filter = (inputSanitizationFilter {}).name then suspicionInjection
      else suspicionAdjudicationFailure

/-- The first filter of a chain that fails, on what the filters before it hand on. -/
def rejectingFilter {Error : Type}
    : List (Filter Error) → Message → PipelineContext → Option (Filter Error)
  | [], _, _ => none
  | filter :: rest, message, context =>
      let run := filter.apply message context
      match run.result with
      | .ok () => rejectingFilter rest run.message run.context
      | .error _ => some filter

/-- The outcome of a proposal: the checks in the documented order. -/
def proposalOutcome (registry : ToolRegistry) (pipeline : PipelineChain) (requestId : String)
    (session : SatelliteSession) (proposal : ToolProposal)
    : ProposalOutcome :=
  if session.trustBudget.remaining - 1 ≤ 0 then .budgetExhausted
  else
    match registry.get proposal.toolName with
    | none => .unregistered
    | some registration =>
        if registration.zone ≠ .satellite then .outsideZone
        else if maxResultBytes < proposal.resultPayload.utf8ByteSize then .oversized
        else
          match
            rejectingFilter pipeline.inboundFilters proposal.message
              (.new requestId session.sessionId)
          with
          | none => .accepted
          | some filter => .rejectedBy filter.name

/-- A proposal with the id its pipeline run gets. -/
structure SubmittedProposal where
  requestId : String
  proposal : ToolProposal

/-- The session after the proposals, one after the other. -/
def adjudicateAll (registry : ToolRegistry) (pipeline : PipelineChain)
    : SatelliteSession → List SubmittedProposal → SatelliteSession
  | session, [] => session
  | session, ⟨requestId, proposal⟩ :: rest =>
      adjudicateAll registry pipeline
        (adjudicate registry pipeline requestId session proposal).1 rest

/-- The sum of the documented weights of the outcomes of the proposals. -/
def documentedSuspicion (registry : ToolRegistry) (pipeline : PipelineChain)
    : SatelliteSession → List SubmittedProposal → ℚ
  | _, [] => 0
  | session, ⟨requestId, proposal⟩ :: rest =>
      (proposalOutcome registry pipeline requestId session proposal).weight
      + documentedSuspicion registry pipeline
          (adjudicate registry pipeline requestId session proposal).1 rest

/-- The sanitization filter rejects the content. -/
structure InputSanitizationConfig.Rejects (config : InputSanitizationConfig)
    (content : String)
    : Prop where
  enabled : config.enabled = true
  rejectNullBytes : config.rejectNullBytes = true
  nullByte : '\x00' ∈ content.toList

/-- The proposal reaches the sanitization filter, with the budget left before it, and is
rejected there.
-/
structure ToolProposal.RejectedAsInjection (proposal : ToolProposal) (registry : ToolRegistry)
    (config : InputSanitizationConfig) (remaining : ℚ)
    : Prop where
  funded : 1 < remaining
  zone
    : ∃ registration,
        registry.get proposal.toolName = some registration
        ∧ registration.zone = .satellite
  size : proposal.resultPayload.utf8ByteSize ≤ maxResultBytes
  rejects : config.Rejects proposal.resultPayload

/-- None of the proposals is rejected by the sanitization filter, the first of them coming
with `remaining` units of the budget left.
-/
def NoInjection (registry : ToolRegistry) (config : InputSanitizationConfig)
    (remaining : ℚ) (proposals : List SubmittedProposal)
    : Prop :=
  ∀ (index : ℕ) (submitted : SubmittedProposal),
    proposals[index]? = some submitted
    → ¬submitted.proposal.RejectedAsInjection registry config (remaining - index)

-----------------------------------------------------------------------------------------
-- The configured inbound chain
-----------------------------------------------------------------------------------------

section Chain

variable {config : InputSanitizationConfig} {message : Message}

/-- The filter rejects what it is said to reject. -/
theorem InputSanitizationConfig.Rejects.apply (context : PipelineContext)
    (rejects : config.Rejects message.content)
    : (config.apply message context).result
      = .error (.filterRejected "InputSanitization" "Input contains null bytes") := by
  obtain ⟨enabled, rejectNullBytes, nullByte⟩ := rejects
  unfold InputSanitizationConfig.apply InputSanitizationConfig.sanitize
  simp [enabled, rejectNullBytes, nullByte]

/-- The filter passes everything else, stripped or not. -/
theorem InputSanitizationConfig.apply_ok (context : PipelineContext)
    (enabled : config.enabled = true) (passes : ¬config.Rejects message.content)
    : (config.apply message context).result = .ok () := by
  have clean : (config.rejectNullBytes && '\x00' ∈ message.content.toList) = false := by
    by_contra found
    obtain ⟨rejectNullBytes, nullByte⟩ : config.rejectNullBytes = true
        ∧ '\x00' ∈ message.content.toList := by simpa using found
    exact passes ⟨enabled, rejectNullBytes, nullByte⟩
  unfold InputSanitizationConfig.apply InputSanitizationConfig.sanitize
  rw [enabled, clean]
  cases config.stripControlChars <;> rfl

variable (tables : UnicodeTables) {pipeline : PipelineConfig} (context : PipelineContext)

/-- A content that the sanitization filter does not reject passes the configured chain. -/
theorem runInbound_fromConfig_ok
    (passes : ¬pipeline.inbound.inputSanitization.Rejects message.content)
    : ((PipelineChain.fromConfig tables pipeline).runInbound message context).result = .ok ()
      ∧ rejectingFilter (PipelineChain.fromConfig tables pipeline).inboundFilters message
          context
        = none := by
  unfold PipelineChain.runInbound PipelineChain.fromConfig whenEnabled
  cases enabled : pipeline.inbound.inputSanitization.enabled with
  | false => exact ⟨rfl, rfl⟩
  | true =>
      have ok := InputSanitizationConfig.apply_ok context enabled passes
      simp [runFilters, rejectingFilter, inputSanitizationFilter, ok]

/-- A content that the sanitization filter rejects is rejected by the configured chain, under
the filter's name.
-/
theorem runInbound_fromConfig_rejected
    (rejects : pipeline.inbound.inputSanitization.Rejects message.content)
    : ((PipelineChain.fromConfig tables pipeline).runInbound message context).result
        = .error (.filterRejected "InputSanitization" "Input contains null bytes")
      ∧ rejectingFilter (PipelineChain.fromConfig tables pipeline).inboundFilters message
          context
        = some (inputSanitizationFilter pipeline.inbound.inputSanitization) := by
  have error := rejects.apply context
  unfold PipelineChain.runInbound PipelineChain.fromConfig whenEnabled
  simp [runFilters, rejectingFilter, inputSanitizationFilter, rejects.enabled, error]

end Chain

-----------------------------------------------------------------------------------------
-- One proposal and the sequence
-----------------------------------------------------------------------------------------

section Sequence

variable {registry : ToolRegistry} (tables : UnicodeTables) {config : PipelineConfig}
  (requestId : String) {session : SatelliteSession} {proposal : ToolProposal}

theorem noInjection_cons {sanitization : InputSanitizationConfig} {remaining : ℚ}
    {first : SubmittedProposal} {rest : List SubmittedProposal}
    : NoInjection registry sanitization remaining (first :: rest)
      ↔ ¬first.proposal.RejectedAsInjection registry sanitization remaining
        ∧ NoInjection registry sanitization (remaining - 1) rest := by
  have later (index : ℕ) : remaining - (index + 1 : ℕ) = remaining - 1 - index := by
    rw [Nat.cast_succ, sub_sub, add_comm (1 : ℚ)]
  constructor
  · intro none
    refine ⟨?_, ?_⟩
    · have innocent := none 0 first rfl
      rwa [Nat.cast_zero, sub_zero] at innocent
    · intro index submitted found
      rw [← later]
      exact none (index + 1) submitted found
  · intro ⟨innocent, clean⟩ index submitted found
    cases index with
    | zero =>
        obtain rfl := Option.some.inj found
        rwa [Nat.cast_zero, sub_zero]
    | succ index =>
        rw [later]
        exact clean index submitted found

/-- A proposal without a budget ends there. -/
theorem adjudicate_score_exhausted (pipeline : PipelineChain)
    (spent : session.trustBudget.remaining ≤ 1)
    : (adjudicate registry pipeline requestId session proposal).1.trustBudget.suspicionScore
        = session.trustBudget.suspicionScore
      ∧ proposalOutcome registry pipeline requestId session proposal = .budgetExhausted := by
  have unpaid : ¬0 < session.trustBudget.remaining - 1 := by linarith
  unfold adjudicate proposalOutcome
  simp [TrustBudget.deduct, defaultTrustCost, unpaid, not_lt.mp unpaid]

/-- A proposal that fails before the pipeline is charged its documented weight. -/
theorem adjudicate_score_unchecked (pipeline : PipelineChain)
    (funded : 1 < session.trustBudget.remaining)
    (ill
      : ∀ registration,
          registry.get proposal.toolName = some registration
          → registration.zone = .satellite
          → maxResultBytes < proposal.resultPayload.utf8ByteSize)
    : (adjudicate registry pipeline requestId session proposal).1.trustBudget.suspicionScore
      = session.trustBudget.suspicionScore
        + (proposalOutcome registry pipeline requestId session proposal).weight := by
  have paid : 0 < session.trustBudget.remaining - 1 := by linarith
  unfold adjudicate proposalOutcome
  simp only [TrustBudget.deduct, defaultTrustCost, paid, not_le.mpr paid, decide_true,
    Bool.not_true, Bool.false_eq_true, if_false]
  cases found : registry.get proposal.toolName with
  | none => rfl
  | some registration =>
      by_cases zone : registration.zone = .satellite
      case neg =>
        simp only [ne_eq, zone, not_false_eq_true, if_true]
        rfl
      have oversized := ill registration found zone
      simp only [ne_eq, zone, not_true_eq_false, gt_iff_lt, oversized, if_false, if_true]
      rfl

/-- A proposal that reaches the pipeline is charged what the payload is charged. -/
theorem adjudicate_checked (pipeline : PipelineChain)
    (funded : 1 < session.trustBudget.remaining) {registration : ToolRegistration}
    (found : registry.get proposal.toolName = some registration)
    (zone : registration.zone = .satellite)
    (size : proposal.resultPayload.utf8ByteSize ≤ maxResultBytes)
    : adjudicate registry pipeline requestId session proposal
        = adjudicatePayload pipeline requestId session.charge proposal
      ∧ proposalOutcome registry pipeline requestId session proposal
        = match
            rejectingFilter pipeline.inboundFilters proposal.message
              (.new requestId session.sessionId)
          with
          | none => .accepted
          | some filter => .rejectedBy filter.name := by
  have paid : 0 < session.trustBudget.remaining - 1 := by linarith
  unfold adjudicate proposalOutcome
  simp only [TrustBudget.deduct, defaultTrustCost, paid, not_le.mpr paid, decide_true,
    Bool.not_true, Bool.false_eq_true, if_false, found, ne_eq, zone, not_true_eq_false,
    gt_iff_lt, not_lt.mpr size]
  exact ⟨rfl, trivial⟩

theorem adjudicatePayload_ok {pipeline : PipelineChain} (session : SatelliteSession)
    (ok
      : (pipeline.runInbound proposal.message (.new requestId session.sessionId)).result
        = .ok ())
    : adjudicatePayload pipeline requestId session proposal = (session, .accept) := by
  unfold adjudicatePayload
  simp only [ok]

theorem adjudicatePayload_rejected {pipeline : PipelineChain} {filter reason : String}
    (session : SatelliteSession)
    (error
      : (pipeline.runInbound proposal.message (.new requestId session.sessionId)).result
        = .error (.filterRejected filter reason))
    : (adjudicatePayload pipeline requestId session proposal).1
      = session.suspect
          (if containsText filter.toList "sanitiz".toList then suspicionInjection
            else suspicionAdjudicationFailure) := by
  unfold adjudicatePayload
  simp only [error]

/-- A proposal that is no injection attempt is charged its documented weight. -/
theorem adjudicate_score
    (innocent
      : ¬proposal.RejectedAsInjection registry config.inbound.inputSanitization
          session.trustBudget.remaining)
    : (adjudicate registry (.fromConfig tables config) requestId session
          proposal).1.trustBudget.suspicionScore
      = session.trustBudget.suspicionScore
        + (proposalOutcome registry (.fromConfig tables config) requestId session
            proposal).weight := by
  by_cases funded : 1 < session.trustBudget.remaining
  case neg =>
    obtain ⟨same, outcome⟩ :=
      adjudicate_score_exhausted requestId (.fromConfig tables config) (not_lt.mp funded)
    rw [same, outcome]
    exact (add_zero _).symm
  by_cases checked
      : ∃ registration,
          registry.get proposal.toolName = some registration
          ∧ registration.zone = .satellite
          ∧ proposal.resultPayload.utf8ByteSize ≤ maxResultBytes
  case neg =>
    refine adjudicate_score_unchecked requestId _ funded ?_
    intro registration found zone
    exact not_le.mp fun size => checked ⟨registration, found, zone, size⟩
  obtain ⟨registration, found, zone, size⟩ := checked
  have passes : ¬config.inbound.inputSanitization.Rejects proposal.message.content :=
    fun rejects => innocent ⟨funded, ⟨registration, found, zone⟩, size, rejects⟩
  obtain ⟨ok, unrejected⟩ :=
    runInbound_fromConfig_ok tables (.new requestId session.sessionId) passes
  obtain ⟨judged, outcome⟩ := adjudicate_checked requestId (.fromConfig tables config)
    funded found zone size
  have accepted := adjudicatePayload_ok requestId session.charge ok
  rw [judged, outcome, unrejected, accepted]
  exact (add_zero _).symm

/-- An injection attempt is charged as any other rejection: the name of the filter, with a
capital letter, does not contain what the adjudicator looks for.
-/
theorem adjudicate_score_injection
    (injection
      : proposal.RejectedAsInjection registry config.inbound.inputSanitization
          session.trustBudget.remaining)
    : (adjudicate registry (.fromConfig tables config) requestId session
          proposal).1.trustBudget.suspicionScore
      < session.trustBudget.suspicionScore
        + (proposalOutcome registry (.fromConfig tables config) requestId session
            proposal).weight := by
  obtain ⟨funded, ⟨registration, found, zone⟩, size, rejects⟩ := injection
  have found' : config.inbound.inputSanitization.Rejects proposal.message.content := rejects
  obtain ⟨error, rejecting⟩ :=
    runInbound_fromConfig_rejected tables (.new requestId session.sessionId) found'
  obtain ⟨judged, outcome⟩ := adjudicate_checked requestId (.fromConfig tables config)
    funded found zone size
  have rejected := adjudicatePayload_rejected requestId session.charge error
  have documented
      : (ProposalOutcome.rejectedBy
            (inputSanitizationFilter config.inbound.inputSanitization).name).weight
        = suspicionInjection := by
    simp [ProposalOutcome.weight, inputSanitizationFilter]
  have unnamed : containsText "InputSanitization".toList "sanitiz".toList = false := by decide
  rw [judged, outcome, rejecting, documented, rejected, unnamed]
  refine add_lt_add_right ?_ session.trustBudget.suspicionScore
  norm_num [suspicionInjection, suspicionAdjudicationFailure]

/-- The scores of a sequence of proposals: never above the documented sum, and equal to it
exactly when none of them is an injection attempt. By induction on the sequence, the budget
going down by one with each.
-/
theorem adjudicateAll_score (proposals : List SubmittedProposal)
    : (adjudicateAll registry (.fromConfig tables config) session
          proposals).trustBudget.suspicionScore
        ≤ session.trustBudget.suspicionScore
          + documentedSuspicion registry (.fromConfig tables config) session proposals
      ∧ ((adjudicateAll registry (.fromConfig tables config) session
              proposals).trustBudget.suspicionScore
            = session.trustBudget.suspicionScore
              + documentedSuspicion registry (.fromConfig tables config) session proposals
          ↔ NoInjection registry config.inbound.inputSanitization
              session.trustBudget.remaining proposals) := by
  induction proposals generalizing session with
  | nil => simp [adjudicateAll, documentedSuspicion, NoInjection]
  | cons first rest ih =>
      obtain ⟨requestId, proposal⟩ := first
      have spent := (adjudicate_spec registry (.fromConfig tables config) requestId session
        proposal).remaining
      obtain ⟨below, exact'⟩ := @ih
        (adjudicate registry (.fromConfig tables config) requestId session proposal).1
      rw [spent] at exact'
      unfold adjudicateAll documentedSuspicion
      rw [noInjection_cons, ← exact']
      by_cases injection
          : proposal.RejectedAsInjection registry config.inbound.inputSanitization
              session.trustBudget.remaining
      · have short := adjudicate_score_injection tables requestId injection
        refine ⟨by linarith, iff_of_false (by linarith) ?_⟩
        exact fun none => none.1 injection
      · have score := adjudicate_score tables requestId injection
        refine ⟨by linarith, ?_⟩
        rw [and_iff_right injection, score]
        constructor <;> intro same <;> linarith

/-- Every proposal costs one unit of the budget, by induction on the sequence. -/
theorem adjudicateAll_remaining (pipeline : PipelineChain)
    (proposals : List SubmittedProposal)
    : (adjudicateAll registry pipeline session proposals).trustBudget.remaining
      = session.trustBudget.remaining - proposals.length := by
  induction proposals generalizing session with
  | nil => simp [adjudicateAll]
  | cons first rest ih =>
      obtain ⟨requestId, proposal⟩ := first
      unfold adjudicateAll
      rw [ih, (adjudicate_spec registry pipeline requestId session proposal).remaining,
        List.length_cons, Nat.cast_succ, sub_sub, add_comm]

end Sequence

/-- Over every sequence of proposals the suspicion score rises by the documented weights of
the outcomes exactly when none of the proposals is rejected by the sanitization filter, and
every proposal costs one unit of the budget.
-/
theorem suspicionScore_documented_iff (registry : ToolRegistry) (tables : UnicodeTables)
    (config : PipelineConfig) (session : SatelliteSession)
    (proposals : List SubmittedProposal)
    : let after := adjudicateAll registry (.fromConfig tables config) session proposals
      (after.trustBudget.suspicionScore
          = session.trustBudget.suspicionScore
            + documentedSuspicion registry (.fromConfig tables config) session proposals
        ↔ NoInjection registry config.inbound.inputSanitization
            session.trustBudget.remaining proposals)
      ∧ after.trustBudget.remaining = session.trustBudget.remaining - proposals.length :=
  ⟨(adjudicateAll_score tables proposals).2, adjudicateAll_remaining _ proposals⟩

/-- A result with a null byte in it. -/
def nullByteProposal : SubmittedProposal :=
  { requestId := "r-1", proposal := { toolName := "measure", resultPayload := "1\x002" } }

/-- The null byte is rejected by the sanitization filter and costs a fifth, not a half. -/
theorem suspicionScore_nullByte
    : let pipeline := PipelineChain.fromConfig asciiTables {}
      let after :=
        adjudicateAll smallState.toolRegistry pipeline (smallSession 2) [nullByteProposal]
      after.trustBudget.suspicionScore = 1 / 5
      ∧ documentedSuspicion smallState.toolRegistry pipeline (smallSession 2)
          [nullByteProposal]
        = 1 / 2
      ∧ after.trustBudget.suspicionScore
        ≠ (smallSession 2).trustBudget.suspicionScore
          + documentedSuspicion smallState.toolRegistry pipeline (smallSession 2)
              [nullByteProposal] := by
  decide +kernel

end Intellisphere.Sphere
