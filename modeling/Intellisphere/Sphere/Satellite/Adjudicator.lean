import Mathlib.Tactic.Linarith
import Mathlib.Tactic.NormNum
import Intellisphere.Sphere.Pipeline.Chain
import Intellisphere.Sphere.Satellite.Session
import Intellisphere.Sphere.Tools.Registry

/-! Adjudication of the tool results a satellite proposes. -/

namespace Intellisphere.Sphere

open Intellisphere.Foundation

/-- Maximum allowed result payload size in bytes (256 KiB). -/
def maxResultBytes : Nat :=
  256 * 1024

/-- Cost deducted from the trust budget per tool proposal. -/
def defaultTrustCost : ℚ :=
  1

structure ToolProposal where
  toolName : String
  resultPayload : String
  deriving DecidableEq

structure AdjudicationResult where
  accepted : Bool
  reason : Option String
  deriving DecidableEq

def AdjudicationResult.accept : AdjudicationResult :=
  { accepted := true, reason := none }

def AdjudicationResult.reject (reason : String) : AdjudicationResult :=
  { accepted := false, reason := some reason }

/-- Charge a session with suspicion. -/
def SatelliteSession.suspect (session : SatelliteSession) (amount : ℚ) : SatelliteSession :=
  { session with trustBudget := session.trustBudget.addSuspicion amount }

/-- The message the inbound pipeline sees for a proposal. -/
def ToolProposal.message (proposal : ToolProposal) : Message :=
  { role := "tool", content := proposal.resultPayload, toolResults := [], toolCalls := [] }

/-- Run the payload through the inbound pipeline. A rejection by a filter that calls itself
sanitizing counts as an injection attempt.
-/
def adjudicatePayload (pipeline : PipelineChain) (requestId : String)
    (session : SatelliteSession) (proposal : ToolProposal)
    : SatelliteSession × AdjudicationResult :=
  let context := PipelineContext.new requestId session.sessionId
  match (pipeline.runInbound proposal.message context).result with
  | .ok () => (session, .accept)
  | .error (.filterRejected filter reason) =>
      (
        session.suspect
          (if containsText filter.toList "sanitiz".toList then suspicionInjection
            else suspicionAdjudicationFailure),
        .reject ("inbound filter '" ++ filter ++ "' rejected: " ++ reason)
      )
  | .error error =>
      (
        session.suspect suspicionAdjudicationFailure,
        .reject ("pipeline error: " ++ error.display)
      )

/-- Adjudicate a proposal: deduct its cost, insist on a registered tool of the Satellite zone
and on the payload size, and run the payload through the inbound pipeline.
-/
def adjudicate (registry : ToolRegistry) (pipeline : PipelineChain) (requestId : String)
    (session : SatelliteSession) (proposal : ToolProposal)
    : SatelliteSession × AdjudicationResult :=
  let (positive, trustBudget) := session.trustBudget.deduct defaultTrustCost
  let session := { session with trustBudget }
  if !positive then (session, .reject "trust budget exhausted")
  else
    match registry.get proposal.toolName with
    | none =>
        (
          session.suspect suspicionUnregisteredTool,
          .reject ("tool '" ++ proposal.toolName ++ "' is not registered")
        )
    | some registration =>
        if registration.zone ≠ .satellite then
          (
            session.suspect suspicionUnregisteredTool,
            .reject ("tool '" ++ proposal.toolName ++ "' is not in the Satellite zone")
          )
        else if proposal.resultPayload.utf8ByteSize > maxResultBytes then
          (
            session.suspect suspicionOversized,
            .reject
              ("result payload exceeds maximum size ("
                ++ toString proposal.resultPayload.utf8ByteSize ++ " > "
                ++ toString maxResultBytes ++ " bytes)")
          )
        else adjudicatePayload pipeline requestId session proposal

section Adjudication

variable (registry : ToolRegistry) (pipeline : PipelineChain) (requestId : String)
  (session : SatelliteSession) (proposal : ToolProposal)

/-- The proposal names a registered tool of the Satellite zone, fits the size limit and
passes the inbound pipeline.
-/
structure Wellformed : Prop where
  zone
    : ∃ registration,
        registry.get proposal.toolName = some registration
        ∧ registration.zone = .satellite
  size : proposal.resultPayload.utf8ByteSize ≤ maxResultBytes
  passes
    : (pipeline.runInbound proposal.message (.new requestId session.sessionId)).result
      = .ok ()

/-- What a proposal does to its session: it costs one unit, never lowers the suspicion
score, and changes nothing else; it is accepted without suspicion exactly when the budget
stays positive and it is well formed, and otherwise either the budget is exhausted or the
score rises by at least a fifth.
-/
structure Adjudicated (after : SatelliteSession) (result : AdjudicationResult) : Prop where
  sessionId : after.sessionId = session.sessionId
  identitySub : after.identitySub = session.identitySub
  expiresAt : after.expiresAt = session.expiresAt
  threshold
    : after.trustBudget.suspicionThreshold = session.trustBudget.suspicionThreshold
  initial : after.trustBudget.initial = session.trustBudget.initial
  remaining : after.trustBudget.remaining = session.trustBudget.remaining - 1
  accepts
    : result.accepted = true
      ↔ 1 < session.trustBudget.remaining
        ∧ Wellformed registry pipeline requestId session proposal
  calm
    : result.accepted = true
      → after.trustBudget.suspicionScore = session.trustBudget.suspicionScore
  rejects
    : result.accepted = false
      → (session.trustBudget.remaining ≤ 1
          ∧ after.trustBudget.suspicionScore = session.trustBudget.suspicionScore)
        ∨ session.trustBudget.suspicionScore + 1 / 5 ≤ after.trustBudget.suspicionScore

variable {registry pipeline requestId session proposal}

/-- No adjudication lowers the suspicion score. -/
theorem Adjudicated.score_mono {after : SatelliteSession} {result : AdjudicationResult}
    (judged : Adjudicated registry pipeline requestId session proposal after result)
    : session.trustBudget.suspicionScore ≤ after.trustBudget.suspicionScore := by
  cases verdict : result.accepted with
  | true => exact (judged.calm verdict).ge
  | false =>
      rcases judged.rejects verdict with ⟨_, same⟩ | raised
      · exact same.ge
      · linarith

/-- The session after paying for a proposal. -/
def SatelliteSession.charge (session : SatelliteSession) : SatelliteSession :=
  { session with trustBudget := (session.trustBudget.deduct defaultTrustCost).2 }

/-- Charging suspicion of at least a fifth and rejecting is an adjudication of a proposal
that is not well formed.
-/
theorem Adjudicated.of_suspect {amount : ℚ} (weight : 1 / 5 ≤ amount)
    (ill : ¬Wellformed registry pipeline requestId session proposal) (reason : String)
    : Adjudicated registry pipeline requestId session proposal
        (session.charge.suspect amount) (.reject reason) where
  sessionId := rfl
  identitySub := rfl
  expiresAt := rfl
  threshold := rfl
  initial := rfl
  remaining := rfl
  accepts := by simp [AdjudicationResult.reject, ill]
  calm := by simp [AdjudicationResult.reject]
  rejects := by
    intro _
    right
    simp only [SatelliteSession.suspect, SatelliteSession.charge, TrustBudget.addSuspicion,
      TrustBudget.deduct]
    linarith

/-- Running the payload through the pipeline adjudicates a proposal whose other checks
passed.
-/
theorem adjudicatePayload_spec (positive : 1 < session.trustBudget.remaining)
    (zone
      : ∃ registration,
          registry.get proposal.toolName = some registration
          ∧ registration.zone = .satellite)
    (size : proposal.resultPayload.utf8ByteSize ≤ maxResultBytes)
    : Adjudicated registry pipeline requestId session proposal
        (adjudicatePayload pipeline requestId session.charge proposal).1
        (adjudicatePayload pipeline requestId session.charge proposal).2 := by
  have same : session.charge.sessionId = session.sessionId := rfl
  have spoiled {error : SphereError}
      (rejects
        : (pipeline.runInbound proposal.message (.new requestId session.sessionId)).result
          = .error error)
      : ¬Wellformed registry pipeline requestId session proposal := by
    intro wellformed
    have passes := wellformed.passes
    rw [rejects] at passes
    contradiction
  simp only [adjudicatePayload, same]
  split
  next passes =>
    have wellformed : Wellformed registry pipeline requestId session proposal :=
      ⟨zone, size, passes⟩
    exact
      {
        sessionId := rfl
        identitySub := rfl
        expiresAt := rfl
        threshold := rfl
        initial := rfl
        remaining := rfl
        accepts := by simp [AdjudicationResult.accept, positive, wellformed]
        calm := fun _ => rfl
        rejects := by simp [AdjudicationResult.accept]
      }
  next filter reason rejects =>
    refine .of_suspect ?_ (spoiled rejects) _
    split <;> norm_num [suspicionInjection, suspicionAdjudicationFailure]
  next error _ rejects =>
    refine .of_suspect ?_ (spoiled rejects) _
    norm_num [suspicionAdjudicationFailure]

variable (registry pipeline requestId session proposal)

/-- Every adjudication is one of those. Witness: the checks of the adjudicator in order. -/
theorem adjudicate_spec
    : Adjudicated registry pipeline requestId session proposal
        (adjudicate registry pipeline requestId session proposal).1
        (adjudicate registry pipeline requestId session proposal).2 := by
  simp only [adjudicate]
  split
  next refused =>
    have exhausted : session.trustBudget.remaining ≤ 1 := by
      rw [Bool.not_eq_true', ← Bool.not_eq_true, TrustBudget.deduct_positive] at refused
      exact not_lt.mp refused
    exact
      {
        sessionId := rfl
        identitySub := rfl
        expiresAt := rfl
        threshold := rfl
        initial := rfl
        remaining := rfl
        accepts := by
          simp [AdjudicationResult.reject, not_lt.mpr exhausted]
        calm := by simp [AdjudicationResult.reject]
        rejects := fun _ => .inl ⟨exhausted, rfl⟩
      }
  next paid =>
    have funded : 1 < session.trustBudget.remaining := by
      rw [Bool.not_eq_true', Bool.not_eq_false, TrustBudget.deduct_positive] at paid
      exact paid
    split
    next missing =>
      refine .of_suspect (by norm_num [suspicionUnregisteredTool]) ?_ _
      intro wellformed
      obtain ⟨registration, found, _⟩ := wellformed.zone
      rw [missing] at found
      contradiction
    next registration found =>
      split
      next elsewhere =>
        refine .of_suspect (by norm_num [suspicionUnregisteredTool]) ?_ _
        intro wellformed
        obtain ⟨other, same, zone⟩ := wellformed.zone
        obtain rfl := Option.some.inj (found.symm.trans same)
        exact elsewhere zone
      next zone =>
        split
        next oversized =>
          refine .of_suspect (by norm_num [suspicionOversized]) ?_ _
          exact fun wellformed => Nat.not_lt.mpr wellformed.size oversized
        next size =>
          exact adjudicatePayload_spec funded ⟨registration, found, not_not.mp zone⟩
            (Nat.not_lt.mp size)

end Adjudication

end Intellisphere.Sphere
