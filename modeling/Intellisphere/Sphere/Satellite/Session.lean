import Mathlib.Algebra.Order.Field.Rat
import Mathlib.Algebra.Order.Group.Defs
import Intellisphere.Sphere.Config

/-! Satellite sessions: their trust budget and the manager that holds them. Budgets and
scores are exact rationals.
-/

namespace Intellisphere.Sphere

def suspicionUnregisteredTool : ℚ :=
  3 / 10

def suspicionOversized : ℚ :=
  2 / 10

def suspicionAdjudicationFailure : ℚ :=
  2 / 10

def suspicionInjection : ℚ :=
  5 / 10

structure TrustBudget where
  initial : ℚ
  remaining : ℚ
  suspicionScore : ℚ
  suspicionThreshold : ℚ
  deriving DecidableEq

def TrustBudget.new (initial suspicionThreshold : ℚ) : TrustBudget :=
  { initial, remaining := initial, suspicionScore := 0, suspicionThreshold }

/-- Deduct an amount; the flag says whether the budget is still positive. -/
def TrustBudget.deduct (budget : TrustBudget) (amount : ℚ) : Bool × TrustBudget :=
  let remaining := budget.remaining - amount
  (decide (0 < remaining), { budget with remaining })

/-- The budget stays positive exactly when it exceeds the amount. -/
theorem TrustBudget.deduct_positive {budget : TrustBudget} {amount : ℚ}
    : (budget.deduct amount).1 = true ↔ amount < budget.remaining := by
  simp only [deduct, decide_eq_true_eq, sub_pos]

/-- Add to the suspicion score. -/
def TrustBudget.addSuspicion (budget : TrustBudget) (amount : ℚ) : TrustBudget :=
  { budget with suspicionScore := budget.suspicionScore + amount }

def TrustBudget.isExhausted (budget : TrustBudget) : Bool :=
  decide (budget.remaining ≤ 0)

def TrustBudget.isSuspicious (budget : TrustBudget) : Bool :=
  decide (budget.suspicionThreshold ≤ budget.suspicionScore)

/-- A point in time, in nanoseconds since the Unix epoch. -/
abbrev DateTime :=
  Int

structure SatelliteSession where
  sessionId : String
  identitySub : String
  trustBudget : TrustBudget
  expiresAt : DateTime
  deriving DecidableEq

structure SessionManager where
  sessions : HashMap SatelliteSession

def SessionManager.new : SessionManager :=
  { sessions := ∅ }

/-- Store a new session under its id. -/
def SessionManager.create (manager : SessionManager) (sessionId identitySub : String)
    (trustBudget : TrustBudget) (expiresAt : DateTime)
    : SessionManager :=
  {
    sessions :=
      manager.sessions.insert sessionId { sessionId, identitySub, trustBudget, expiresAt }
  }

def SessionManager.get (manager : SessionManager) (sessionId : String)
    : Option SatelliteSession :=
  manager.sessions.lookup sessionId

/-- Write back a session that was borrowed mutably. -/
def SessionManager.put (manager : SessionManager) (sessionId : String)
    (session : SatelliteSession)
    : SessionManager :=
  { sessions := manager.sessions.insert sessionId session }

def SessionManager.remove (manager : SessionManager) (sessionId : String)
    : SessionManager :=
  { sessions := manager.sessions.erase sessionId }

/-- The sessions in a given order of their ids. -/
def SessionManager.sessionsIter (manager : SessionManager) (order : List String)
    : List (String × SatelliteSession) :=
  order.filterMap (fun sessionId => (manager.get sessionId).map (Prod.mk sessionId))

@[simp]
theorem SessionManager.get_put_self (manager : SessionManager) (sessionId : String)
    (session : SatelliteSession)
    : (manager.put sessionId session).get sessionId = some session :=
  AList.lookup_insert _

theorem SessionManager.get_put_ne (manager : SessionManager) {sessionId other : String}
    (session : SatelliteSession) (differs : other ≠ sessionId)
    : (manager.put sessionId session).get other = manager.get other :=
  AList.lookup_insert_ne differs

/-- Creating a session stores it under its id. -/
theorem SessionManager.get_create_self (manager : SessionManager)
    (sessionId identitySub : String) (trustBudget : TrustBudget) (expiresAt : DateTime)
    : (manager.create sessionId identitySub trustBudget expiresAt).get sessionId
      = some { sessionId, identitySub, trustBudget, expiresAt } :=
  AList.lookup_insert _

/-- Creating a session leaves the others alone. -/
theorem SessionManager.get_create_ne (manager : SessionManager)
    {sessionId other : String} (identitySub : String) (trustBudget : TrustBudget)
    (expiresAt : DateTime) (differs : other ≠ sessionId)
    : (manager.create sessionId identitySub trustBudget expiresAt).get other
      = manager.get other :=
  AList.lookup_insert_ne differs

/-- An iteration lists the stored sessions whose ids it visits. -/
theorem SessionManager.mem_sessionsIter {manager : SessionManager} {order : List String}
    {entry : String × SatelliteSession}
    : entry ∈ manager.sessionsIter order
      ↔ entry.1 ∈ order ∧ manager.get entry.1 = some entry.2 := by
  obtain ⟨sessionId, session⟩ := entry
  simp only [sessionsIter, List.mem_filterMap, Option.map_eq_some_iff, Prod.mk.injEq]
  refine ⟨?_, ?_⟩
  · intro found
    obtain ⟨_, member, _, stored, rfl, rfl⟩ := found
    exact ⟨member, stored⟩
  · intro found
    exact ⟨sessionId, found.1, session, found.2, rfl, rfl⟩

end Intellisphere.Sphere
