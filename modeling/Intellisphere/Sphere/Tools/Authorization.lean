import Intellisphere.Sphere.Tools.Interceptor

/-! Who may call a tool, as a matter of sets, and with which arguments. The checks of the
interceptor look for the first requirement that is not met.
-/

namespace Intellisphere.Sphere

open Intellisphere.Foundation

/-- The tool requires nothing, or the identity holds all the scopes and roles it requires. -/
def ToolRegistration.Authorizes (registration : ToolRegistration)
    (identity : Option Identity)
    : Prop :=
  (registration.requiredScopes = [] ∧ registration.requiredRoles = [])
  ∨ ∃ holder,
      identity = some holder
      ∧ registration.requiredScopes ⊆ holder.scopes
      ∧ registration.requiredRoles ⊆ holder.roles

/-- An identity with at least the scopes and roles of another. -/
def Widens (wider identity : Option Identity) : Prop :=
  ∀ holder,
    identity = some holder
    → ∃ other,
        wider = some other ∧ holder.scopes ⊆ other.scopes ∧ holder.roles ⊆ other.roles

/-- The arguments and the schema parse, and the schema's validator finds no error. -/
def ToolRegistration.AcceptsArguments (libraries : ToolLibraries)
    (registration : ToolRegistration) (paramsJson : String)
    : Prop :=
  ∃ params schema iterErrors,
    libraries.parseJson paramsJson = .ok params
    ∧ libraries.parseJson registration.inputSchemaJson = .ok schema
    ∧ libraries.validatorFor schema = .ok iterErrors
    ∧ iterErrors params = []

/-- Nothing wanted is missing exactly when all of it is held. -/
theorem firstMissing_eq_none {held wanted : List String}
    : firstMissing held wanted = none ↔ wanted ⊆ held := by
  unfold firstMissing
  rw [List.find?_eq_none]
  simp only [Bool.not_eq_true', Bool.not_eq_false, List.contains_iff_mem]
  rfl

/-- The identity's requirements are checked one after the other, scopes first. -/
theorem checkAuthorization_ok_iff {registration : ToolRegistration}
    {identity : Option Identity}
    : checkAuthorization registration identity = .ok ()
      ↔ registration.Authorizes identity := by
  unfold checkAuthorization ToolRegistration.Authorizes
  by_cases open' : registration.requiredScopes = [] ∧ registration.requiredRoles = []
  · simp [open'.1, open'.2]
  · have closed
        : (registration.requiredScopes.isEmpty && registration.requiredRoles.isEmpty)
          = false := by
      simpa using open'
    rw [closed]
    simp only [Bool.false_eq_true, if_false, open', false_or]
    cases identity with
    | none => simp
    | some holder =>
        simp only [Option.some.injEq, exists_eq_left', ← firstMissing_eq_none]
        cases firstMissing holder.scopes registration.requiredScopes with
        | some scope => simp
        | none =>
            cases firstMissing holder.roles registration.requiredRoles with
            | some role => simp
            | none => simp

/-- A wider identity may call whatever the narrower one may. -/
theorem ToolRegistration.Authorizes.widen {registration : ToolRegistration}
    {identity wider : Option Identity} (widens : Widens wider identity)
    (authorizes : registration.Authorizes identity)
    : registration.Authorizes wider := by
  rcases authorizes with open' | ⟨holder, held, scopes, roles⟩
  · exact Or.inl open'
  · obtain ⟨other, same, moreScopes, moreRoles⟩ := widens holder held
    exact Or.inr
      ⟨other, same, List.Subset.trans scopes moreScopes, List.Subset.trans roles moreRoles⟩

/-- Arguments are valid when every stage of the validation succeeds. -/
theorem validateParams_ok_iff {libraries : ToolLibraries} {registration : ToolRegistration}
    {paramsJson : String}
    : validateParams libraries paramsJson registration.inputSchemaJson = .ok ()
      ↔ registration.AcceptsArguments libraries paramsJson := by
  unfold validateParams ToolRegistration.AcceptsArguments
  cases libraries.parseJson paramsJson with
  | error message => simp
  | ok params =>
      cases libraries.parseJson registration.inputSchemaJson with
      | error message => simp
      | ok schema =>
          cases validator : libraries.validatorFor schema with
          | error message => simp [validator]
          | ok iterErrors =>
              cases errors : iterErrors params with
              | nil => simp [validator, errors]
              | cons first rest => simp [validator, errors]

end Intellisphere.Sphere
