import Intellisphere.Sphere.Tools.Authorization

/-! What the claims of a token authorize. The scopes of a token come from an array and from a
string of words; the identity built from them holds the union.
-/

namespace Intellisphere.Sphere

open Intellisphere.Foundation

/-- The claims grant the scope, in the array or as a word of the scope string. -/
def Claims.Grants (claims : Claims) (scope : String) : Prop :=
  scope ∈ claims.scopes
  ∨ ∃ text, claims.scope = some text ∧ scope ∈ splitWhitespace text

/-- The claims grant the same scopes and hold the same roles, in whatever order and however
often.
-/
structure Claims.GrantsSame (claims other : Claims) : Prop where
  scopes : ∀ scope, claims.Grants scope ↔ other.Grants scope
  roles : ∀ role, role ∈ claims.roles ↔ role ∈ other.roles

/-- Merging loses no scope and adds only the words, by induction on the words. -/
theorem mem_mergeScopes {scopes words : List String} {scope : String}
    : scope ∈ mergeScopes scopes words ↔ scope ∈ scopes ∨ scope ∈ words := by
  unfold mergeScopes
  induction words generalizing scopes with
  | nil => simp
  | cons word rest ih =>
      rw [List.foldl_cons, ih, List.mem_cons, ← or_assoc]
      refine or_congr_left ?_
      split
      next held =>
        exact ⟨Or.inl, fun either => either.elim id fun same => same ▸ held⟩
      next => rw [List.mem_append, List.mem_singleton]

/-- What is missing from a list depends on its members only. -/
theorem firstMissing_congr {held other : List String}
    (same : ∀ name, name ∈ held ↔ name ∈ other) (wanted : List String)
    : firstMissing held wanted = firstMissing other wanted := by
  have contains (name : String) : held.contains name = other.contains name := by
    rw [Bool.eq_iff_iff, List.contains_iff_mem, List.contains_iff_mem, same]
  unfold firstMissing
  simp only [contains]

/-- The decision about an identity, with its error, depends only on what it holds. -/
theorem checkAuthorization_congr {identity other : Identity}
    (scopes : ∀ scope, scope ∈ identity.scopes ↔ scope ∈ other.scopes)
    (roles : ∀ role, role ∈ identity.roles ↔ role ∈ other.roles)
    (registration : ToolRegistration)
    : checkAuthorization registration (some identity)
      = checkAuthorization registration (some other) := by
  unfold checkAuthorization
  simp only [firstMissing_congr scopes, firstMissing_congr roles]

/-- The identity of a verified token holds the granted scopes and the roles of its claims. -/
theorem JwtAuthStrategy.authenticate_holds {decode : JwtDecoder} {strategy : JwtAuthStrategy}
    {token : String} {claims : Claims} {identity : Identity}
    (verified : decode strategy token = .ok claims)
    (built : strategy.authenticate decode token = .ok identity)
    : (∀ scope, scope ∈ identity.scopes ↔ claims.Grants scope)
      ∧ identity.roles = claims.roles := by
  unfold JwtAuthStrategy.authenticate at built
  rw [verified] at built
  cases named : claims.sub with
  | none => simp [named] at built
  | some sub =>
      simp only [named] at built
      obtain rfl := Except.ok.inj built
      refine ⟨?_, rfl⟩
      intro scope
      unfold Claims.Grants
      cases words : claims.scope with
      | none => simp
      | some text => simp [mem_mergeScopes]

/-- The scopes of a token decide tool authorization as a set: a tool is open to the identity
of a verified token exactly when it requires nothing or the claims grant every required scope
and role, and claims that grant the same get the same answer.
-/
theorem jwtScopes_authorize_iff {decode : JwtDecoder} {strategy : JwtAuthStrategy}
    {token : String} {claims : Claims} {identity : Identity}
    (verified : decode strategy token = .ok claims)
    (built : strategy.authenticate decode token = .ok identity)
    (registration : ToolRegistration)
    : (checkAuthorization registration (some identity) = .ok ()
        ↔ (registration.requiredScopes = [] ∧ registration.requiredRoles = [])
          ∨ ((∀ scope ∈ registration.requiredScopes, claims.Grants scope)
            ∧ ∀ role ∈ registration.requiredRoles, role ∈ claims.roles))
      ∧ ∀ decode' strategy' token' claims' identity',
          decode' strategy' token' = .ok claims'
          → JwtAuthStrategy.authenticate decode' strategy' token' = .ok identity'
          → claims.GrantsSame claims'
          → checkAuthorization registration (some identity')
            = checkAuthorization registration (some identity) := by
  obtain ⟨scopes, roles⟩ := JwtAuthStrategy.authenticate_holds verified built
  refine ⟨?_, ?_⟩
  · rw [checkAuthorization_ok_iff]
    unfold ToolRegistration.Authorizes
    simp only [Option.some.injEq, exists_eq_left', List.subset_def, scopes, roles]
  · intro decode' strategy' token' claims' identity' verified' built' same
    obtain ⟨scopes', roles'⟩ := JwtAuthStrategy.authenticate_holds verified' built'
    refine checkAuthorization_congr ?_ ?_ registration
    · intro scope
      rw [scopes', scopes, same.scopes]
    · intro role
      rw [roles', roles, same.roles]

/-- A token with one scope in the array and two in the string, one of them twice. -/
def splitClaims : Claims :=
  {
    sub := some "ada"
    roles := ["analyst"]
    scopes := ["tools:read"]
    scope := some " tools:write  tools:read "
  }

/-- A tool that wants both scopes. -/
def writingRegistration : ToolRegistration :=
  {
    name := "annotate"
    description := "Annotate a document."
    inputSchemaJson := "\x7b\x7d"
    zone := .sphere
    requiredScopes := ["tools:read", "tools:write"]
    handlerUrl := none
  }

/-- The token is admitted by what both sources grant together. -/
theorem jwtScopes_authorize_iff_split
    : ∃ identity,
        (JwtAuthStrategy.newHs256 "secret" none none).authenticate
            (fun _ _ => .ok splitClaims) "token"
          = .ok identity
        ∧ checkAuthorization writingRegistration (some identity) = .ok () := by
  refine ⟨_, rfl, ?_⟩
  have decided := @jwtScopes_authorize_iff (fun _ _ => .ok splitClaims)
    (.newHs256 "secret" none none) "token" splitClaims _ rfl rfl writingRegistration
  have read : splitClaims.Grants "tools:read" := Or.inl (by decide)
  have write : splitClaims.Grants "tools:write" := Or.inr ⟨_, rfl, by decide⟩
  refine decided.1.mpr (Or.inr ⟨?_, by simp [writingRegistration]⟩)
  simp [writingRegistration, read, write]

end Intellisphere.Sphere
