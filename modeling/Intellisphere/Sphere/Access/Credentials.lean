import Intellisphere.Sphere.Auth

/-! Which requests the ingress gate lets in. It takes one credential from the headers and
tries all strategies on it; the second header is looked at when the first is absent.
-/

namespace Intellisphere.Sphere

open Intellisphere.Foundation

/-- The credential of an `Authorization` value. -/
def bearerToken (authValue : String) : String :=
  (stripPrefix "Bearer " authValue).getD authValue

/-- The credentials a request presents, in the documented order. -/
def presentedCredentials (authorizationHeader apiKeyHeader : Option String) : List String :=
  (authorizationHeader.map bearerToken).toList ++ apiKeyHeader.toList

/-- The strategy accepts the credential. -/
def AuthStrategy.Accepts (decode : JwtDecoder) (strategy : AuthStrategy)
    (credential : String)
    : Prop :=
  ∃ identity, strategy.authenticate decode credential = .ok identity

/-- The identity of the first strategy that accepts the credential. -/
def firstIdentity (decode : JwtDecoder) (strategies : List AuthStrategy)
    (credential : String)
    : Option Identity :=
  strategies.findSome? fun strategy => (strategy.authenticate decode credential).toOption

/-- The identity of the first pair of a credential and a strategy that accepts it, credentials
first.
-/
def firstAccepted (decode : JwtDecoder) (strategies : List AuthStrategy)
    (credentials : List String)
    : Option Identity :=
  credentials.findSome? (firstIdentity decode strategies)

/-- The gate lets a request in exactly when some strategy accepts a presented credential, as
the identity of the first such pair.
-/
def AcceptsFirstPair (decode : JwtDecoder) (gate : IngressGate)
    (authorizationHeader apiKeyHeader : Option String)
    : Prop :=
  ((∃ identity,
        gate.authenticate decode authorizationHeader apiKeyHeader = .ok identity)
      ↔ ∃ credential ∈ presentedCredentials authorizationHeader apiKeyHeader,
          ∃ strategy ∈ gate.strategies, strategy.Accepts decode credential)
  ∧ ∀ identity,
      gate.authenticate decode authorizationHeader apiKeyHeader = .ok identity
      → firstAccepted decode gate.strategies
          (presentedCredentials authorizationHeader apiKeyHeader)
        = some identity

/-- If both headers are there, then the first is accepted or the second is not. -/
def SecondHeaderUnneeded (decode : JwtDecoder) (strategies : List AuthStrategy)
    (authorizationHeader apiKeyHeader : Option String)
    : Prop :=
  ∀ authValue apiKey,
    authorizationHeader = some authValue
    → apiKeyHeader = some apiKey
    → (∃ strategy ∈ strategies, strategy.Accepts decode (bearerToken authValue))
      ∨ ¬∃ strategy ∈ strategies, strategy.Accepts decode apiKey

section Strategies

variable {decode : JwtDecoder} {strategies : List AuthStrategy}

/-- The strategies are tried until one accepts, by induction on the strategies. -/
theorem tryStrategies_ok_iff {credential : String} {lastError : AuthError}
    {identity : Identity}
    : tryStrategies decode credential strategies lastError = .ok identity
      ↔ firstIdentity decode strategies credential = some identity := by
  unfold firstIdentity
  induction strategies generalizing lastError with
  | nil => simp [tryStrategies]
  | cons strategy rest ih =>
      unfold tryStrategies
      cases tried : strategy.authenticate decode credential with
      | ok accepted => simp [tried, Except.toOption]
      | error error =>
          simp only [tried, Except.toOption, List.findSome?_cons]
          exact ih

/-- There is a first identity exactly when some strategy accepts. -/
theorem firstIdentity_isSome {credential : String}
    : (∃ identity, firstIdentity decode strategies credential = some identity)
      ↔ ∃ strategy ∈ strategies, strategy.Accepts decode credential := by
  unfold firstIdentity AuthStrategy.Accepts
  rw [← Option.isSome_iff_exists, List.findSome?_isSome_iff]
  refine exists_congr fun strategy => and_congr_right fun _ => ?_
  cases strategy.authenticate decode credential <;> simp [Except.toOption]

/-- The first of the accepted credentials decides. -/
theorem firstAccepted_cons {credential : String} {rest : List String}
    : firstAccepted decode strategies (credential :: rest)
      = (firstIdentity decode strategies credential).or
          (firstAccepted decode strategies rest) := by
  unfold firstAccepted
  rw [List.findSome?_cons]
  cases firstIdentity decode strategies credential <;> rfl

end Strategies

section Gate

variable {decode : JwtDecoder} {gate : IngressGate}

/-- An enabled gate tries the first header that is there. -/
theorem IngressGate.authenticate_some (enabled : gate.enabled = true) (authValue : String)
    (apiKeyHeader : Option String) {identity : Identity}
    : gate.authenticate decode (some authValue) apiKeyHeader = .ok identity
      ↔ firstIdentity decode gate.strategies (bearerToken authValue) = some identity := by
  unfold IngressGate.authenticate
  simp only [enabled, Bool.not_true, Bool.false_eq_true, if_false]
  exact tryStrategies_ok_iff

theorem IngressGate.authenticate_apiKey (enabled : gate.enabled = true) (apiKey : String)
    {identity : Identity}
    : gate.authenticate decode none (some apiKey) = .ok identity
      ↔ firstIdentity decode gate.strategies apiKey = some identity := by
  unfold IngressGate.authenticate
  simp only [enabled, Bool.not_true, Bool.false_eq_true, if_false]
  exact tryStrategies_ok_iff

/-- Without credentials nobody is let in. -/
theorem IngressGate.authenticate_none (enabled : gate.enabled = true) (identity : Identity)
    : gate.authenticate decode none none ≠ .ok identity := by
  unfold IngressGate.authenticate
  simp [enabled]

/-- A request with one credential is let in as the credential says. -/
theorem acceptsFirstPair_single {credential : String}
    {authorizationHeader apiKeyHeader : Option String}
    (presented : presentedCredentials authorizationHeader apiKeyHeader = [credential])
    (decided
      : ∀ identity,
          gate.authenticate decode authorizationHeader apiKeyHeader = .ok identity
          ↔ firstIdentity decode gate.strategies credential = some identity)
    : AcceptsFirstPair decode gate authorizationHeader apiKeyHeader := by
  unfold AcceptsFirstPair
  rw [presented]
  refine ⟨?_, ?_⟩
  · rw [exists_congr decided, firstIdentity_isSome]
    simp only [List.mem_singleton, exists_eq_left]
  · intro identity accepted
    rw [firstAccepted_cons, (decided identity).mp accepted]
    rfl

/-- With both headers the first decides, whatever the second is worth. -/
theorem acceptsFirstPair_both_iff (enabled : gate.enabled = true) (authValue apiKey : String)
    : AcceptsFirstPair decode gate (some authValue) (some apiKey)
      ↔ (∃ strategy ∈ gate.strategies, strategy.Accepts decode (bearerToken authValue))
        ∨ ¬∃ strategy ∈ gate.strategies, strategy.Accepts decode apiKey := by
  have decided (identity : Identity) := @IngressGate.authenticate_some decode gate enabled
    authValue (some apiKey) identity
  have presented
      : presentedCredentials (some authValue) (some apiKey)
        = [bearerToken authValue, apiKey] :=
    rfl
  unfold AcceptsFirstPair
  rw [presented, exists_congr decided, firstIdentity_isSome]
  simp only [List.mem_cons, List.not_mem_nil, or_false, exists_eq_or_imp, exists_eq_left]
  constructor
  · intro accepts
    by_cases second : ∃ strategy ∈ gate.strategies, strategy.Accepts decode apiKey
    · exact Or.inl (accepts.1.mpr (Or.inr second))
    · exact Or.inr second
  · intro unneeded
    have first
        (either
          : (∃ strategy ∈ gate.strategies, strategy.Accepts decode (bearerToken authValue))
            ∨ ∃ strategy ∈ gate.strategies, strategy.Accepts decode apiKey)
        : ∃ strategy ∈ gate.strategies, strategy.Accepts decode (bearerToken authValue) :=
      unneeded.elim id fun refused => either.resolve_right refused
    refine ⟨⟨Or.inl, first⟩, ?_⟩
    intro identity accepted
    rw [firstAccepted_cons, (decided identity).mp accepted]
    rfl

end Gate

/-- The gate lets requests in by their first accepted credential exactly when the second
header is not needed: it falls back to `X-API-Key` only if `Authorization` is absent.
-/
theorem authenticate_acceptsFirstPair_iff (decode : JwtDecoder) {config : AuthConfig}
    (enabled : config.enabled = true) (authorizationHeader apiKeyHeader : Option String)
    : AcceptsFirstPair decode (.fromConfig config) authorizationHeader apiKeyHeader
      ↔ SecondHeaderUnneeded decode (IngressGate.fromConfig config).strategies
          authorizationHeader apiKeyHeader := by
  have gated : (IngressGate.fromConfig config).enabled = true := enabled
  cases authorizationHeader with
  | none =>
      refine iff_of_true ?_ (fun _ _ absent => nomatch absent)
      cases apiKeyHeader with
      | none =>
          have refused := @IngressGate.authenticate_none decode _ gated
          refine ⟨iff_of_false (fun ⟨identity, accepted⟩ => refused identity accepted) ?_, ?_⟩
          · simp [presentedCredentials]
          · exact fun identity accepted => (refused identity accepted).elim
      | some apiKey =>
          exact acceptsFirstPair_single rfl
            fun identity => IngressGate.authenticate_apiKey gated apiKey
  | some authValue =>
      cases apiKeyHeader with
      | none =>
          refine iff_of_true ?_ (fun _ _ _ absent => nomatch absent)
          exact acceptsFirstPair_single rfl
            fun identity => IngressGate.authenticate_some gated authValue none
      | some apiKey =>
          rw [acceptsFirstPair_both_iff gated]
          constructor
          · intro unneeded other otherKey same sameKey
            obtain rfl := Option.some.inj same
            obtain rfl := Option.some.inj sameKey
            exact unneeded
          · intro unneeded
            exact unneeded authValue apiKey rfl rfl

/-- A gate with one API key. -/
def serviceConfig : AuthConfig :=
  {
    enabled := true
    strategies :=
      [.apiKey [{ key := "test-key-123", identitySub := "svc-test", scopes := ["chat"] }]]
  }

/-- A token library that knows no token. -/
def rejectingDecoder : JwtDecoder :=
  fun _ _ => .error "InvalidToken"

/-- The key alone is accepted. -/
theorem authenticate_acceptsFirstPair_iff_key
    : AcceptsFirstPair rejectingDecoder (.fromConfig serviceConfig) none
        (some "test-key-123") := by
  have unneeded
      : SecondHeaderUnneeded rejectingDecoder (IngressGate.fromConfig serviceConfig).strategies
          none (some "test-key-123") :=
    fun _ _ absent => nomatch absent
  exact (authenticate_acceptsFirstPair_iff rejectingDecoder rfl none _).mpr unneeded

/-- Beside an `Authorization` header of another scheme, the same key is refused. -/
theorem authenticate_ignoresApiKey
    : (IngressGate.fromConfig serviceConfig).authenticate rejectingDecoder
          (some "Basic dXNlcg==") (some "test-key-123")
        = .error (.authError "all strategies failed: unknown API key")
      ∧ ¬AcceptsFirstPair rejectingDecoder (.fromConfig serviceConfig)
          (some "Basic dXNlcg==") (some "test-key-123") := by
  have refused
      : (IngressGate.fromConfig serviceConfig).authenticate rejectingDecoder
            (some "Basic dXNlcg==") (some "test-key-123")
          = .error (.authError "all strategies failed: unknown API key") := by
    decide
  refine ⟨refused, ?_⟩
  intro accepts
  have known
      : ∃ strategy ∈ (IngressGate.fromConfig serviceConfig).strategies,
          strategy.Accepts rejectingDecoder "test-key-123" :=
    ⟨_, List.mem_cons_self, _, rfl⟩
  obtain ⟨identity, accepted⟩ := accepts.1.mpr ⟨"test-key-123", by decide, known⟩
  rw [refused] at accepted
  contradiction

end Intellisphere.Sphere
