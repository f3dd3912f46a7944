import Intellisphere.Sphere.Satellite.Tokens

/-! Which durations a session can be requested for. The duration goes unchecked through a
conversion to milliseconds and an addition to the current time, and both panic at what they
cannot represent.
-/

namespace Intellisphere.Sphere

open Intellisphere.Foundation

/-- The duration a request asks for, in seconds. -/
def CreateSessionRequest.duration (body : CreateSessionRequest) : Int64 :=
  body.durationSecs.getD sessionDurationSecs

/-- The handler stores a session that expires after the duration and returns its token, or it
returns an error and stores nothing.
-/
inductive CreationOutcome (libraries : SatelliteLibraries) (before : Option SatelliteState)
    (now : DateTime) (sessionId : String) (body : CreateSessionRequest)
    : Option SatelliteState × Except Failure CreateSessionResponse → Prop
  | stored {configured : SatelliteState} {response : CreateSessionResponse}
    {session : SatelliteSession}
    (found : configured.sessionManager.get sessionId = some session)
    (expires : session.expiresAt = now + body.duration.toInt * nanosPerSecond)
    (token
      : response.token = sessionToken libraries configured.serverSecret sessionId session)
    : CreationOutcome libraries before now sessionId body (some configured, .ok response)
  | refused (error : SphereError)
    : CreationOutcome libraries before now sessionId body (before, .error (.error error))

/-- The duration in milliseconds is a 64-bit integer, and the time after it is representable. -/
structure Representable (now : DateTime) (seconds : Int64) : Prop where
  atLeast : -9223372036854775808 ≤ seconds.toInt * 1000
  atMost : seconds.toInt * 1000 ≤ 9223372036854775807
  notBefore : minDateTime ≤ now + seconds.toInt * nanosPerSecond
  notAfter : now + seconds.toInt * nanosPerSecond ≤ maxDateTime

/-- The milliseconds fit exactly when they are between the smallest and the largest integer. -/
theorem millis_fit_iff (millis : Int)
    : -(2 ^ 63) ≤ millis ∧ millis < 2 ^ 63
      ↔ -9223372036854775808 ≤ millis ∧ millis ≤ 9223372036854775807 := by
  have power : (2 : Int) ^ 63 = 9223372036854775808 := by norm_num
  rw [power]
  omega

/-- A session has an expiry exactly when it is representable. -/
theorem sessionExpiry_eq_ok_iff {now expiresAt : DateTime} {seconds : Int64}
    : sessionExpiry now seconds = .ok expiresAt
      ↔ Representable now seconds ∧ now + seconds.toInt * nanosPerSecond = expiresAt := by
  simp only [sessionExpiry, durationSeconds, millis_fit_iff]
  split
  next failure failed =>
    split at failed
    · simp at failed
    next outside =>
      simp only [reduceCtorEq, false_iff]
      exact fun representable => outside ⟨representable.1.atLeast, representable.1.atMost⟩
  next duration fits =>
    split at fits
    next inside =>
      obtain rfl := Except.ok.inj fits
      simp only [addDuration]
      split
      next between =>
        simp only [Except.ok.injEq]
        refine ⟨fun same => ⟨⟨inside.1, inside.2, between.1, between.2⟩, same⟩, And.right⟩
      next beyond =>
        simp only [reduceCtorEq, false_iff]
        exact fun representable =>
          beyond ⟨representable.1.notBefore, representable.1.notAfter⟩
    · simp at fits

/-- Without an expiry the computation panics. -/
theorem sessionExpiry_eq_panicked {now : DateTime} {seconds : Int64}
    (unrepresentable : ¬Representable now seconds)
    : sessionExpiry now seconds = .error .panicked := by
  cases expiry : sessionExpiry now seconds with
  | ok expiresAt => exact (unrepresentable (sessionExpiry_eq_ok_iff.mp expiry).1).elim
  | error failure =>
      simp only [sessionExpiry, durationSeconds, addDuration] at expiry
      split at expiry
      next failed =>
        split at failed
        · simp at failed
        · simp_all
      next =>
        split at expiry
        · simp at expiry
        · exact expiry.symm

/-- For an authenticated caller a session is created or refused exactly if the duration and
the time after it are representable.
-/
theorem createSession_total_iff (libraries : SatelliteLibraries) (state : AppState)
    (satellite : Option SatelliteState) (now : DateTime) (sessionId : String)
    (authorization apiKey : Option String) (body : CreateSessionRequest) {identity : Identity}
    (authenticated
      : state.ingressGate.authenticate libraries.decodeJwt authorization apiKey
        = .ok identity)
    : CreationOutcome libraries satellite now sessionId body
          (createSession libraries state satellite now sessionId authorization apiKey body)
      ↔ Representable now body.duration := by
  simp only [createSession, authenticated, ← CreateSessionRequest.duration.eq_1]
  by_cases representable : Representable now body.duration
  · have expiry := sessionExpiry_eq_ok_iff.mpr ⟨representable, rfl⟩
    simp only [expiry, representable, iff_true]
    cases satellite with
    | none => exact .refused _
    | some configured =>
        exact .stored (SessionManager.get_create_self _ _ _ _ _) rfl rfl
  · have panics := sessionExpiry_eq_panicked representable
    simp only [panics, representable, iff_false]
    intro outcome
    cases outcome

/-- A request for a session of the given duration. -/
def lastingBody (seconds : Int64) : CreateSessionRequest :=
  { durationSecs := some seconds }

/-- An hour from the epoch is representable. -/
theorem createSession_total_iff_hour
    : CreationOutcome smallLibraries (some (.new [])) 0 smallId (lastingBody 3600)
        (createSession smallLibraries smallState (some (.new [])) 0 smallId none none
          (lastingBody 3600)) := by
  have authenticated
      : smallState.ingressGate.authenticate smallLibraries.decodeJwt none none
        = .ok .anonymous :=
    rfl
  have representable : Representable 0 (lastingBody 3600).duration :=
    ⟨by decide, by decide, by decide, by decide⟩
  exact
    (createSession_total_iff smallLibraries smallState (some (.new [])) 0 smallId none none
      (lastingBody 3600) authenticated).mpr representable

/-- A session of the greatest number of seconds there is panics. -/
theorem createSession_panics
    : ¬∀ (libraries : SatelliteLibraries) (state : AppState)
        (satellite : Option SatelliteState) (now : DateTime) (sessionId : String)
        (authorization apiKey : Option String) (body : CreateSessionRequest)
        (identity : Identity),
        state.ingressGate.authenticate libraries.decodeJwt authorization apiKey
          = .ok identity
        → CreationOutcome libraries satellite now sessionId body
            (createSession libraries state satellite now sessionId authorization apiKey
              body) := by
  intro total
  have outcome :=
    total smallLibraries smallState (some (.new [])) 0 smallId none none
      (lastingBody 9223372036854775807) .anonymous rfl
  have panics
      : createSession smallLibraries smallState (some (.new [])) 0 smallId none none
          (lastingBody 9223372036854775807)
        = (some (.new []), .error .panicked) := by
    rfl
  rw [panics] at outcome
  cases outcome

end Intellisphere.Sphere
