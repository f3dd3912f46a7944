import Intellisphere.Foundation.Machine
import Intellisphere.Sphere.Api.Transcript

/-! What stands between a chat request and Core. The handlers are registered without the
ingress gate and the rate limiter in front of them, and run their tool calls without an
identity; here is what that leaves of ingress enforcement.
-/

namespace Intellisphere.Sphere

open Intellisphere.Foundation

inductive ChatEndpoint where
  | chat
  | stream
  deriving DecidableEq

/-- A chat request as it arrives: where it goes, its credentials, its body and its
surroundings.
-/
structure HttpRequest where
  endpoint : ChatEndpoint
  authorization : Option String
  apiKey : Option String
  body : ChatRequest
  world : ServerWorld

/-- The calls a server makes for a chat request. The handlers take the shared state and the
body, not the headers.
-/
def AppState.serve (libraries : ToolLibraries) (state : AppState) (request : HttpRequest)
    : List Effect :=
  match request.endpoint with
  | .chat => (chat libraries state request.body request.world).effects
  | .stream => (chatStream state request.body request.world).effects

/-- The server as a machine: requests in, calls out. No chat request changes its state. -/
def chatServer (libraries : ToolLibraries) : Machine AppState HttpRequest (List Effect) where
  step state request := some (state, state.serve libraries request)

/-- Some completion request went to Core. -/
def ReachesCore (effects : List Effect) : Prop :=
  effects.filterMap Effect.request? ≠ []

/-- The gate's verdict on the credentials of a request. -/
def AppState.authenticate (decode : JwtDecoder) (state : AppState) (request : HttpRequest)
    : Except SphereError Identity :=
  state.ingressGate.authenticate decode request.authorization request.apiKey

/-- Ingress enforcement for one request: Core is reached only with accepted credentials and
an admitted request, and tools are authorised against the authenticated identity.
-/
structure IngressEnforced (decode : JwtDecoder) (state : AppState) (request : HttpRequest)
    (effects : List Effect)
    : Prop where
  authenticated
    : state.config.auth.enabled = true
      → ReachesCore effects
      → ∃ identity, state.authenticate decode request = .ok identity
  admitted
    : state.config.rateLimit.enabled = true
      → ReachesCore effects
      → ∃ identitySub result,
          Effect.checkRequest identitySub result ∈ effects ∧ result.allowed = true
  authorised
    : ∀ identity toolCalls,
        Effect.processTools identity toolCalls ∈ effects
        → ∃ authenticated,
            state.authenticate decode request = .ok authenticated
            ∧ identity = some authenticated

/-- The request ends before Core: a message is rejected, or no iteration is allowed. -/
def StopsBeforeCore (state : AppState) (request : HttpRequest) : Prop :=
  Rejected state.pipeline (.new request.world.requestId "") request.body.messages
  ∨ (request.endpoint = .chat ∧ state.effectiveMax = 0)

/-- Core's first answer to a unary request asks for tools. -/
def AsksForTools (request : HttpRequest) : Prop :=
  request.endpoint = .chat
  ∧ ∃ response, request.world.complete 0 = .ok response ∧ response.wantsTools = true

/-- When a chat request needs none of the missing checks. -/
def NeedsNoIngress (decode : JwtDecoder) (state : AppState) (request : HttpRequest) : Prop :=
  StopsBeforeCore state request
  ∨ ((state.config.auth.enabled = true
        → ∃ identity, state.authenticate decode request = .ok identity)
    ∧ state.config.rateLimit.enabled = false
    ∧ ¬AsksForTools request)

/-- The sanitisation filter leaves the context alone. -/
theorem InputSanitizationConfig.apply_context (config : InputSanitizationConfig)
    (message : Message) (context : PipelineContext)
    : (config.apply message context).context = context := by
  simp only [apply]
  split
  · rfl
  · split <;> rfl

/-- A configured inbound chain leaves the context alone. -/
theorem PipelineChain.fromConfig_inbound_context (tables : UnicodeTables)
    (config : PipelineConfig) (message : Message) (context : PipelineContext)
    : ((fromConfig tables config).runInbound message context).context = context := by
  simp only [runInbound, fromConfig, whenEnabled]
  split
  · simp only [runFilters, inputSanitizationFilter]
    split <;> exact config.inbound.inputSanitization.apply_context message context
  · rfl

section Serve

variable {libraries : ToolLibraries} {state : AppState} {request : HttpRequest}

/-- Messages that pass a chain that leaves the context alone leave it alone together. By
induction on the messages.
-/
theorem Sanitised.context_eq {chain : PipelineChain}
    (keeps : ∀ message context, (chain.runInbound message context).context = context)
    {context final : PipelineContext} {messages : List ChatMessage}
    {sanitised : List Message} (passed : Sanitised chain context messages sanitised final)
    : final = context := by
  induction passed with
  | nil => rfl
  | cons _ _ ih => rw [ih, keeps]

/-- Every request is either rejected inbound or passes. -/
theorem rejected_or_sanitised (chain : PipelineChain) (messages : List ChatMessage)
    (context : PipelineContext)
    : Rejected chain context messages
      ∨ ∃ sanitised final, Sanitised chain context messages sanitised final := by
  cases converted : inboundMessages chain messages context with
  | error failure => exact .inl (inboundMessages_eq_error_iff.mp ⟨failure, converted⟩)
  | ok done => exact .inr ⟨done.1, done.2, inboundMessages_eq_ok_iff.mp converted⟩

/-- A request that ends before Core makes no calls at all. -/
theorem AppState.serve_of_stops (stops : StopsBeforeCore state request)
    : state.serve libraries request = [] := by
  rcases stops with rejected | ⟨unary, never⟩
  · obtain ⟨failure, failed⟩ := inboundMessages_eq_error_iff.mpr rejected
    cases endpoint : request.endpoint with
    | chat => simp only [serve, endpoint, chat, failed, HandlerRun.failed]
    | stream => simp only [serve, endpoint, chatStream, failed, HandlerRun.failed]
  · simp only [serve, unary, chat, never]
    split <;> rfl

/-- Any other request reaches Core. -/
theorem AppState.serve_reaches (libraries : ToolLibraries)
    (goes : ¬StopsBeforeCore state request)
    : ReachesCore (state.serve libraries request) := by
  obtain ⟨passes, iterates⟩ := not_or.mp goes
  obtain ⟨sanitised, final, passed⟩ := (rejected_or_sanitised _ _ _).resolve_left passes
  have converted := inboundMessages_eq_ok_iff.mpr passed
  cases endpoint : request.endpoint with
  | chat =>
      obtain ⟨left, same⟩ := Nat.exists_eq_succ_of_ne_zero
        (fun never => iterates ⟨endpoint, never⟩)
      simp only [serve, endpoint, chat, converted, same, chatLoop, HandlerRun.after,
        ReachesCore, List.filterMap_cons, Effect.request?]
      exact List.cons_ne_nil _ _
  | stream =>
      simp only [serve, endpoint, chatStream, converted, HandlerRun.after, ReachesCore,
        List.filterMap_cons, Effect.request?]
      exact List.cons_ne_nil _ _

/-- The loop never consults the rate limiter. By induction on the iterations. -/
theorem chatLoop_unlimited {body : ChatRequest} {world : ServerWorld}
    {context : PipelineContext} (left iteration : Nat) (messages : List Message)
    (usage : UsageResponse) (identitySub : String) (result : RateLimitResult)
    : Effect.checkRequest identitySub result
      ∉ (chatLoop libraries state body world context left iteration messages usage
        ).effects := by
  induction left generalizing iteration messages usage with
  | zero => simp [chatLoop]
  | succ left ih =>
      have step :=
        chatLoop_step libraries state body world context left iteration messages usage
      generalize chatLoop libraries state body world context (left + 1) iteration messages
        usage = run at step ⊢
      cases step with
      | failed answer => simp [HandlerRun.after, HandlerRun.failed]
      | final answer finished => simp [HandlerRun.after]
      | panicked answer wants processed => simp [HandlerRun.after, HandlerRun.failed]
      | round answer wants processed => simp [HandlerRun.after, ih]

/-- No chat request is checked against the rate limits. -/
theorem AppState.serve_unlimited (identitySub : String) (result : RateLimitResult)
    : Effect.checkRequest identitySub result ∉ state.serve libraries request := by
  cases endpoint : request.endpoint with
  | chat =>
      simp only [serve, endpoint, chat]
      split
      · simp [HandlerRun.failed]
      · exact chatLoop_unlimited _ _ _ _ _ _
  | stream =>
      simp only [serve, endpoint, chatStream]
      split
      · simp [HandlerRun.failed]
      · simp only [HandlerRun.after, List.mem_cons, reduceCtorEq, false_or]
        split <;> simp [HandlerRun.failed]

/-- Tools run only for a unary request whose first answer asks for them. -/
theorem AppState.serve_tools {identity : Option Identity} {toolCalls : List ToolCall}
    (runs : Effect.processTools identity toolCalls ∈ state.serve libraries request)
    : AsksForTools request := by
  cases endpoint : request.endpoint with
  | stream =>
      simp only [serve, endpoint, chatStream] at runs
      split at runs
      · simp [HandlerRun.failed] at runs
      · simp only [HandlerRun.after, List.mem_cons, reduceCtorEq, false_or] at runs
        split at runs <;> simp [HandlerRun.failed] at runs
  | chat =>
      simp only [serve, endpoint, chat] at runs
      split at runs
      · simp [HandlerRun.failed] at runs
      next messages context _ =>
        generalize state.effectiveMax = iterations at runs
        cases iterations with
        | zero => simp [chatLoop] at runs
        | succ left =>
            have step :=
              chatLoop_step libraries state request.body request.world context left 0 messages
                ⟨0, 0⟩
            generalize chatLoop libraries state request.body request.world context (left + 1) 0
              messages ⟨0, 0⟩ = run at step runs
            cases step with
            | failed answer => simp [HandlerRun.after, HandlerRun.failed] at runs
            | final answer finished => simp [HandlerRun.after] at runs
            | panicked answer wants processed => exact ⟨endpoint, _, answer, wants⟩
            | round answer wants processed => exact ⟨endpoint, _, answer, wants⟩

/-- When the first answer asks for tools, they run for the identity of the context. -/
theorem AppState.serve_runs_tools {sanitised : List Message} {context : PipelineContext}
    (passed
      : Sanitised state.pipeline (.new request.world.requestId "") request.body.messages
          sanitised context)
    (goes : ¬StopsBeforeCore state request) (asks : AsksForTools request)
    : ∃ toolCalls,
        Effect.processTools context.identity toolCalls ∈ state.serve libraries request := by
  obtain ⟨unary, response, answer, wants⟩ := asks
  have iterates := (not_or.mp goes).2
  obtain ⟨left, same⟩ := Nat.exists_eq_succ_of_ne_zero
    (fun never => iterates ⟨unary, never⟩)
  have converted := inboundMessages_eq_ok_iff.mpr passed
  refine ⟨response.toolCalls, ?_⟩
  simp [serve, unary, chat, converted, same, chatLoop, HandlerRun.after, answer, wants]

end Serve

-----------------------------------------------------------------------------------------
-- Enforcement
-----------------------------------------------------------------------------------------

section Enforcement

variable (decode : JwtDecoder) (libraries : ToolLibraries) (tables : UnicodeTables)
  (now : ℚ) (config : SphereConfig)

/-- Ingress is enforced for one request exactly when it needs none of the missing checks. -/
theorem serve_enforced_iff (request : HttpRequest)
    : IngressEnforced decode (.start tables now config) request
          (AppState.serve libraries (.start tables now config) request)
      ↔ NeedsNoIngress decode (.start tables now config) request := by
  generalize started : AppState.start tables now config = state
  have keeps (message context)
      : (state.pipeline.runInbound message context).context = context := by
    subst started
    exact PipelineChain.fromConfig_inbound_context tables config.pipeline message context
  refine ⟨?_, ?_⟩
  · intro enforced
    by_cases stops : StopsBeforeCore state request
    · exact .inl stops
    · have reaches := AppState.serve_reaches libraries stops
      refine .inr ⟨fun enabled => enforced.authenticated enabled reaches, ?_, ?_⟩
      · refine Bool.eq_false_iff.mpr (fun enabled => ?_)
        obtain ⟨identitySub, result, checked, _⟩ := enforced.admitted enabled reaches
        exact AppState.serve_unlimited identitySub result checked
      · intro asks
        have passes := (not_or.mp stops).1
        obtain ⟨sanitised, final, passed⟩ := (rejected_or_sanitised _ _ _).resolve_left passes
        obtain ⟨toolCalls, runs⟩ := AppState.serve_runs_tools passed stops asks
        obtain ⟨who, _, same⟩ := enforced.authorised _ _ runs
        rw [passed.context_eq keeps] at same
        contradiction
  · intro fine
    rcases fine with stops | ⟨accepted, unlimited, toolless⟩
    · rw [AppState.serve_of_stops stops]
      exact ⟨fun _ reaches => (reaches rfl).elim, fun _ reaches => (reaches rfl).elim,
        by simp⟩
    · refine ⟨fun enabled _ => accepted enabled, ?_, ?_⟩
      · intro enabled
        rw [unlimited] at enabled
        contradiction
      · intro identity toolCalls runs
        exact (toolless (AppState.serve_tools runs)).elim

/-- In a run of the server, every recorded call list is what the initial state serves. -/
theorem chatServer_outputs {start final : AppState}
    {trace : List (HttpRequest × List Effect)}
    (run : (chatServer libraries).Run start trace final)
    : final = start ∧ ∀ entry ∈ trace, entry.2 = start.serve libraries entry.1 := by
  refine run.history
    (fun trace state =>
      state = start ∧ ∀ entry ∈ trace, entry.2 = start.serve libraries entry.1)
    ⟨rfl, by simp⟩ ?_
  intro trace state request next effects _ holds stepped
  obtain ⟨rfl, served⟩ := holds
  obtain ⟨rfl, rfl⟩ := Prod.mk.inj (Option.some.inj stepped)
  refine ⟨rfl, ?_⟩
  intro entry member
  rcases List.mem_append.mp member with earlier | last
  · exact served entry earlier
  · obtain rfl := List.mem_singleton.mp last
    rfl

/-- Over whole request sequences, ingress is enforced for every request exactly when every
request needs none of the missing checks.
-/
theorem chatServer_enforced_iff {trace : List (HttpRequest × List Effect)}
    {final : AppState}
    (run : (chatServer libraries).Run (.start tables now config) trace final)
    : (∀ entry ∈ trace,
        IngressEnforced decode (.start tables now config) entry.1 entry.2)
      ↔ ∀ entry ∈ trace, NeedsNoIngress decode (.start tables now config) entry.1 := by
  have served := (chatServer_outputs libraries run).2
  refine forall₂_congr (fun entry member => ?_)
  rw [served entry member]
  exact serve_enforced_iff decode libraries tables now config entry.1

end Enforcement

/-- A token library that accepts nothing. -/
def rejectAllTokens : JwtDecoder :=
  fun _ _ => .error "InvalidToken"

/-- A configuration with authentication switched on and no accepted key. -/
def lockedConfig : SphereConfig :=
  { toolConfig with auth := { enabled := true } }

/-- A chat request without credentials. -/
def anonymousRequest : HttpRequest :=
  {
    endpoint := .chat
    authorization := none
    apiKey := none
    body := greeting
    world := echoWorld
  }

/-- The run that serves the request without credentials. -/
theorem anonymousRequest_run
    : (chatServer lenientLibraries).Run (.start asciiTables 0 lockedConfig)
        [
          (
            anonymousRequest,
            AppState.serve lenientLibraries (.start asciiTables 0 lockedConfig)
              anonymousRequest
          )
        ]
        (.start asciiTables 0 lockedConfig) :=
  .single rfl

/-- With authentication on, a request without credentials reaches Core. -/
theorem chatServer_not_enforced
    : ¬∀ (config : SphereConfig) (trace : List (HttpRequest × List Effect))
          (final : AppState),
        (chatServer lenientLibraries).Run (.start asciiTables 0 config) trace final
        → ∀ entry ∈ trace,
            IngressEnforced rejectAllTokens (.start asciiTables 0 config) entry.1
              entry.2 := by
  intro enforced
  have broken := enforced lockedConfig _ _ anonymousRequest_run _ (List.mem_singleton.mpr rfl)
  have reaches : ReachesCore
      (AppState.serve lenientLibraries (.start asciiTables 0 lockedConfig)
        anonymousRequest) :=
    List.cons_ne_nil _ _
  obtain ⟨identity, accepted⟩ := broken.authenticated rfl reaches
  contradiction

/-- The exact condition at the run with one unauthenticated request. -/
theorem chatServer_enforced_iff_example
    : (∀ entry
          ∈ [
            (
              anonymousRequest,
              AppState.serve lenientLibraries (.start asciiTables 0 lockedConfig)
                anonymousRequest
            )
          ],
        IngressEnforced rejectAllTokens (.start asciiTables 0 lockedConfig) entry.1 entry.2)
      ↔ ∀ entry
            ∈ [
              (
                anonymousRequest,
                AppState.serve lenientLibraries (.start asciiTables 0 lockedConfig)
                  anonymousRequest
              )
            ],
          NeedsNoIngress rejectAllTokens (.start asciiTables 0 lockedConfig) entry.1 :=
  chatServer_enforced_iff rejectAllTokens lenientLibraries asciiTables 0 lockedConfig
    anonymousRequest_run

end Intellisphere.Sphere
