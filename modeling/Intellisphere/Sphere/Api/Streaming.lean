import Intellisphere.Sphere.Api.Ingress
import Intellisphere.Sphere.Pipeline.Redaction

/-! Unary and streaming chat side by side. The streaming handler passes the model's deltas
on as they come, so the two deliver the same text exactly when the outbound chain of the
unary handler has nothing to change.
-/

namespace Intellisphere.Sphere

open Intellisphere.Foundation

/-- The text a client of the streaming handler receives: its deltas, concatenated. -/
def deliveredText (run : HandlerRun (List (Except SphereError SseEvent))) : String :=
  match run.outcome with
  | .error _ => ""
  | .ok events =>
      String.join (events.filterMap (fun event => event.toOption.map SseEvent.delta))

/-- Core answers a unary request with a final response, and a streamed one with the same
text in pieces.
-/
structure SameAnswer (world : ServerWorld) (response : CompletionResponse)
    (chunks : List CompletionChunk)
    : Prop where
  unary : world.complete 0 = .ok response
  final : response.wantsTools = false
  streamed : world.completeStream = .ok (chunks.map Except.ok)
  text : String.join (chunks.map CompletionChunk.delta) = response.content

/-- The two handlers deliver the same text: when unary chat hands out an answer of Core the
stream delivers its content, and when the outbound chain rejects that answer the stream
delivers nothing.
-/
structure StreamAgrees (libraries : ToolLibraries) (state : AppState)
    (request : ChatRequest) (world : ServerWorld)
    : Prop where
  same
    : ∀ response,
        (chat libraries state request world).requests ≠ []
        → (chat libraries state request world).outcome = .ok response
        → deliveredText (chatStream state request world) = response.content
  silent
    : ∀ message,
        (chat libraries state request world).requests ≠ []
        → (chat libraries state request world).outcome
            = .error (.error (.outboundRejected message))
        → deliveredText (chatStream state request world) = ""

section Agreement

variable {libraries : ToolLibraries} {tables : UnicodeTables} {now : ℚ}
  {config : SphereConfig} {request : ChatRequest} {world : ServerWorld}
  {response : CompletionResponse} {chunks : List CompletionChunk}

/-- The request stops before Core: a message is rejected, or no iteration is allowed. -/
def UnaryStops (tables : UnicodeTables) (now : ℚ) (config : SphereConfig)
    (request : ChatRequest) (world : ServerWorld)
    : Prop :=
  Rejected (AppState.start tables now config).pipeline (.new world.requestId "")
    request.messages
  ∨ config.tools.maxToolIterations = 0

/-- Chunks without an error among them reach the client delta by delta, by induction on the
chunks.
-/
theorem chunkEvent_deltas (chunks : List CompletionChunk)
    : ((chunks.map Except.ok).map chunkEvent).filterMap
          (fun event => event.toOption.map SseEvent.delta)
        = chunks.map CompletionChunk.delta := by
  induction chunks with
  | nil => rfl
  | cons chunk rest ih =>
      simp only [List.map_cons, chunkEvent, List.filterMap_cons, Except.toOption,
        Option.map_some]
      exact congrArg _ ih

/-- A stream without errors delivers all its deltas. -/
theorem deliveredText_chatStream (answer : SameAnswer world response chunks)
    {state : AppState} {sanitised : List Message} {context : PipelineContext}
    (passed
      : Sanitised state.pipeline (.new world.requestId "") request.messages sanitised
          context)
    : deliveredText (chatStream state request world) = response.content := by
  have converted := inboundMessages_eq_ok_iff.mpr passed
  simp only [deliveredText, chatStream, converted, HandlerRun.after, answer.streamed,
    chunkEvent_deltas, answer.text]

/-- Unary chat that stops before Core sends nothing. -/
theorem chat_requests_of_stops (libraries : ToolLibraries)
    (stops : UnaryStops tables now config request world)
    : (chat libraries (.start tables now config) request world).requests = [] := by
  rcases stops with rejected | never
  · obtain ⟨failure, failed⟩ := inboundMessages_eq_error_iff.mpr rejected
    simp only [chat, failed, HandlerRun.requests_failed]
  · have none : (AppState.start tables now config).effectiveMax = 0 := by
      simp [AppState.effectiveMax, AppState.start, never]
    simp only [chat, none]
    split <;> rfl

/-- Unary chat with a final first answer hands out that answer, rewritten. -/
theorem chat_of_final (libraries : ToolLibraries)
    (answer : SameAnswer world response chunks) {sanitised : List Message}
    {context : PipelineContext}
    (passed
      : Sanitised (AppState.start tables now config).pipeline (.new world.requestId "")
          request.messages sanitised context)
    (iterates : config.tools.maxToolIterations ≠ 0)
    : (chat libraries (.start tables now config) request world).requests ≠ []
      ∧ ∃ usage,
          (chat libraries (.start tables now config) request world).outcome
            = .ok
                {
                  content := config.pipeline.outbound.rewrite tables response.content
                  model := response.model
                  stopReason := mapStopReason response.stopReason
                  usage
                } := by
  have converted := inboundMessages_eq_ok_iff.mpr passed
  have outbound := PipelineChain.fromConfig_outbound tables config.pipeline
  have nonzero : (AppState.start tables now config).effectiveMax ≠ 0 := by
    simp only [AppState.effectiveMax, AppState.start, hardCap]
    omega
  obtain ⟨left, same⟩ := Nat.exists_eq_succ_of_ne_zero nonzero
  simp only [chat, converted, same, chatLoop, answer.unary, answer.final, HandlerRun.after,
    Bool.false_eq_true, if_false]
  refine ⟨List.cons_ne_nil _ _, UsageResponse.add ⟨0, 0⟩ response.usage, ?_⟩
  simp only [AppState.finishChat, AppState.start, PipelineChain.runOutbound, outbound.ok,
    outbound.message]
  rfl

/-- The two handlers deliver the same text exactly when the request stops before Core or
the outbound chain has nothing to change in the answer, whatever its pieces.
-/
theorem streamAgrees_iff (answer : SameAnswer world response chunks)
    : StreamAgrees libraries (.start tables now config) request world
      ↔ UnaryStops tables now config request world
        ∨ config.pipeline.outbound.Spares tables response.content := by
  by_cases stops : UnaryStops tables now config request world
  · have none := chat_requests_of_stops libraries stops
    refine ⟨fun _ => .inl stops, fun _ => ?_⟩
    exact ⟨fun _ sent => (sent none).elim, fun _ sent => (sent none).elim⟩
  · obtain ⟨passes, iterates⟩ := not_or.mp stops
    obtain ⟨sanitised, context, passed⟩ := (rejected_or_sanitised _ _ _).resolve_left passes
    have delivered := deliveredText_chatStream answer passed
    obtain ⟨sent, usage, outcome⟩ := chat_of_final libraries answer passed iterates
    refine ⟨?_, ?_⟩
    · intro agrees
      have same := agrees.same _ sent outcome
      rw [delivered] at same
      exact .inr ((config.pipeline.outbound.rewrite_eq_self_iff tables _).mp same.symm)
    · intro fine
      have spares := fine.resolve_left stops
      have same := (config.pipeline.outbound.rewrite_eq_self_iff tables _).mpr spares
      refine ⟨?_, ?_⟩
      · intro handed _ ended
        rw [outcome] at ended
        obtain rfl := Except.ok.inj ended
        rw [delivered]
        exact same.symm
      · intro message _ ended
        rw [outcome] at ended
        contradiction

end Agreement

/-- A configuration that redacts personal data. -/
def redactingConfig : SphereConfig :=
  {
    pipeline := { outbound := { piiLeakDetection := { enabled := true } } }
    tools := { maxToolIterations := 10 }
  }

/-- An answer with an email address. -/
def contactResponse : CompletionResponse :=
  {
    content := "mail a@b.io"
    toolCalls := []
    stopReasonRaw := StopReason.endTurn.toRaw
    usage := none
    model := "m"
  }

/-- The same answer in two pieces. -/
def contactChunks : List CompletionChunk :=
  ["mail a", "@b.io"].map
    (fun delta =>
      { delta, toolCall := none, stopReasonRaw := 0, usage := none, chunkTypeRaw := 1 })

/-- Core answers with the email address on both paths. -/
def contactWorld : ServerWorld where
  requestId := "r-1"
  complete _ := .ok contactResponse
  completeStream := .ok (contactChunks.map Except.ok)
  tools _ _ := quietToolWorld

theorem contactWorld_sameAnswer : SameAnswer contactWorld contactResponse contactChunks :=
  ⟨rfl, by decide, rfl, by decide⟩

/-- The stream hands out an email address that unary chat redacts. -/
theorem streamAgrees_fails
    : ¬∀ (config : SphereConfig) (request : ChatRequest) (world : ServerWorld)
          (response : CompletionResponse) (chunks : List CompletionChunk),
        SameAnswer world response chunks
        → StreamAgrees lenientLibraries (.start asciiTables 0 config) request world := by
  intro agrees
  have answer := contactWorld_sameAnswer
  have broken := agrees redactingConfig greeting contactWorld _ _ answer
  have iterates : redactingConfig.tools.maxToolIterations ≠ 0 := by decide
  have passed
      : Sanitised (AppState.start asciiTables 0 redactingConfig).pipeline
          (.new contactWorld.requestId "") greeting.messages _ _ :=
    .cons (by decide) (.nil _)
  obtain ⟨sent, usage, outcome⟩ := chat_of_final lenientLibraries answer passed iterates
  have same := broken.same _ sent outcome
  rw [deliveredText_chatStream answer passed] at same
  have spared := (OutboundConfig.rewrite_eq_self_iff asciiTables _ _).mp same.symm
  have unmatched := spared.2.resolve_left (by decide) _ (List.mem_cons_self)
  revert unmatched
  decide

/-- The exact condition at the answer with an email address. -/
theorem streamAgrees_iff_example
    : StreamAgrees lenientLibraries (.start asciiTables 0 redactingConfig) greeting
          contactWorld
      ↔ UnaryStops asciiTables 0 redactingConfig greeting contactWorld
        ∨ redactingConfig.pipeline.outbound.Spares asciiTables contactResponse.content :=
  streamAgrees_iff contactWorld_sameAnswer

end Intellisphere.Sphere
