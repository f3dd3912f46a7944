import Intellisphere.Sphere.Api.Transcript

/-! Whether the model gets to see what its tools returned. The loop executes tools in every
iteration, but after the last one it sends no further request.
-/

namespace Intellisphere.Sphere

open Intellisphere.Foundation

section ToolRounds

variable (libraries : ToolLibraries) (state : AppState) (world : ServerWorld)

/-- Every batch of tool calls among the effects, the first in the given iteration, is
answered, and a later completion request carries the answers.
-/
def ToolsSeen : Nat → List Effect → Prop
  | _, [] => True
  | iteration, .processTools identity toolCalls :: rest =>
      (∃ toolResults,
        process libraries state.toolRegistry state.toolExecutor identity
            (world.tools iteration) toolCalls = .ok toolResults
        ∧ ∃ sent message,
            Effect.complete sent ∈ rest
            ∧ message ∈ sent.messages
            ∧ message.toolResults = toolResults)
      ∧ ToolsSeen (iteration + 1) rest
  | iteration, _ :: rest => ToolsSeen iteration rest

/-- Core's answer in this iteration asks for no tools. -/
def Finishes (iteration : Nat) : Prop :=
  ∀ response, world.complete iteration = .ok response → response.wantsTools = false

/-- The tools that Core asks for in this iteration are answered without a panic. -/
def ToolsAnswered (identity : Option Identity) (iteration : Nat) : Prop :=
  ∀ response,
    world.complete iteration = .ok response
    → response.wantsTools = true
    → ∃ toolResults,
        process libraries state.toolRegistry state.toolExecutor identity
          (world.tools iteration) response.toolCalls = .ok toolResults

/-- Within `left` iterations Core finishes, and all tools asked for before are answered. -/
def FinishesWithin (identity : Option Identity) (left iteration : Nat) : Prop :=
  ∃ k,
    k < left
    ∧ Finishes world (iteration + k)
    ∧ ∀ j, j < k → ToolsAnswered libraries state world identity (iteration + j)

/-- The loop never starts, or Core finishes within the iteration limit. -/
def FinishesInTime (request : ChatRequest) : Prop :=
  ∀ sanitised context,
    Sanitised state.pipeline (.new world.requestId "") request.messages sanitised context
    → state.effectiveMax = 0
      ∨ FinishesWithin libraries state world context.identity state.effectiveMax 0

end ToolRounds

section Loop

variable {libraries : ToolLibraries} {state : AppState} {world : ServerWorld}

/-- A finished iteration settles the rest. -/
theorem FinishesWithin.now {identity : Option Identity} {left iteration : Nat}
    (finishes : Finishes world iteration)
    : FinishesWithin libraries state world identity (left + 1) iteration :=
  ⟨0, Nat.succ_pos left, finishes, fun _ before => absurd before (Nat.not_lt_zero _)⟩

/-- An iteration that asks for tools moves the question to the next one. -/
theorem FinishesWithin.succ_iff {identity : Option Identity} {left iteration : Nat}
    {response : CompletionResponse} (answer : world.complete iteration = .ok response)
    (wants : response.wantsTools = true)
    : FinishesWithin libraries state world identity (left + 1) iteration
      ↔ ToolsAnswered libraries state world identity iteration
        ∧ FinishesWithin libraries state world identity left (iteration + 1) := by
  have shift (k : Nat) : iteration + 1 + k = iteration + (k + 1) := by omega
  refine ⟨?_, ?_⟩
  · intro within
    obtain ⟨k, bound, finishes, answered⟩ := within
    cases k with
    | zero =>
        rw [finishes response answer] at wants
        contradiction
    | succ k =>
        refine ⟨answered 0 (Nat.succ_pos k), k, Nat.lt_of_succ_lt_succ bound, ?_, ?_⟩
        · rw [shift]
          exact finishes
        · intro j before
          rw [shift]
          exact answered (j + 1) (Nat.succ_lt_succ before)
  · intro both
    obtain ⟨first, k, bound, finishes, answered⟩ := both
    refine ⟨k + 1, Nat.succ_lt_succ bound, shift k ▸ finishes, ?_⟩
    intro j before
    cases j with
    | zero => exact first
    | succ j =>
        rw [← shift]
        exact answered j (Nat.lt_of_succ_lt_succ before)

/-- With an iteration left, the loop sends the conversation to Core. -/
theorem chatLoop_sends {request : ChatRequest} {context : PipelineContext}
    {left iteration : Nat} {messages : List Message} {usage : UsageResponse}
    : Effect.complete (state.completionRequest request world.requestId messages)
      ∈ (chatLoop libraries state request world context (left + 1) iteration messages usage
        ).effects := by
  simp only [chatLoop, HandlerRun.after]
  exact List.mem_cons_self

/-- The tools of a loop are seen exactly when it has no iterations or Core finishes within
them. By induction on the iterations left.
-/
theorem chatLoop_toolsSeen_iff {request : ChatRequest} {context : PipelineContext}
    (answers : ∀ k, ∃ response, world.complete k = .ok response)
    (left iteration : Nat) (messages : List Message) (usage : UsageResponse)
    : ToolsSeen libraries state world iteration
          (chatLoop libraries state request world context left iteration messages usage
          ).effects
      ↔ left = 0 ∨ FinishesWithin libraries state world context.identity left iteration := by
  induction left generalizing iteration messages usage with
  | zero => exact iff_of_true trivial (Or.inl rfl)
  | succ left ih =>
      simp only [Nat.succ_ne_zero, false_or]
      have step :=
        chatLoop_step libraries state request world context left iteration messages usage
      generalize chatLoop libraries state request world context (left + 1) iteration messages
        usage = run at step ⊢
      cases step with
      | failed failed =>
          obtain ⟨response, answer⟩ := answers iteration
          rw [answer] at failed
          contradiction
      | @final response answer finished =>
          refine iff_of_true trivial (FinishesWithin.now ?_)
          intro other same
          obtain rfl := Except.ok.inj (answer.symm.trans same)
          exact finished
      | @panicked response failure answer wants processed =>
          rw [FinishesWithin.succ_iff answer wants]
          refine iff_of_false ?_ ?_
          · intro seen
            simp [HandlerRun.after, ToolsSeen, processed] at seen
          · intro both
            obtain ⟨toolResults, answered⟩ := both.1 response answer wants
            rw [processed] at answered
            contradiction
      | @round response toolResults answer wants processed =>
          have answered
              : ToolsAnswered libraries state world context.identity iteration := by
            intro other same _
            obtain rfl := Except.ok.inj (answer.symm.trans same)
            exact ⟨toolResults, processed⟩
          rw [FinishesWithin.succ_iff answer wants]
          simp only [HandlerRun.after, ToolsSeen, processed, Except.ok.injEq, exists_eq_left',
            ih, answered, true_and]
          cases left with
          | zero =>
              refine iff_of_false ?_ ?_
              · intro seen
                obtain ⟨⟨sent, message, sends, _⟩, _⟩ := seen
                simp [chatLoop] at sends
              · intro within
                obtain ⟨k, bound, _⟩ := within
                exact absurd bound (Nat.not_lt_zero k)
          | succ left =>
              simp only [Nat.succ_ne_zero, false_or, and_iff_right_iff_imp]
              intro _
              exact ⟨_, toolResultMessage toolResults, chatLoop_sends,
                by simp [AppState.completionRequest, ToolRound.messages], rfl⟩

end Loop

/-- When Core never fails, the model sees what its tools returned, in every batch of the
chat, exactly when no message was let through, no iteration is allowed, or Core finishes
within the iteration limit without a panic before.
-/
theorem chat_toolsSeen_iff (libraries : ToolLibraries) (state : AppState)
    (request : ChatRequest) (world : ServerWorld)
    (answers : ∀ k, ∃ response, world.complete k = .ok response)
    : ToolsSeen libraries state world 0 (chat libraries state request world).effects
      ↔ FinishesInTime libraries state world request := by
  unfold FinishesInTime
  cases converted : inboundMessages state.pipeline request.messages
      (.new world.requestId "") with
  | error error =>
      simp only [chat, converted, HandlerRun.failed, ToolsSeen, true_iff]
      intro sanitised context passed
      rw [inboundMessages_eq_ok_iff.mpr passed] at converted
      contradiction
  | ok converted' =>
      obtain ⟨messages, context⟩ := converted'
      simp only [chat, converted]
      rw [chatLoop_toolsSeen_iff answers]
      refine ⟨?_, ?_⟩
      · intro seen sanitised other passed
        rw [inboundMessages_eq_ok_iff.mpr passed] at converted
        obtain ⟨rfl, rfl⟩ := Prod.mk.inj (Except.ok.inj converted)
        exact seen
      · intro inTime
        exact inTime messages context (inboundMessages_eq_ok_iff.mp converted)

/-- Core's first answer to a greeting asks for an echo, its second one does not. -/
theorem chat_toolsSeen_iff_echo
    : ToolsSeen lenientLibraries (.start asciiTables 0 toolConfig) echoWorld 0
        (chat lenientLibraries (.start asciiTables 0 toolConfig) greeting echoWorld
        ).effects := by
  refine (chat_toolsSeen_iff lenientLibraries (.start asciiTables 0 toolConfig) greeting
    echoWorld ?_).mpr ?_
  · intro k
    cases k with
    | zero => exact ⟨_, rfl⟩
    | succ k => exact ⟨_, rfl⟩
  · intro sanitised context passed
    refine Or.inr ⟨1, by decide, ?_, ?_⟩
    · intro response answer
      obtain rfl := Except.ok.inj answer
      rfl
    · intro j before response answer _
      obtain rfl := Nat.lt_one_iff.mp before
      obtain rfl := Except.ok.inj answer
      exact ⟨_, rfl⟩

/-- One tool iteration is allowed. -/
def singleIterationConfig : SphereConfig :=
  { tools := { maxToolIterations := 1 } }

/-- Core asks for an echo whatever it is sent. -/
def insistentWorld : ServerWorld :=
  { echoWorld with complete := fun _ => echoWorld.complete 0 }

/-- The echo of the only iteration is executed, and no request carries its result. -/
theorem chat_toolsUnseen
    : (∀ k, ∃ response, insistentWorld.complete k = .ok response)
      ∧ (∃ sent toolCalls result,
          (chat lenientLibraries (.start asciiTables 0 singleIterationConfig) greeting
            insistentWorld).effects = [.complete sent, .processTools none toolCalls]
          ∧ process lenientLibraries .builtin (.new []) none (insistentWorld.tools 0)
              toolCalls = .ok [result])
      ∧ ¬ToolsSeen lenientLibraries (.start asciiTables 0 singleIterationConfig)
          insistentWorld 0
          (chat lenientLibraries (.start asciiTables 0 singleIterationConfig) greeting
            insistentWorld).effects := by
  refine ⟨fun _ => ⟨_, rfl⟩, ⟨_, _, _, rfl, rfl⟩, ?_⟩
  intro seen
  obtain ⟨⟨toolResults, _, sent, message, sends, _⟩, _⟩ := seen
  exact absurd sends List.not_mem_nil

end Intellisphere.Sphere
