import Mathlib.Data.List.Forall2
import Intellisphere.Sphere.Api.Transcript

/-! Where the text of a caller goes on its way to Core. The message contents go through the
inbound chain; the system prompt is copied into the completion request as it came.
-/

namespace Intellisphere.Sphere

open Intellisphere.Foundation

/-- The chain lets `input` pass as the content of any message and leaves `output` there. -/
def PipelineChain.Yields (chain : PipelineChain) (input output : String) : Prop :=
  ∀ message context,
    message.content = input
    → (chain.runInbound message context).result = .ok ()
      ∧ (chain.runInbound message context).message.content = output

/-- The chain rejects any message with the content `input`. -/
def PipelineChain.Rejects (chain : PipelineChain) (input : String) : Prop :=
  ∀ message context,
    message.content = input
    → ∃ error, (chain.runInbound message context).result = .error error

/-- The system prompt a caller gives, empty if there is none. -/
def ChatRequest.systemText (request : ChatRequest) : String :=
  request.system.getD ""

/-- The free texts of a caller. -/
def ChatRequest.texts (request : ChatRequest) : List String :=
  request.messages.map ChatMessage.content ++ [request.systemText]

/-- The messages of a completion request that stand for the caller's. -/
def CompletionRequest.callerMessages (sent : CompletionRequest) (request : ChatRequest)
    : List Message :=
  sent.messages.take request.messages.length

/-- The completion requests of a handler carry the caller's texts only as the inbound chain
leaves them, and there is none if the chain rejects one of the texts. With the default
sanitisation they hence carry no stripped character.
-/
structure CallerTextGuarded (tables : UnicodeTables) (config : PipelineConfig)
    (request : ChatRequest) (requests : List CompletionRequest)
    : Prop where
  messages
    : ∀ sent ∈ requests,
        List.Forall₂
          (fun given kept =>
            (PipelineChain.fromConfig tables config).Yields given.content kept.content)
          request.messages (sent.callerMessages request)
  system
    : ∀ sent ∈ requests,
        (PipelineChain.fromConfig tables config).Yields request.systemText sent.system
  rejected
    : (∃ text ∈ request.texts, (PipelineChain.fromConfig tables config).Rejects text)
      → requests = []
  clean
    : config.inbound.inputSanitization = {}
      → ∀ sent ∈ requests,
          ∀ text ∈ sent.system :: (sent.callerMessages request).map Message.content,
            text.toList.all isPrintableInput = true

-----------------------------------------------------------------------------------------
-- The inbound chain of a configuration
-----------------------------------------------------------------------------------------

/-- What the inbound chain of a configuration does to a text. -/
def InboundConfig.filterText (config : InboundConfig) (text : String)
    : Except SphereError String :=
  if config.inputSanitization.enabled then config.inputSanitization.sanitize text
  else .ok text

section Configured

variable {tables : UnicodeTables} {config : PipelineConfig}

/-- The inbound chain of a configuration filters the content and nothing else. -/
theorem PipelineChain.fromConfig_runInbound (message : Message) (context : PipelineContext)
    : (fromConfig tables config).runInbound message context
      = match config.inbound.filterText message.content with
        | .ok content => { result := .ok (), message := { message with content }, context }
        | .error error => { result := .error error, message, context } := by
  unfold runInbound fromConfig InboundConfig.filterText
  cases enabled : config.inbound.inputSanitization.enabled with
  | false => rfl
  | true =>
      simp only [whenEnabled, if_true, runFilters, inputSanitizationFilter,
        InputSanitizationConfig.apply, enabled, Bool.not_true, Bool.false_eq_true, if_false]
      cases config.inbound.inputSanitization.sanitize message.content <;> rfl

/-- The configured chain yields what its text filter yields. -/
theorem PipelineChain.fromConfig_yields_iff {input output : String}
    : (fromConfig tables config).Yields input output
      ↔ config.inbound.filterText input = .ok output := by
  refine ⟨?_, ?_⟩
  · intro yields
    have given := yields (ChatMessage.toProto { role := "user", content := input })
      (.new "" "") rfl
    rw [fromConfig_runInbound] at given
    cases filtered : config.inbound.filterText input with
    | ok content =>
        simp only [ChatMessage.toProto, filtered] at given
        rw [given.2]
    | error error =>
        simp only [ChatMessage.toProto, filtered] at given
        exact absurd given.1 (by simp)
  · intro filtered message context same
    subst same
    rw [fromConfig_runInbound, filtered]
    exact ⟨rfl, rfl⟩

/-- The configured chain rejects what its text filter rejects. -/
theorem PipelineChain.fromConfig_rejects_iff {input : String}
    : (fromConfig tables config).Rejects input
      ↔ ∃ error, config.inbound.filterText input = .error error := by
  refine ⟨?_, ?_⟩
  · intro rejects
    obtain ⟨error, given⟩ := rejects
      (ChatMessage.toProto { role := "user", content := input }) (.new "" "") rfl
    rw [fromConfig_runInbound] at given
    cases filtered : config.inbound.filterText input with
    | ok content => simp [ChatMessage.toProto, filtered] at given
    | error error => exact ⟨error, rfl⟩
  · intro rejected message context same
    obtain ⟨error, filtered⟩ := rejected
    subst same
    rw [fromConfig_runInbound, filtered]
    exact ⟨error, rfl⟩

/-- Sanitised messages are the filtered ones, by induction on them. -/
theorem Sanitised.filtered {context final : PipelineContext} {messages : List ChatMessage}
    {sanitised : List Message}
    (passed
      : Sanitised (.fromConfig tables config) context messages sanitised final)
    : List.Forall₂
        (fun given kept => config.inbound.filterText given.content = .ok kept.content)
        messages sanitised := by
  induction passed with
  | nil => exact .nil
  | @cons context final message rest sanitised passes others ih =>
      refine .cons ?_ ih
      rw [PipelineChain.fromConfig_runInbound] at passes ⊢
      cases filtered : config.inbound.filterText message.toProto.content with
      | ok content =>
          rw [show message.content = message.toProto.content from rfl, filtered]
      | error error =>
          rw [filtered] at passes
          contradiction

/-- A rejected list holds a message whose text is rejected. -/
theorem Rejected.text {context : PipelineContext} {messages : List ChatMessage}
    (rejected : Rejected (.fromConfig tables config) context messages)
    : ∃ message ∈ messages,
        ∃ error, config.inbound.filterText message.content = .error error := by
  obtain ⟨earlier, message, later, sanitised, middle, error, rfl, _, rejects⟩ := rejected
  refine ⟨message, by simp, ?_⟩
  rw [PipelineChain.fromConfig_runInbound] at rejects
  cases filtered : config.inbound.filterText message.toProto.content with
  | ok content =>
      rw [filtered] at rejects
      contradiction
  | error error => exact ⟨error, filtered⟩

/-- With the default sanitisation a filtered text has only printable characters. -/
theorem InboundConfig.filterText_clean {config : InboundConfig}
    (defaults : config.inputSanitization = {}) {input output : String}
    (filtered : config.filterText input = .ok output)
    : output.toList.all isPrintableInput = true := by
  unfold filterText InputSanitizationConfig.sanitize at filtered
  rw [defaults] at filtered
  simp only [if_true, Bool.true_and] at filtered
  split at filtered
  · contradiction
  · obtain rfl := Except.ok.inj filtered
    simp [List.all_filter]

/-- Every element of a list has a partner in a related list. -/
theorem forall₂_partner {α β : Type} {related : α → β → Prop} {left : List α}
    {right : List β} (lists : List.Forall₂ related left right) {a : α} (member : a ∈ left)
    : ∃ b ∈ right, related a b := by
  induction lists with
  | nil => contradiction
  | @cons head head' rest rest' first _ ih =>
      rcases List.mem_cons.mp member with rfl | later
      · exact ⟨head', List.mem_cons_self, first⟩
      · obtain ⟨b, among, holds⟩ := ih later
        exact ⟨b, List.mem_cons_of_mem _ among, holds⟩

-----------------------------------------------------------------------------------------
-- The two handlers
-----------------------------------------------------------------------------------------

/-- The inbound chain rejects one of the caller's messages. -/
def InboundConfig.RejectsMessage (config : InboundConfig) (request : ChatRequest) : Prop :=
  ∃ message ∈ request.messages, ∃ error, config.filterText message.content = .error error

/-- The inbound chain would accept the system prompt and leave it as it is. -/
def InboundConfig.KeepsSystem (config : InboundConfig) (request : ChatRequest) : Prop :=
  config.filterText request.systemText = .ok request.systemText

/-- Messages that all pass contain no rejected one. -/
theorem Sanitised.not_rejects {request : ChatRequest} {context final : PipelineContext}
    {sanitised : List Message}
    (passed
      : Sanitised (.fromConfig tables config) context request.messages sanitised final)
    : ¬config.inbound.RejectsMessage request := by
  intro rejects
  obtain ⟨message, member, error, rejected⟩ := rejects
  obtain ⟨_, _, kept⟩ := forall₂_partner passed.filtered member
  rw [rejected] at kept
  contradiction

/-- A chat that sends no request is guarded. -/
theorem CallerTextGuarded.nil (request : ChatRequest)
    : CallerTextGuarded tables config request [] where
  messages := by simp
  system := by simp
  rejected := fun _ => rfl
  clean := by simp

/-- Requests that repeat the sanitised messages are guarded exactly when there are none or
the system prompt needs no filtering.
-/
theorem CallerTextGuarded.iff_of_sanitised {request : ChatRequest}
    {context final : PipelineContext} {sanitised : List Message}
    {requests : List CompletionRequest}
    (passed
      : Sanitised (.fromConfig tables config) context request.messages sanitised final)
    (conversation : ∀ sent ∈ requests, sanitised <+: sent.messages)
    (systems : ∀ sent ∈ requests, sent.system = request.systemText)
    : CallerTextGuarded tables config request requests
      ↔ requests = [] ∨ config.inbound.KeepsSystem request := by
  have caller : ∀ sent ∈ requests, sent.callerMessages request = sanitised := by
    intro sent member
    unfold CompletionRequest.callerMessages
    rw [passed.filtered.length_eq]
    exact (List.prefix_iff_eq_take.mp (conversation sent member)).symm
  refine ⟨?_, ?_⟩
  · intro guarded
    cases requests with
    | nil => exact Or.inl rfl
    | cons sent rest =>
        have kept := PipelineChain.fromConfig_yields_iff.mp
          (guarded.system sent List.mem_cons_self)
        rw [systems sent List.mem_cons_self] at kept
        exact Or.inr kept
  · intro fine
    rcases fine with rfl | keeps
    · exact .nil request
    · refine ⟨?_, ?_, ?_, ?_⟩
      · intro sent member
        rw [caller sent member]
        exact passed.filtered.imp fun _ _ => PipelineChain.fromConfig_yields_iff.mpr
      · intro sent member
        rw [systems sent member]
        exact PipelineChain.fromConfig_yields_iff.mpr keeps
      · intro rejects
        obtain ⟨text, member, rejects⟩ := rejects
        obtain ⟨error, rejected⟩ := PipelineChain.fromConfig_rejects_iff.mp rejects
        rcases List.mem_append.mp member with message | system
        · obtain ⟨given, among, rfl⟩ := List.mem_map.mp message
          exact absurd ⟨given, among, error, rejected⟩ passed.not_rejects
        · rw [List.mem_singleton.mp system, keeps] at rejected
          contradiction
      · intro defaults sent member text among
        rw [caller sent member, systems sent member] at among
        rcases List.mem_cons.mp among with rfl | message
        · exact InboundConfig.filterText_clean defaults keeps
        · obtain ⟨kept, member, rfl⟩ := List.mem_map.mp message
          obtain ⟨given, _, filtered⟩ := forall₂_partner passed.filtered.flip member
          exact InboundConfig.filterText_clean defaults filtered

end Configured

section Handlers

variable (libraries : ToolLibraries) (tables : UnicodeTables) (now : ℚ)
  (config : SphereConfig) (request : ChatRequest) (world : ServerWorld)

section Passed

variable {sanitised : List Message} {context : PipelineContext}
  (passed
    : Sanitised (.fromConfig tables config.pipeline) (.new world.requestId "")
        request.messages sanitised context)

include passed

/-- With an iteration allowed and all messages let through, chat sends a request. -/
theorem chat_requests_ne_nil (allowed : config.tools.maxToolIterations ≠ 0)
    : (chat libraries (.start tables now config) request world).requests ≠ [] := by
  have some : (AppState.start tables now config).effectiveMax ≠ 0 := by
    unfold AppState.effectiveMax hardCap AppState.start
    simp only
    omega
  obtain ⟨left, count⟩ := Nat.exists_eq_succ_of_ne_zero some
  have converted := inboundMessages_eq_ok_iff.mpr passed
  unfold chat
  rw [show (AppState.start tables now config).pipeline = .fromConfig tables config.pipeline
    from rfl, converted]
  simp only [count, chatLoop, HandlerRun.requests_after_complete]
  exact List.cons_ne_nil _ _

/-- Then chat sends none exactly when no iteration is allowed. -/
theorem chat_requests_eq_nil_iff
    : (chat libraries (.start tables now config) request world).requests = []
      ↔ config.tools.maxToolIterations = 0 := by
  refine ⟨?_, ?_⟩
  · intro empty
    by_contra allowed
    exact chat_requests_ne_nil libraries tables now config request world passed allowed empty
  · intro zero
    have converted := inboundMessages_eq_ok_iff.mpr passed
    simp [chat, AppState.start, converted, AppState.effectiveMax, zero, chatLoop,
      HandlerRun.requests]

/-- Every request of chat repeats the sanitised messages and adds to them. -/
theorem chat_requests_repeat {sent : CompletionRequest}
    (member : sent ∈ (chat libraries (.start tables now config) request world).requests)
    : ∃ added,
        sent
        = (AppState.start tables now config).completionRequest request world.requestId
            (sanitised ++ added) := by
  have converted := inboundMessages_eq_ok_iff.mpr passed
  obtain ⟨k, found⟩ := List.mem_iff_getElem?.mp member
  simp only [chat, AppState.start, converted] at found
  obtain ⟨rounds, _, _, same⟩ := chatLoop_requests_get found
  exact ⟨_, same⟩

/-- The stream handler sends one request with the sanitised messages. -/
theorem chatStream_requests
    : (chatStream (.start tables now config) request world).requests
      = [(AppState.start tables now config).completionRequest request world.requestId
          sanitised] := by
  have converted := inboundMessages_eq_ok_iff.mpr passed
  simp only [chatStream, AppState.start, converted]
  cases world.completeStream <;> rfl

/-- Chat guards the caller's texts when it sends nothing or keeps the system prompt. -/
theorem chat_guarded_iff
    : CallerTextGuarded tables config.pipeline request
        (chat libraries (.start tables now config) request world).requests
      ↔ config.tools.maxToolIterations = 0
        ∨ config.pipeline.inbound.KeepsSystem request := by
  rw [← chat_requests_eq_nil_iff libraries tables now config request world passed]
  refine CallerTextGuarded.iff_of_sanitised passed ?_ ?_
  · intro sent member
    obtain ⟨added, rfl⟩ :=
      chat_requests_repeat libraries tables now config request world passed member
    exact List.prefix_append sanitised added
  · intro sent member
    obtain ⟨added, rfl⟩ :=
      chat_requests_repeat libraries tables now config request world passed member
    rfl

/-- The stream handler guards the caller's texts when it keeps the system prompt. -/
theorem chatStream_guarded_iff
    : CallerTextGuarded tables config.pipeline request
        (chatStream (.start tables now config) request world).requests
      ↔ config.pipeline.inbound.KeepsSystem request := by
  rw [chatStream_requests tables now config request world passed,
    CallerTextGuarded.iff_of_sanitised passed]
  · simp
  · intro sent member
    obtain rfl := List.mem_singleton.mp member
    exact List.prefix_rfl
  · intro sent member
    obtain rfl := List.mem_singleton.mp member
    rfl

end Passed

/-- In every completion request of chat and of chat_stream the caller's texts are what the
inbound chain made of them, exactly when no request is sent (a message is rejected or, in
chat, no iteration is allowed) or the chain would leave the system prompt as it is.
-/
theorem callerText_guarded_iff
    : (CallerTextGuarded tables config.pipeline request
          (chat libraries (.start tables now config) request world).requests
        ↔ config.pipeline.inbound.RejectsMessage request
          ∨ config.tools.maxToolIterations = 0
          ∨ config.pipeline.inbound.KeepsSystem request)
      ∧ (CallerTextGuarded tables config.pipeline request
            (chatStream (.start tables now config) request world).requests
          ↔ config.pipeline.inbound.RejectsMessage request
            ∨ config.pipeline.inbound.KeepsSystem request) := by
  cases converted : inboundMessages (.fromConfig tables config.pipeline) request.messages
      (.new world.requestId "") with
  | error error =>
      have rejects := (inboundMessages_eq_error_iff.mp ⟨error, converted⟩).text
      have none : (chat libraries (.start tables now config) request world).requests = [] := by
        simp [chat, AppState.start, converted]
      have none' : (chatStream (.start tables now config) request world).requests = [] := by
        simp [chatStream, AppState.start, converted]
      rw [none, none']
      exact ⟨iff_of_true (.nil request) (Or.inl rejects),
        iff_of_true (.nil request) (Or.inl rejects)⟩
  | ok converted' =>
      obtain ⟨sanitised, context⟩ := converted'
      have passed := inboundMessages_eq_ok_iff.mp converted
      have none := passed.not_rejects
      refine ⟨?_, ?_⟩
      · rw [chat_guarded_iff libraries tables now config request world passed]
        exact (or_iff_right none).symm
      · rw [chatStream_guarded_iff tables now config request world passed]
        exact (or_iff_right none).symm

end Handlers

/-- A greeting under a system prompt with a null byte. -/
def nullByteSystem : ChatRequest :=
  { greeting with system := some "\x00" }

/-- The null byte of the system prompt reaches Core in chat and in chat_stream, with the
default sanitisation.
-/
theorem callerText_unguarded
    : ¬CallerTextGuarded asciiTables toolConfig.pipeline nullByteSystem
          (chat lenientLibraries (.start asciiTables 0 toolConfig) nullByteSystem echoWorld
          ).requests
      ∧ ¬CallerTextGuarded asciiTables toolConfig.pipeline nullByteSystem
          (chatStream (.start asciiTables 0 toolConfig) nullByteSystem echoWorld
          ).requests := by
  have rejects
      : (PipelineChain.fromConfig asciiTables toolConfig.pipeline).Rejects "\x00" :=
    PipelineChain.fromConfig_rejects_iff.mpr ⟨_, rfl⟩
  have passed
      : Sanitised (.fromConfig asciiTables toolConfig.pipeline) (.new echoWorld.requestId "")
          nullByteSystem.messages _ _ :=
    .cons rfl (.nil _)
  have given : "\x00" ∈ nullByteSystem.texts :=
    List.mem_append_right _ (List.mem_singleton.mpr rfl)
  refine ⟨?_, ?_⟩
  · intro guarded
    have none := guarded.rejected ⟨_, given, rejects⟩
    exact chat_requests_ne_nil lenientLibraries asciiTables 0 toolConfig nullByteSystem
      echoWorld passed (by decide) none
  · intro guarded
    have none := guarded.rejected ⟨_, given, rejects⟩
    exact absurd none (List.cons_ne_nil _ _)

end Intellisphere.Sphere
