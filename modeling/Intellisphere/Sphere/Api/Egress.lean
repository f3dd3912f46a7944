import Intellisphere.Sphere.Api.Transcript
import Intellisphere.Sphere.Tools.Dispatch

/-! What the network has to say in a chat. A tool call reaches the network only if it may be
run and its handler is an allowed one; the answers to such calls are all of the network that a
chat depends on.
-/

namespace Intellisphere.Sphere

open Intellisphere.Foundation

section Calls

variable (libraries : ToolLibraries) (registry : ToolRegistry) (executor : ToolExecutor)
  (identity : Option Identity)

/-- The call is one that is posted to a URL: it may be run, its tool is one of the Sphere zone
with this handler, the handler is reached by HTTPS at an allowed domain, and the arguments are
within the size limit of a request.
-/
structure Posts (toolCall : ToolCall) (url : String) : Prop where
  permitted
    : ∃ registration,
        Permitted libraries registry identity toolCall registration
        ∧ registration.zone = .sphere
        ∧ registration.handlerUrl = some url
  handled : toolCall.name ≠ "intellisphere_echo"
  secure
    : ∃ domain,
        libraries.parseUrl url = .ok ("https", some domain)
        ∧ domain ∈ executor.scopedClient.allowedDomains
  small
    : toolCall.argumentsJson.utf8ByteSize ≤ executor.scopedClient.maxRequestBodyBytes

/-- The surroundings of two executions that differ at most in what the network does. -/
structure ToolWorld.Offline (first second : ToolWorld) : Prop where
  now : first.now = second.now
  panics : first.panics = second.panics
  requestFirst : first.requestFirst = second.requestFirst

/-- The surroundings differ at most in what the network does, and not even there for a call
that is posted.
-/
structure AgreeOn (toolCall : ToolCall) (first second : ToolWorld) : Prop where
  offline : first.Offline second
  online
    : (∃ url, Posts libraries registry executor identity toolCall url)
      → first.reply = second.reply ∧ first.timeoutMessage = second.timeoutMessage

variable {libraries registry executor identity}

/-- A URL is valid exactly when it is an HTTPS one with an allowed host. -/
theorem ScopedHttpClient.validateUrl_ok_iff {client : ScopedHttpClient} {url : String}
    : client.validateUrl libraries url = .ok ()
      ↔ ∃ domain,
          libraries.parseUrl url = .ok ("https", some domain)
          ∧ domain ∈ client.allowedDomains := by
  unfold ScopedHttpClient.validateUrl
  cases libraries.parseUrl url with
  | error message => simp
  | ok parsed =>
      obtain ⟨scheme, host⟩ := parsed
      by_cases secure : scheme = "https"
      · subst secure
        cases host with
        | none => simp
        | some domain => by_cases allowed : domain ∈ client.allowedDomains <;> simp [allowed]
      · simp [secure]

/-- A post whose URL or size is refused is answered without the network. -/
theorem ScopedHttpClient.post_offline {client : ScopedHttpClient} {first second : ToolWorld}
    {url body : String}
    (agree
      : client.validateUrl libraries url = .ok ()
        → body.utf8ByteSize ≤ client.maxRequestBodyBytes
        → first.reply = second.reply ∧ first.timeoutMessage = second.timeoutMessage)
    : client.post libraries first url body = client.post libraries second url body := by
  unfold ScopedHttpClient.post
  cases valid : client.validateUrl libraries url with
  | error error => rfl
  | ok =>
      dsimp only
      split
      · rfl
      next small =>
        obtain ⟨reply, timeoutMessage⟩ := agree valid (Nat.le_of_not_lt small)
        simp only [ScopedHttpClient.send, reply, timeoutMessage]

/-- An execution depends on the network only if it is posted. -/
theorem ToolExecutor.execute_offline {first second : ToolWorld} {toolCall : ToolCall}
    {registration : ToolRegistration}
    (permitted : Permitted libraries registry identity toolCall registration)
    (agree : AgreeOn libraries registry executor identity toolCall first second)
    : executor.execute libraries first toolCall registration
      = executor.execute libraries second toolCall registration := by
  unfold ToolExecutor.execute
  cases zone : registration.zone with
  | satellite => rfl
  | wasm => rfl
  | sphere =>
      dsimp only
      unfold ToolExecutor.executeSphereTool
      split
      · simp only [executeEcho, agree.offline.now]
      next handled =>
        cases handler : registration.handlerUrl with
        | none => rfl
        | some url =>
            have same :=
              @ScopedHttpClient.post_offline libraries executor.scopedClient first second url
                toolCall.argumentsJson
                (fun valid small =>
                  agree.online
                    ⟨url, ⟨registration, permitted, zone, handler⟩, handled,
                      ScopedHttpClient.validateUrl_ok_iff.mp valid, small⟩)
            simp only [same, agree.offline.requestFirst]

/-- A call depends on the network only if it is posted. -/
theorem processCall_offline {first second : ToolWorld} {toolCall : ToolCall}
    (agree : AgreeOn libraries registry executor identity toolCall first second)
    : processCall libraries registry executor identity first toolCall
      = processCall libraries registry executor identity second toolCall := by
  unfold processCall
  cases registered : registry.get toolCall.name with
  | none => rfl
  | some registration =>
      dsimp only
      cases authorized : checkAuthorization registration identity with
      | error message => rfl
      | ok =>
          cases valid : validateParams libraries toolCall.argumentsJson
              registration.inputSchemaJson with
          | error message => rfl
          | ok =>
              have permitted := permitted_iff.mpr ⟨registered, authorized, valid⟩
              dsimp only
              unfold executeWithContainment
              rw [agree.offline.panics, ToolExecutor.execute_offline permitted agree]

/-- A list of calls depends on the network only through those that are posted. By induction on
the calls.
-/
theorem process_offline {first second : Nat → ToolWorld} {toolCalls : List ToolCall}
    (agree
      : ∀ (i : Nat) toolCall,
          toolCalls[i]? = some toolCall
          → AgreeOn libraries registry executor identity toolCall (first i) (second i))
    : process libraries registry executor identity first toolCalls
      = process libraries registry executor identity second toolCalls := by
  induction toolCalls generalizing first second with
  | nil => rfl
  | cons toolCall rest ih =>
      have head := processCall_offline (agree 0 toolCall rfl)
      have tail :=
        @ih (fun i => first (i + 1)) (fun i => second (i + 1))
          (fun i other found => agree (i + 1) other found)
      unfold process
      rw [head, tail]

end Calls

/-- The surroundings of two chats that differ at most in what the network answers to calls
that are not posted.
-/
structure ServerWorld.AgreesOn (libraries : ToolLibraries) (state : AppState)
    (identity : Option Identity) (first second : ServerWorld)
    : Prop where
  complete : first.complete = second.complete
  tools
    : ∀ iteration response,
        first.complete iteration = .ok response
        → ∀ (i : Nat) toolCall,
            response.toolCalls[i]? = some toolCall
            → AgreeOn libraries state.toolRegistry state.toolExecutor identity toolCall
                (first.tools iteration i) (second.tools iteration i)

section Chats

variable {libraries : ToolLibraries} {state : AppState} {request : ChatRequest}
  {first second : ServerWorld}

/-- The tool loop depends on the network only through the calls that are posted. By induction on
the iterations left.
-/
theorem chatLoop_offline {context : PipelineContext}
    (sameId : first.requestId = second.requestId)
    (agree : first.AgreesOn libraries state context.identity second)
    (left iteration : Nat) (messages : List Message) (usage : UsageResponse)
    : chatLoop libraries state request first context left iteration messages usage
      = chatLoop libraries state request second context left iteration messages usage := by
  induction left generalizing iteration messages usage with
  | zero => rfl
  | succ left ih =>
      simp only [chatLoop, sameId, ← agree.complete]
      cases answer : first.complete iteration with
      | error message => rfl
      | ok response =>
          dsimp only
          split
          · rw [process_offline (agree.tools iteration response answer)]
            simp only [ih]
          · rfl

/-- Two chats end alike if they agree on everything but the answers to calls not posted. -/
theorem chat_agreesOn (sameId : first.requestId = second.requestId)
    (agree
      : ∀ sanitised context,
          Sanitised state.pipeline (.new first.requestId "") request.messages sanitised context
          → first.AgreesOn libraries state context.identity second)
    : chat libraries state request first = chat libraries state request second := by
  unfold chat
  rw [← sameId]
  cases converted : inboundMessages state.pipeline request.messages
      (.new first.requestId "") with
  | error error => rfl
  | ok passed =>
      obtain ⟨messages, context⟩ := passed
      have passed := inboundMessages_eq_ok_iff.mp converted
      exact chatLoop_offline sameId (agree messages context passed) state.effectiveMax 0
        messages _

/-- A server as startup builds it allows no domain, so it posts nothing. -/
theorem not_posts_start {tables : UnicodeTables} {now : ℚ} {config : SphereConfig}
    {identity : Option Identity} {toolCall : ToolCall} {url : String}
    : ¬Posts libraries (AppState.start tables now config).toolRegistry
        (AppState.start tables now config).toolExecutor identity toolCall url := by
  intro posts
  obtain ⟨domain, _, allowed⟩ := posts.secure
  contradiction

end Chats

/-- What the network says matters only where it was asked. Two chats end alike, with the same
calls on the other components, unless the network answers a call differently that is permitted,
is handled outside, and is posted by HTTPS to an allowed domain. As startup builds the server,
it makes no difference at all.
-/
theorem chat_offline (libraries : ToolLibraries) (request : ChatRequest)
    (first second : ServerWorld) (sameId : first.requestId = second.requestId)
    : (∀ state : AppState,
        (∀ sanitised context,
          Sanitised state.pipeline (.new first.requestId "") request.messages sanitised context
          → first.AgreesOn libraries state context.identity second)
        → chat libraries state request first = chat libraries state request second)
      ∧ (first.complete = second.complete
        → (∀ iteration i, (first.tools iteration i).Offline (second.tools iteration i))
        → ∀ tables now config,
            chat libraries (.start tables now config) request first
            = chat libraries (.start tables now config) request second) := by
  refine ⟨fun _ agree => chat_agreesOn sameId agree, ?_⟩
  intro complete offline tables now config
  refine chat_agreesOn sameId (fun _ _ _ => ⟨complete, ?_⟩)
  intro iteration response _ i toolCall _
  refine ⟨offline iteration i, ?_⟩
  intro ⟨url, posts⟩
  exact absurd posts not_posts_start

/-- Libraries for which every URL is one of the weather service. -/
def weatherLibraries : ToolLibraries :=
  { lenientLibraries with parseUrl := fun _ => .ok ("https", some "weather.example") }

/-- A tool that is posted to the weather service. -/
def weatherTool : ToolRegistration where
  name := "weather"
  description := "Tell the weather"
  inputSchemaJson := "\x7b\x7d"
  zone := .sphere
  handlerUrl := some "https://weather.example/now"

/-- A server with the weather tool, whose handler it may call. -/
def weatherState : AppState :=
  {
    AppState.start asciiTables 0 toolConfig with
    toolRegistry := {
      tools := ToolRegistry.builtin.tools.insert "weather" weatherTool
    }
    toolExecutor := .new ["weather.example"]
  }

def weatherCall : ToolCall where
  callId := "c-1"
  name := "weather"
  argumentsJson := "\x7b\x7d"

/-- Core asks for the weather and an echo, and then answers. The weather service answers, and
whatever else is posted gets the given reply.
-/
def weatherWorld (elsewhere : HttpReply) : ServerWorld :=
  {
    echoWorld with
    complete := fun iteration =>
      if iteration = 0 then
        .ok
          {
            content := ""
            toolCalls := [
              weatherCall,
              { callId := "c-2", name := "intellisphere_echo", argumentsJson := "" }
            ]
            stopReasonRaw := StopReason.toolUse.toRaw
            usage := none
            model := "m"
          }
      else echoWorld.complete iteration
    tools := fun _ i =>
      { quietToolWorld with reply := if i = 0 then .body 5 "\"sunny\"" else elsewhere }
  }

/-- The weather call is posted. -/
theorem weatherCall_posts
    : Posts weatherLibraries weatherState.toolRegistry weatherState.toolExecutor none
        weatherCall "https://weather.example/now" where
  permitted := ⟨weatherTool, permitted_iff.mpr ⟨rfl, rfl, rfl⟩, rfl, rfl⟩
  handled := by decide
  secure := ⟨"weather.example", rfl, by decide⟩
  small := by decide +kernel

/-- Whether the network answers anything but the weather call makes no difference. -/
theorem weatherWorld_agreesOn (identity : Option Identity) (first second : HttpReply)
    : (weatherWorld first).AgreesOn weatherLibraries weatherState identity
        (weatherWorld second) where
  complete := rfl
  tools iteration response answered i toolCall found := by
    refine ⟨⟨rfl, rfl, rfl⟩, ?_⟩
    intro posted
    obtain ⟨url, posts⟩ := posted
    cases iteration with
    | zero =>
        obtain rfl := Except.ok.inj answered
        match i, found with
        | 0, _ => exact ⟨rfl, rfl⟩
        | 1, found =>
            obtain rfl := Option.some.inj found
            exact absurd rfl posts.handled
    | succ iteration =>
        obtain rfl := Except.ok.inj answered
        contradiction

/-- A chat that posts a call does not notice what the network says elsewhere, and on a server
as startup builds it a chat notices nothing at all.
-/
theorem chat_offline_echo
    : (∃ url,
        Posts weatherLibraries weatherState.toolRegistry weatherState.toolExecutor none
          weatherCall url)
      ∧ chat weatherLibraries weatherState greeting (weatherWorld .silent)
        = chat weatherLibraries weatherState greeting
            (weatherWorld (.failed 0 "unreachable"))
      ∧ chat weatherLibraries (.start asciiTables 0 toolConfig) greeting
            (weatherWorld .silent)
          = chat weatherLibraries (.start asciiTables 0 toolConfig) greeting
              (weatherWorld (.failed 0 "unreachable")) := by
  have offline :=
    chat_offline weatherLibraries greeting (weatherWorld .silent)
      (weatherWorld (.failed 0 "unreachable")) rfl
  exact ⟨⟨_, weatherCall_posts⟩,
    offline.1 weatherState (fun _ context _ => weatherWorld_agreesOn context.identity _ _),
    offline.2 rfl (fun _ _ => ⟨rfl, rfl, rfl⟩) asciiTables 0 toolConfig⟩

end Intellisphere.Sphere
