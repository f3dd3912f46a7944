import Intellisphere.Sphere.Tools.Authorization
import Intellisphere.Sphere.Tools.Containment

/-! Which calls the interceptor hands to the executor, and what the others are answered. The
loop is run with a note for each call it comes to; a panic while a result is cut ends it.
-/

namespace Intellisphere.Sphere

open Intellisphere.Foundation

/-- Answer one tool call, noting whether it is handed to the executor. -/
def processCallNoting (libraries : ToolLibraries) (registry : ToolRegistry)
    (executor : ToolExecutor) (identity : Option Identity) (world : ToolWorld)
    (toolCall : ToolCall)
    : Bool × Except Failure ToolResult :=
  match registry.get toolCall.name with
  | none =>
      (
        false,
        .ok
          (errorResult toolCall.callId "TOOL_NOT_FOUND"
            ("Tool '" ++ toolCall.name ++ "' is not registered"))
      )
  | some registration =>
      match checkAuthorization registration identity with
      | .error message =>
          (false, .ok (errorResult toolCall.callId "AUTHORIZATION_DENIED" message))
      | .ok () =>
          match validateParams libraries toolCall.argumentsJson
              registration.inputSchemaJson with
          | .error message =>
              (
                false,
                .ok
                  (errorResult toolCall.callId "VALIDATION_FAILED"
                    ("Parameter validation failed: " ++ message))
              )
          | .ok () =>
              (true, executeWithContainment libraries executor world toolCall registration)

/-- Answer a list of tool calls in order, with a note for each call come to. -/
def processNoting (libraries : ToolLibraries) (registry : ToolRegistry)
    (executor : ToolExecutor) (identity : Option Identity)
    : (Nat → ToolWorld) → List ToolCall → List Bool × Except Failure (List ToolResult)
  | _, [] => ([], .ok [])
  | worlds, toolCall :: rest =>
      match processCallNoting libraries registry executor identity (worlds 0) toolCall with
      | (handed, .error failure) => ([handed], .error failure)
      | (handed, .ok result) =>
          match processNoting libraries registry executor identity (fun i => worlds (i + 1))
              rest with
          | (notes, .error failure) => (handed :: notes, .error failure)
          | (notes, .ok results) => (handed :: notes, .ok (result :: results))

section Dispatch

variable (libraries : ToolLibraries) (registry : ToolRegistry) (identity : Option Identity)

/-- The tool is registered, open to the identity and accepts the arguments. -/
structure Permitted (toolCall : ToolCall) (registration : ToolRegistration) : Prop where
  registered : registry.get toolCall.name = some registration
  authorized : registration.Authorizes identity
  accepts : registration.AcceptsArguments libraries toolCall.argumentsJson

/-- The first check the call fails, in the order of the interceptor, has this code. -/
inductive Refused (toolCall : ToolCall) : String → Prop
  | notFound (unregistered : registry.get toolCall.name = none)
    : Refused toolCall "TOOL_NOT_FOUND"
  | denied {registration : ToolRegistration}
    (registered : registry.get toolCall.name = some registration)
    (unauthorized : ¬registration.Authorizes identity)
    : Refused toolCall "AUTHORIZATION_DENIED"
  | invalid {registration : ToolRegistration}
    (registered : registry.get toolCall.name = some registration)
    (authorized : registration.Authorizes identity)
    (unaccepted : ¬registration.AcceptsArguments libraries toolCall.argumentsJson)
    : Refused toolCall "VALIDATION_FAILED"

variable (executor : ToolExecutor)

/-- What the interceptor does with one call: it hands a permitted one to the executor and
answers any other with the first check it fails.
-/
inductive CallDecision (world : ToolWorld) (toolCall : ToolCall)
    : Bool × Except Failure ToolResult → Prop
  | dispatched {registration : ToolRegistration}
    (permitted : Permitted libraries registry identity toolCall registration)
    : CallDecision world toolCall
        (true, executeWithContainment libraries executor world toolCall registration)
  | refused {code : String} (message : String)
    (refused : Refused libraries registry identity toolCall code)
    : CallDecision world toolCall (false, .ok (errorResult toolCall.callId code message))

/-- The interceptor hands exactly the permitted calls to the executor, answers every other
call with the code of the first check it fails, and gives each call the result it gets alone.
-/
structure DispatchesExactly (worlds : Nat → ToolWorld) (toolCalls : List ToolCall) : Prop
    where
  handed
    : ∀ (i : Nat) toolCall,
        toolCalls[i]? = some toolCall
        → ((processNoting libraries registry executor identity worlds toolCalls).1[i]?
              = some true
            ↔ ∃ registration, Permitted libraries registry identity toolCall registration)
  refused
    : ∀ (i : Nat) toolCall,
        toolCalls[i]? = some toolCall
        → (¬∃ registration, Permitted libraries registry identity toolCall registration)
        → ∃ code message results,
            Refused libraries registry identity toolCall code
            ∧ process libraries registry executor identity worlds toolCalls = .ok results
            ∧ results[i]? = some (errorResult toolCall.callId code message)
  independent
    : ∀ (i : Nat) toolCall,
        toolCalls[i]? = some toolCall
        → (process libraries registry executor identity worlds toolCalls).map (·[i]?)
          = (process libraries registry executor identity (fun _ => worlds i)
              [toolCall]).map (·[0]?)

variable {libraries registry executor identity}

-----------------------------------------------------------------------------------------
-- One call
-----------------------------------------------------------------------------------------

/-- The notes do not change the answer. -/
theorem processCallNoting_answer (world : ToolWorld) (toolCall : ToolCall)
    : (processCallNoting libraries registry executor identity world toolCall).2
      = processCall libraries registry executor identity world toolCall := by
  unfold processCallNoting processCall
  cases registry.get toolCall.name with
  | none => rfl
  | some registration =>
      cases authorized : checkAuthorization registration identity with
      | error message => simp [authorized]
      | ok =>
          cases valid : validateParams libraries toolCall.argumentsJson
              registration.inputSchemaJson with
          | error message => simp [authorized, valid]
          | ok => simp [authorized, valid]

/-- A call runs its handler when it is permitted. -/
theorem permitted_iff {toolCall : ToolCall} {registration : ToolRegistration}
    : Permitted libraries registry identity toolCall registration
      ↔ RunsHandler libraries registry identity toolCall registration := by
  constructor
  · intro permitted
    exact ⟨permitted.registered, checkAuthorization_ok_iff.mpr permitted.authorized,
      validateParams_ok_iff.mpr permitted.accepts⟩
  · intro runs
    exact ⟨runs.registered, checkAuthorization_ok_iff.mp runs.authorised,
      validateParams_ok_iff.mp runs.valid⟩

/-- A refused call is not permitted. -/
theorem Refused.not_permitted {toolCall : ToolCall} {code : String}
    (refused : Refused libraries registry identity toolCall code)
    : ¬∃ registration, Permitted libraries registry identity toolCall registration := by
  intro ⟨registration, permitted⟩
  cases refused with
  | notFound unregistered =>
      rw [permitted.registered] at unregistered
      contradiction
  | denied registered unauthorized =>
      obtain rfl := Option.some.inj (registered.symm.trans permitted.registered)
      exact unauthorized permitted.authorized
  | invalid registered _ unaccepted =>
      obtain rfl := Option.some.inj (registered.symm.trans permitted.registered)
      exact unaccepted permitted.accepts

/-- Every call is decided so. Case analysis on the step that decides it. -/
theorem processCallNoting_decision (world : ToolWorld) (toolCall : ToolCall)
    : CallDecision libraries registry identity executor world toolCall
        (processCallNoting libraries registry executor identity world toolCall) := by
  unfold processCallNoting
  cases registered : registry.get toolCall.name with
  | none => exact .refused _ (.notFound registered)
  | some registration =>
      cases authorized : checkAuthorization registration identity with
      | error message =>
          have unauthorized : ¬registration.Authorizes identity := by
            rw [← checkAuthorization_ok_iff, authorized]
            simp
          simp only [authorized]
          exact .refused _ (.denied registered unauthorized)
      | ok =>
          have authorizes := checkAuthorization_ok_iff.mp authorized
          cases valid : validateParams libraries toolCall.argumentsJson
              registration.inputSchemaJson with
          | error message =>
              have unaccepted
                  : ¬registration.AcceptsArguments libraries toolCall.argumentsJson := by
                rw [← validateParams_ok_iff, valid]
                simp
              simp only [authorized, valid]
              exact .refused _ (.invalid registered authorizes unaccepted)
          | ok =>
              have accepts := validateParams_ok_iff.mp valid
              simp only [authorized, valid]
              exact .dispatched ⟨registered, authorizes, accepts⟩

/-- The note of a call says whether it is permitted. -/
theorem processCallNoting_handed {world : ToolWorld} {toolCall : ToolCall}
    : (processCallNoting libraries registry executor identity world toolCall).1 = true
      ↔ ∃ registration, Permitted libraries registry identity toolCall registration := by
  have decision :=
    @processCallNoting_decision libraries registry identity executor world toolCall
  generalize processCallNoting libraries registry executor identity world toolCall = noted
    at decision
  cases decision with
  | dispatched permitted => exact iff_of_true rfl ⟨_, permitted⟩
  | refused message refused => exact iff_of_false Bool.false_ne_true refused.not_permitted

/-- A call that is not permitted is answered with the first check it fails. -/
theorem processCall_refused {toolCall : ToolCall} (world : ToolWorld)
    (unpermitted
      : ¬∃ registration, Permitted libraries registry identity toolCall registration)
    : ∃ code message,
        Refused libraries registry identity toolCall code
        ∧ processCall libraries registry executor identity world toolCall
          = .ok (errorResult toolCall.callId code message) := by
  have decision :=
    @processCallNoting_decision libraries registry identity executor world toolCall
  rw [← processCallNoting_answer]
  generalize processCallNoting libraries registry executor identity world toolCall = noted
    at decision ⊢
  cases decision with
  | dispatched permitted => exact absurd ⟨_, permitted⟩ unpermitted
  | refused message refused => exact ⟨_, message, refused, rfl⟩

-----------------------------------------------------------------------------------------
-- The loop
-----------------------------------------------------------------------------------------

/-- The notes do not change the answers, by induction on the calls. -/
theorem processNoting_answers (worlds : Nat → ToolWorld) (toolCalls : List ToolCall)
    : (processNoting libraries registry executor identity worlds toolCalls).2
      = process libraries registry executor identity worlds toolCalls := by
  induction toolCalls generalizing worlds with
  | nil => rfl
  | cons toolCall rest ih =>
      have head := @processCallNoting_answer libraries registry identity executor (worlds 0)
        toolCall
      have tail := ih fun i => worlds (i + 1)
      unfold processNoting process
      rw [← head, ← tail]
      generalize processCallNoting libraries registry executor identity (worlds 0) toolCall
        = first
      generalize processNoting libraries registry executor identity (fun i => worlds (i + 1))
        rest = others
      obtain ⟨handed, answer⟩ := first
      obtain ⟨notes, answers⟩ := others
      cases answer <;> cases answers <;> rfl

/-- A loop whose first call fails ends there. -/
theorem processNoting_cons_error {worlds : Nat → ToolWorld} {toolCall : ToolCall}
    {rest : List ToolCall} {failure : Failure}
    (failed
      : processCall libraries registry executor identity (worlds 0) toolCall
        = .error failure)
    : (processNoting libraries registry executor identity worlds (toolCall :: rest)).1
      = [(processCallNoting libraries registry executor identity (worlds 0) toolCall).1] := by
  rw [← processCallNoting_answer] at failed
  rw [processNoting]
  split
  next handed other noted => rw [noted]
  next handed result noted =>
    rw [noted] at failed
    contradiction

/-- A loop whose first call is answered goes on. -/
theorem processNoting_cons_ok {worlds : Nat → ToolWorld} {toolCall : ToolCall}
    {rest : List ToolCall} {result : ToolResult}
    (answered
      : processCall libraries registry executor identity (worlds 0) toolCall = .ok result)
    : (processNoting libraries registry executor identity worlds (toolCall :: rest)).1
      = (processCallNoting libraries registry executor identity (worlds 0) toolCall).1
        :: (processNoting libraries registry executor identity (fun i => worlds (i + 1))
            rest).1 := by
  rw [← processCallNoting_answer] at answered
  rw [processNoting]
  split
  next handed failure noted =>
    rw [noted] at answered
    contradiction
  next handed other noted =>
    rw [noted]
    split
    next notes failure rest => rw [rest]
    next notes results rest => rw [rest]

/-- The note at a position is that of the call there, by induction on the calls. -/
theorem processNoting_note {worlds : Nat → ToolWorld} {toolCalls : List ToolCall} {i : Nat}
    {toolCall : ToolCall} {note : Bool} (found : toolCalls[i]? = some toolCall)
    (noted
      : (processNoting libraries registry executor identity worlds toolCalls).1[i]?
        = some note)
    : (processCallNoting libraries registry executor identity (worlds i) toolCall).1
      = note := by
  induction toolCalls generalizing worlds i with
  | nil => simp at found
  | cons first rest ih =>
      cases own : processCall libraries registry executor identity (worlds 0) first with
      | error failure =>
          rw [processNoting_cons_error own] at noted
          cases i with
          | zero =>
              obtain rfl := Option.some.inj found
              exact Option.some.inj noted
          | succ i => simp at noted
      | ok result =>
          rw [processNoting_cons_ok own] at noted
          cases i with
          | zero =>
              obtain rfl := Option.some.inj found
              exact Option.some.inj noted
          | succ i =>
              have found' : rest[i]? = some toolCall := found
              exact @ih (fun i => worlds (i + 1)) i found' noted

/-- A loop that answers has come to every call, by induction on the calls: the notes are those
of the calls and the results are those of the calls.
-/
theorem process_each {worlds : Nat → ToolWorld} {toolCalls : List ToolCall}
    {results : List ToolResult}
    (answered : process libraries registry executor identity worlds toolCalls = .ok results)
    {i : Nat} {toolCall : ToolCall} (found : toolCalls[i]? = some toolCall)
    : (processNoting libraries registry executor identity worlds toolCalls).1[i]?
        = some
            (processCallNoting libraries registry executor identity (worlds i) toolCall).1
      ∧ ∃ result,
          processCall libraries registry executor identity (worlds i) toolCall = .ok result
          ∧ results[i]? = some result := by
  induction toolCalls generalizing worlds results i with
  | nil => simp at found
  | cons first rest ih =>
      unfold process at answered
      split at answered
      case h_1 => contradiction
      next result head =>
        split at answered
        case h_1 => contradiction
        next others tail =>
          obtain rfl := Except.ok.inj answered
          rw [processNoting_cons_ok head]
          cases i with
          | zero =>
              obtain rfl := Option.some.inj found
              exact ⟨rfl, result, head, rfl⟩
          | succ i => exact ih tail found

theorem process_single_ok {worlds : Nat → ToolWorld} {toolCall : ToolCall}
    {result : ToolResult}
    (answered
      : processCall libraries registry executor identity (worlds 0) toolCall = .ok result)
    : process libraries registry executor identity worlds [toolCall] = .ok [result] := by
  unfold process process
  rw [answered]

/-- A loop of one call answers as the call does. -/
theorem process_single (worlds : Nat → ToolWorld) (toolCall : ToolCall)
    : (process libraries registry executor identity worlds [toolCall]).map (·[0]?)
        = (processCall libraries registry executor identity (worlds 0) toolCall).map some
      ∧ (processNoting libraries registry executor identity worlds [toolCall]).1
        = [(processCallNoting libraries registry executor identity (worlds 0)
            toolCall).1] := by
  cases own : processCall libraries registry executor identity (worlds 0) toolCall with
  | error failure =>
      refine ⟨?_, processNoting_cons_error own⟩
      unfold process
      rw [own]
      rfl
  | ok result =>
      refine ⟨?_, processNoting_cons_ok own⟩
      rw [process_single_ok own]
      rfl

/-- When all calls are answered, each is dispatched or refused by itself. -/
theorem dispatchesExactly_of_answers {worlds : Nat → ToolWorld} {toolCalls : List ToolCall}
    {results : List ToolResult}
    (answered : process libraries registry executor identity worlds toolCalls = .ok results)
    : DispatchesExactly libraries registry identity executor worlds toolCalls := by
  refine {
    handed := ?_
    refused := ?_
    independent := ?_
  }
  · intro i toolCall found
    obtain ⟨noted, _⟩ := process_each answered found
    rw [noted, Option.some.injEq]
    exact processCallNoting_handed
  · intro i toolCall found unpermitted
    obtain ⟨_, result, own, kept⟩ := process_each answered found
    obtain ⟨code, message, refused, answer⟩ := @processCall_refused libraries registry identity
      executor toolCall (worlds i) unpermitted
    obtain rfl := Except.ok.inj (answer.symm.trans own)
    exact ⟨code, message, results, refused, answered, kept⟩
  · intro i toolCall found
    obtain ⟨_, result, own, kept⟩ := process_each answered found
    rw [(process_single _ toolCall).1, answered, own]
    exact congrArg Except.ok kept

/-- A loop of one call dispatches exactly, even when it panics: only a permitted call does. -/
theorem dispatchesExactly_single (worlds : Nat → ToolWorld) (toolCall : ToolCall)
    : DispatchesExactly libraries registry identity executor worlds [toolCall] := by
  obtain ⟨answer, noted⟩ := @process_single libraries registry identity executor worlds toolCall
  have only {i : Nat} {other : ToolCall} (found : [toolCall][i]? = some other)
      : i = 0 ∧ other = toolCall := by
    cases i with
    | zero => exact ⟨rfl, (Option.some.inj found).symm⟩
    | succ i => simp at found
  refine {
    handed := ?_
    refused := ?_
    independent := ?_
  }
  · intro i other found
    obtain ⟨rfl, rfl⟩ := only found
    rw [noted]
    exact Option.some_inj.trans processCallNoting_handed
  · intro i other found unpermitted
    obtain ⟨rfl, rfl⟩ := only found
    obtain ⟨code, message, refused, own⟩ := @processCall_refused libraries registry identity
      executor other (worlds 0) unpermitted
    exact ⟨code, message, [errorResult other.callId code message], refused,
      process_single_ok own, rfl⟩
  · intro i other found
    obtain ⟨rfl, rfl⟩ := only found
    rw [answer, (process_single _ other).1]

/-- When the loop of several calls panics, one of them is not treated as it is alone: if each
panics alone, then the second is permitted, but the loop ends before it.
-/
theorem not_dispatchesExactly {worlds : Nat → ToolWorld} {first second : ToolCall}
    {rest : List ToolCall} {failure : Failure}
    (failed
      : process libraries registry executor identity worlds (first :: second :: rest)
        = .error failure)
    : ¬DispatchesExactly libraries registry identity executor worlds
        (first :: second :: rest) := by
  intro dispatches
  have alone {i : Nat} {toolCall : ToolCall}
      (found : (first :: second :: rest)[i]? = some toolCall)
      : processCall libraries registry executor identity (worlds i) toolCall
        = .error failure := by
    have same := dispatches.independent i toolCall found
    rw [(process_single _ toolCall).1, failed] at same
    cases own : processCall libraries registry executor identity (worlds i) toolCall with
    | error other =>
        rw [own] at same
        exact congrArg _ (Except.error.inj same).symm
    | ok result =>
        rw [own] at same
        contradiction
  have unhanded
      : (processNoting libraries registry executor identity worlds
            (first :: second :: rest)).1[1]?
        ≠ some true := by
    rw [processNoting_cons_error (@alone 0 first rfl)]
    simp
  have unpermitted := mt (dispatches.handed 1 second rfl).mpr unhanded
  obtain ⟨code, message, _, own⟩ := @processCall_refused libraries registry identity executor
    second (worlds 1) unpermitted
  rw [@alone 1 second rfl] at own
  contradiction

end Dispatch

/-- The interceptor hands exactly the permitted calls to the executor, refuses the others by
the first check they fail and treats each call as if it were alone, exactly when there is at
most one call or no result is cut inside a character. A wider identity never gets a call refused
that the executor got: the loop hands it on too, or ends before it comes to it.
-/
theorem process_dispatchesExactly_iff (libraries : ToolLibraries) (registry : ToolRegistry)
    (executor : ToolExecutor) (identity : Option Identity) (worlds : Nat → ToolWorld)
    (toolCalls : List ToolCall)
    : (DispatchesExactly libraries registry identity executor worlds toolCalls
        ↔ toolCalls.length ≤ 1
          ∨ ∀ i toolCall,
              toolCalls[i]? = some toolCall
              → CallCutsCleanly libraries registry executor identity (worlds i) toolCall)
      ∧ ∀ wider (i : Nat) toolCall,
          Widens wider identity
          → toolCalls[i]? = some toolCall
          → (processNoting libraries registry executor identity worlds toolCalls).1[i]?
            = some true
          → (processNoting libraries registry executor wider worlds toolCalls).1[i]?
              ≠ some false
            ∧ ∀ code, ¬Refused libraries registry wider toolCall code := by
  refine ⟨?_, ?_⟩
  · constructor
    · intro dispatches
      rcases Nat.lt_or_ge 1 toolCalls.length with several | single
      · refine Or.inr (process_ok_iff.mp ?_)
        cases answered : process libraries registry executor identity worlds toolCalls with
        | ok results => exact ⟨results, rfl⟩
        | error failure =>
            obtain ⟨first, second, rest, rfl⟩
                : ∃ first second rest, toolCalls = first :: second :: rest := by
              match toolCalls, several with
              | first :: second :: rest, _ => exact ⟨first, second, rest, rfl⟩
            exact (not_dispatchesExactly answered dispatches).elim
      · exact Or.inl single
    · intro condition
      rcases condition with single | clean
      · match toolCalls, single with
        | [], _ => exact dispatchesExactly_of_answers rfl
        | [toolCall], _ => exact dispatchesExactly_single worlds toolCall
      · obtain ⟨results, answered⟩ := process_ok_iff.mpr clean
        exact dispatchesExactly_of_answers answered
  · intro wider i toolCall widens found handed
    obtain ⟨registration, permitted⟩ :=
      processCallNoting_handed.mp (processNoting_note found handed)
    have still : ∃ registration, Permitted libraries registry wider toolCall registration :=
      ⟨registration, permitted.registered, permitted.authorized.widen widens,
        permitted.accepts⟩
    refine ⟨?_, fun _ refused => refused.not_permitted still⟩
    intro kept
    have note := processNoting_note found kept
    exact Bool.false_ne_true (note.symm.trans (processCallNoting_handed.mpr still))

/-- Echoing the accented message before another echo: the interceptor panics before it comes
to the second call, which is permitted.
-/
theorem process_dispatchesExactly_lost
    : ¬DispatchesExactly (echoLibraries accentedMessage) .builtin none (.new [])
        (fun _ => standingToolWorld)
        [echoCall accentedMessage, echoCall accentedMessage] := by
  cases answered : process (echoLibraries accentedMessage) .builtin (.new []) none
      (fun _ => standingToolWorld)
      [echoCall accentedMessage, echoCall accentedMessage] with
  | ok results =>
      exact (accentedMessage_uncut
        (process_ok_iff.mp ⟨results, answered⟩ 0 (echoCall accentedMessage) rfl)).elim
  | error failure => exact not_dispatchesExactly answered

end Intellisphere.Sphere
