import Intellisphere.Sphere.Tools.Interceptor

/-! Whether the interceptor always answers. The spawned task contains the panics of a
handler; the cut of a long result is made outside it, at a byte that might lie inside a
character.
-/

namespace Intellisphere.Sphere

open Intellisphere.Foundation

section Containment

variable (libraries : ToolLibraries) (registry : ToolRegistry) (executor : ToolExecutor)
  (identity : Option Identity)

/-- The call is registered, authorised and valid, so its handler is run. -/
structure RunsHandler (toolCall : ToolCall) (registration : ToolRegistration) : Prop where
  registered : registry.get toolCall.name = some registration
  authorised : checkAuthorization registration identity = .ok ()
  valid
    : validateParams libraries toolCall.argumentsJson registration.inputSchemaJson = .ok ()

/-- The text is within the size limit, or the limit falls between two of its characters. -/
def CutsCleanly (text : String) : Prop :=
  text.utf8ByteSize ≤ maxResultSize ∨ isCharBoundary text.toList maxResultSize = true

/-- Whatever handler the call runs to an end, its result cuts cleanly. -/
def CallCutsCleanly (world : ToolWorld) (toolCall : ToolCall) : Prop :=
  ∀ registration,
    RunsHandler libraries registry identity toolCall registration
    → world.panics = false
    → CutsCleanly (executor.execute libraries world toolCall registration).resultJson

/-- The interceptor returns one result per call, in call order, each with its call's id. -/
def AlwaysAnswers (worlds : Nat → ToolWorld) (toolCalls : List ToolCall) : Prop :=
  ∃ results,
    process libraries registry executor identity worlds toolCalls = .ok results
    ∧ results.map ToolResult.callId = toolCalls.map ToolCall.callId

variable {libraries registry executor identity}

/-- A contained execution fails exactly when its result does not cut cleanly. -/
theorem executeWithContainment_ok_iff {world : ToolWorld} {toolCall : ToolCall}
    {registration : ToolRegistration}
    : (∃ result,
        executeWithContainment libraries executor world toolCall registration = .ok result)
      ↔ (world.panics = false
          → CutsCleanly
              (executor.execute libraries world toolCall registration).resultJson) := by
  unfold executeWithContainment CutsCleanly
  cases world.panics with
  | true => simp
  | false =>
      simp only [Bool.false_eq_true, if_false, true_implies, gt_iff_lt]
      by_cases long : maxResultSize
          < (executor.execute libraries world toolCall registration).resultJson.utf8ByteSize
      · rw [if_pos long, ← sliceTo_isSome]
        cases sliceTo (executor.execute libraries world toolCall registration
            ).resultJson.toList maxResultSize with
        | none => simp [long]
        | some kept => simp
      · rw [if_neg long]
        exact iff_of_true ⟨_, rfl⟩ (Or.inl (Nat.le_of_not_lt long))

/-- One call is answered exactly when its handler's result cuts cleanly, if one is run. Case
analysis on the step that decides the call.
-/
theorem processCall_ok_iff {world : ToolWorld} {toolCall : ToolCall}
    : (∃ result, processCall libraries registry executor identity world toolCall = .ok result)
      ↔ CallCutsCleanly libraries registry executor identity world toolCall := by
  unfold processCall CallCutsCleanly
  cases registered : registry.get toolCall.name with
  | none =>
      refine iff_of_true ⟨_, rfl⟩ ?_
      intro registration runs
      rw [runs.registered] at registered
      contradiction
  | some registration =>
      cases authorised : checkAuthorization registration identity with
      | error message =>
          refine iff_of_true (by simp [authorised]) ?_
          intro other runs
          obtain rfl := Option.some.inj (registered.symm.trans runs.registered)
          rw [runs.authorised] at authorised
          contradiction
      | ok =>
          cases valid : validateParams libraries toolCall.argumentsJson
              registration.inputSchemaJson with
          | error message =>
              refine iff_of_true (by simp [authorised, valid]) ?_
              intro other runs
              obtain rfl := Option.some.inj (registered.symm.trans runs.registered)
              rw [runs.valid] at valid
              contradiction
          | ok =>
              simp only [authorised, valid]
              rw [executeWithContainment_ok_iff]
              refine ⟨?_, ?_⟩
              · intro clean other runs
                obtain rfl := Option.some.inj (registered.symm.trans runs.registered)
                exact clean
              · intro clean
                exact clean registration ⟨registered, authorised, valid⟩

/-- All calls are answered exactly when each of them is, by induction on the calls. -/
theorem process_ok_iff {worlds : Nat → ToolWorld} {toolCalls : List ToolCall}
    : (∃ results, process libraries registry executor identity worlds toolCalls = .ok results)
      ↔ ∀ i toolCall,
          toolCalls[i]? = some toolCall
          → CallCutsCleanly libraries registry executor identity (worlds i) toolCall := by
  induction toolCalls generalizing worlds with
  | nil => exact iff_of_true ⟨_, rfl⟩ (fun i toolCall found => by simp at found)
  | cons toolCall rest ih =>
      have split
          : (∃ results,
              process libraries registry executor identity worlds (toolCall :: rest)
                = .ok results)
            ↔ (∃ result,
                processCall libraries registry executor identity (worlds 0) toolCall
                  = .ok result)
              ∧ ∃ results,
                  process libraries registry executor identity (fun i => worlds (i + 1)) rest
                    = .ok results := by
        simp only [process]
        cases processCall libraries registry executor identity (worlds 0) toolCall with
        | error failure => simp
        | ok result =>
            cases process libraries registry executor identity (fun i => worlds (i + 1))
                rest with
            | error failure => simp
            | ok results => simp
      rw [split, processCall_ok_iff, ih]
      refine ⟨?_, ?_⟩
      · intro both i other found
        cases i with
        | zero =>
            obtain rfl := Option.some.inj found
            exact both.1
        | succ i => exact both.2 i other found
      · intro all
        exact ⟨all 0 toolCall rfl, fun i other found => all (i + 1) other found⟩

end Containment

/-- The interceptor answers every call, in order and under its own id, exactly when no
handler that runs to an end returns more than the size limit with the limit inside one of
its characters.
-/
theorem process_answers_iff (libraries : ToolLibraries) (registry : ToolRegistry)
    (executor : ToolExecutor) (identity : Option Identity) (worlds : Nat → ToolWorld)
    (toolCalls : List ToolCall)
    : AlwaysAnswers libraries registry executor identity worlds toolCalls
      ↔ ∀ i toolCall,
          toolCalls[i]? = some toolCall
          → CallCutsCleanly libraries registry executor identity (worlds i) toolCall := by
  rw [← process_ok_iff]
  refine ⟨?_, ?_⟩
  · intro answers
    obtain ⟨results, answered, _⟩ := answers
    exact ⟨results, answered⟩
  · intro answers
    obtain ⟨results, answered⟩ := answers
    exact ⟨results, answered, process_callIds answered⟩

-----------------------------------------------------------------------------------------
-- An echo whose result is cut inside a character
-----------------------------------------------------------------------------------------

/-- A call that has a message echoed. -/
def echoCall (message : String) : ToolCall :=
  {
    callId := "c-1"
    name := "intellisphere_echo"
    argumentsJson := jsonObject [("message", jsonString message)]
  }

/-- The input schema of the echo as a JSON value. -/
def echoSchema : Json :=
  .obj
    [
      ("type", .str "object"),
      ("properties",
        .obj
          [("message",
            .obj
              [("type", .str "string"), ("description", .str "The message to echo back")])]),
      ("required", .arr [.str "message"])
    ]

/-- Libraries that know the texts of such a call: they parse its arguments and the schema,
and find no error in the arguments.
-/
def echoLibraries (message : String) : ToolLibraries where
  parseJson text :=
    if text = (echoCall message).argumentsJson then
      .ok (.obj [("message", .str message)])
    else .ok echoSchema
  validatorFor _ := .ok (fun _ => [])
  parseUrl _ := .error "relative URL without a base"

/-- A world in which nothing panics and the clock stands. -/
def standingToolWorld : ToolWorld :=
  {
    reply := .silent
    timeoutMessage := "timed out"
    now := "2025-01-01T00:00:00Z"
    panics := false
  }

/-- An echo repeats its message, escaped, after nine bytes. -/
theorem executeEcho_text (message : String) (world : ToolWorld)
    : (executeEcho (echoLibraries message) world (echoCall message)).resultJson.toList
      = "\x7b\"echo\":\"".toList
        ++ (message.toList.flatMap escapeJsonChar
          ++ '"' :: ',' :: (jsonString "timestamp").toList
          ++ ':' :: (jsonString world.now).toList
          ++ ['\x7d']) := by
  have parsed : (echoLibraries message).parseJson (echoCall message).argumentsJson
      = .ok (.obj [("message", .str message)]) := by
    simp [echoLibraries]
  have name : (jsonString "echo").toList = "\"echo\"".toList := by decide
  have found : ((Json.obj [("message", .str message)]).get? "message").bind Json.asStr
      = some message := by
    simp [Json.get?, Json.asStr]
  unfold executeEcho
  simp only [parsed, Except.toOption, Option.getD_some, found, jsonObject_pair_toList, name,
    jsonString_toList message]
  simp

/-- The echo of enough two-byte characters is longer than the limit, which lies inside one
of them.
-/
theorem executeEcho_uncut {message : String} {c : Char} {count : Nat} (world : ToolWorld)
    (repeated : message.toList = List.replicate count c) (plain : escapeJsonChar c = [c])
    (two : c.utf8Size = 2) (long : 524283 < count)
    : ¬CutsCleanly
        (executeEcho (echoLibraries message) world (echoCall message)).resultJson := by
  have text := executeEcho_text message world
  rw [repeated, flatMap_escapeJsonChar_replicate plain, List.append_assoc, List.append_assoc]
    at text
  have opening : byteLength "\x7b\"echo\":\"".toList = 9 := by decide
  have limit : maxResultSize = byteLength "\x7b\"echo\":\"".toList + (2 * 524283 + 1) := by
    rw [opening, maxResultSize]
  intro clean
  rcases clean with short | boundary
  · rw [utf8ByteSize_eq, text, byteLength_append, byteLength_append, byteLength_replicate,
      two, limit, opening] at short
    omega
  · rw [text, limit, isCharBoundary_append, isCharBoundary_replicate two long] at boundary
    exact Bool.false_ne_true boundary

/-- The handler of an echo call runs. -/
theorem echoCall_runs (message : String)
    : RunsHandler (echoLibraries message) .builtin none (echoCall message)
        echoRegistration where
  registered := rfl
  authorised := rfl
  valid := by
    have parses (text : String)
        : ∃ json, (echoLibraries message).parseJson text = .ok json := by
      simp only [echoLibraries]
      split
      · exact ⟨_, rfl⟩
      · exact ⟨_, rfl⟩
    obtain ⟨params, readParams⟩ := parses (echoCall message).argumentsJson
    obtain ⟨schema, readSchema⟩ := parses echoRegistration.inputSchemaJson
    unfold validateParams
    rw [readParams, readSchema]
    rfl

/-- An accented letter, over and over: more than a mebibyte. -/
def accentedMessage : String :=
  String.ofList (List.replicate 600000 'é')

/-- Its echo is cut inside a character. -/
theorem accentedMessage_uncut
    : ¬CallCutsCleanly (echoLibraries accentedMessage) .builtin (.new []) none
        standingToolWorld (echoCall accentedMessage) := by
  intro clean
  have repeated : accentedMessage.toList = List.replicate 600000 'é' := by
    unfold accentedMessage
    exact String.toList_ofList
  exact executeEcho_uncut standingToolWorld repeated (by decide) (by decide) (by omega)
    (clean echoRegistration (echoCall_runs accentedMessage) rfl)

/-- Echoing the accented message makes the interceptor panic. -/
theorem process_panics
    : RunsHandler (echoLibraries accentedMessage) .builtin none (echoCall accentedMessage)
        echoRegistration
      ∧ ¬AlwaysAnswers (echoLibraries accentedMessage) .builtin (.new []) none
          (fun _ => standingToolWorld) [echoCall accentedMessage] := by
  refine ⟨echoCall_runs accentedMessage, ?_⟩
  intro answers
  obtain ⟨results, answered, _⟩ := answers
  exact accentedMessage_uncut
    (process_ok_iff.mp ⟨results, answered⟩ 0 (echoCall accentedMessage) rfl)

end Intellisphere.Sphere
