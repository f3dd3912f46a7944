import Intellisphere.Sphere.Tools.Executor

/-! Which timeout applies to an HTTP tool. Each registration has its own, and the client that
sends all requests has a fixed one inside it.
-/

namespace Intellisphere.Sphere

open Intellisphere.Foundation

/-- The call of an HTTP tool of the Sphere zone with an allowed URL and arguments that fit:
its handler answers with a body that fits, after some milliseconds.
-/
structure HandlerAnswers (libraries : ToolLibraries) (allowedDomains : List String)
    (world : ToolWorld) (toolCall : ToolCall) (registration : ToolRegistration)
    (afterMs : Nat) (body : String)
    : Prop where
  zone : registration.zone = .sphere
  http : toolCall.name ≠ "intellisphere_echo"
  allowed
    : ∃ url,
        registration.handlerUrl = some url
        ∧ (ToolExecutor.new allowedDomains).scopedClient.validateUrl libraries url = .ok ()
  arguments : toolCall.argumentsJson.utf8ByteSize ≤ 1024 * 1024
  reply : world.reply = .body afterMs body
  fits : body.utf8ByteSize ≤ 1024 * 1024

/-- Before the tool's timeout its body is the result, after it the timeout is. -/
def KeepsTimeout (toolCall : ToolCall) (timeoutMs afterMs : Nat) (body : String)
    (result : ToolResult)
    : Prop :=
  (afterMs < timeoutMs
    → result = { callId := toolCall.callId, resultJson := body, isError := false })
  ∧ (timeoutMs < afterMs
    → result
      = errorResult toolCall.callId "EXECUTION_TIMEOUT" "Tool handler exceeded timeout")

/-- The handler answers within the client's five seconds, or the tool's timeout comes before
them or is seen before them, or the handler answers just at its timeout.
-/
def ClientTimeoutUnseen (world : ToolWorld) (timeoutMs afterMs : Nat) : Prop :=
  afterMs ≤ 5000
  ∨ timeoutMs < 5000
  ∨ (timeoutMs = 5000 ∧ world.requestFirst = false)
  ∨ afterMs = timeoutMs

section Timeouts

variable {libraries : ToolLibraries} {allowedDomains : List String} {world : ToolWorld}
  {toolCall : ToolCall} {registration : ToolRegistration} {afterMs : Nat} {body : String}

/-- The client gets the body within its own five seconds and fails after them. -/
theorem HandlerAnswers.post {url : String}
    (answers
      : HandlerAnswers libraries allowedDomains world toolCall registration afterMs body)
    (handler : registration.handlerUrl = some url)
    : (ToolExecutor.new allowedDomains).scopedClient.post libraries world url
        toolCall.argumentsJson
      = if afterMs ≤ 5000 then (afterMs, .ok body)
        else (5000, .error (.requestFailed world.timeoutMessage)) := by
  obtain ⟨other, same, valid⟩ := answers.allowed
  obtain rfl := Option.some.inj (handler.symm.trans same)
  unfold ScopedHttpClient.post
  rw [valid]
  have small : ¬toolCall.argumentsJson.utf8ByteSize > 1024 * 1024 :=
    Nat.not_lt.mpr answers.arguments
  have short : ¬body.utf8ByteSize > 1024 * 1024 := Nat.not_lt.mpr answers.fits
  unfold ScopedHttpClient.send ToolExecutor.new
  simp only [answers.reply, small, short, if_false]

/-- The result of the call, by the two timeouts. -/
theorem HandlerAnswers.execute
    (answers
      : HandlerAnswers libraries allowedDomains world toolCall registration afterMs body)
    : (ToolExecutor.new allowedDomains).execute libraries world toolCall registration
      = if min afterMs 5000 < registration.timeoutMs.toNat
            || min afterMs 5000 = registration.timeoutMs.toNat && world.requestFirst then
          if afterMs ≤ 5000 then
            { callId := toolCall.callId, resultJson := body, isError := false }
          else
            errorResult toolCall.callId "EXECUTION_ERROR"
              ("Tool handler request failed: "
                ++ (ScopedClientError.requestFailed world.timeoutMessage).display)
        else
          errorResult toolCall.callId "EXECUTION_TIMEOUT" "Tool handler exceeded timeout" := by
  obtain ⟨url, handler, _⟩ := answers.allowed
  unfold ToolExecutor.execute ToolExecutor.executeSphereTool
  simp only [answers.zone, answers.http, if_false, handler, answers.post handler]
  rcases Nat.lt_or_ge 5000 afterMs with late | early
  · rw [if_neg (Nat.not_le.mpr late), Nat.min_eq_right late.le, if_neg (Nat.not_le.mpr late)]
  · rw [if_pos early, Nat.min_eq_left early, if_pos early]

/-- An error result opens with its code. -/
theorem errorResult_opens (callId code message : String)
    : ∃ rest,
        (errorResult callId code message).resultJson.toList
          = "\x7b\"error\":\"".toList ++ (code.toList.flatMap escapeJsonChar ++ rest) := by
  have name : (jsonString "error").toList = "\"error\"".toList := by decide
  unfold errorResult
  rw [jsonObject_pair_toList, name, jsonString_toList code]
  refine
    ⟨'"' :: ',' :: (jsonString "message").toList ++ ':' :: (jsonString message).toList
      ++ ['\x7d'], ?_⟩
  simp

/-- A failed request is not answered with a timeout: the codes differ in a letter. -/
theorem errorResult_failed_ne_timeout (callId message message' : String)
    : errorResult callId "EXECUTION_ERROR" message
      ≠ errorResult callId "EXECUTION_TIMEOUT" message' := by
  intro same
  obtain ⟨rest, failed⟩ := errorResult_opens callId "EXECUTION_ERROR" message
  obtain ⟨rest', timedOut⟩ := errorResult_opens callId "EXECUTION_TIMEOUT" message'
  have plain : "EXECUTION_ERROR".toList.flatMap escapeJsonChar = "EXECUTION_ERROR".toList := by
    decide
  have plain'
      : "EXECUTION_TIMEOUT".toList.flatMap escapeJsonChar = "EXECUTION_TIMEOUT".toList := by
    decide
  rw [same, timedOut, plain, plain'] at failed
  have letters := congrArg (fun text => text[10]?) (List.append_cancel_left failed)
  simp only [List.getElem?_append_left (by decide : 10 < "EXECUTION_TIMEOUT".toList.length),
    List.getElem?_append_left (by decide : 10 < "EXECUTION_ERROR".toList.length)] at letters
  exact absurd letters (by decide)

/-- When the handler answers after the five seconds, the client's timeout is seen unless the
tool's comes first, and makes no difference at the tool's timeout.
-/
theorem clientTimeoutUnseen_iff {timeoutMs : Nat} (late : 5000 < afterMs)
    : ClientTimeoutUnseen world timeoutMs afterMs
      ↔ afterMs = timeoutMs
        ∨ ¬(5000 < timeoutMs ∨ 5000 = timeoutMs ∧ world.requestFirst = true) := by
  unfold ClientTimeoutUnseen
  cases world.requestFirst with
  | true =>
      simp only [Bool.true_eq_false, and_true, and_false, false_or]
      omega
  | false =>
      simp only [Bool.false_eq_true, and_true, and_false, or_false]
      omega

/-- A handler that answers is answered by the tool's own timeout exactly when the client's
fixed timeout of five seconds is not seen.
-/
theorem execute_keepsTimeout_iff
    (answers
      : HandlerAnswers libraries allowedDomains world toolCall registration afterMs body)
    : KeepsTimeout toolCall registration.timeoutMs.toNat afterMs body
        ((ToolExecutor.new allowedDomains).execute libraries world toolCall registration)
      ↔ ClientTimeoutUnseen world registration.timeoutMs.toNat afterMs := by
  rw [answers.execute]
  generalize registration.timeoutMs.toNat = timeoutMs
  rcases Nat.lt_or_ge 5000 afterMs with late | early
  · have failed (result : ToolResult) (isError : result.isError = true)
        : result ≠ { callId := toolCall.callId, resultJson := body, isError := false } := by
      intro same
      rw [same] at isError
      contradiction
    rw [clientTimeoutUnseen_iff late, Nat.min_eq_right late.le, if_neg (Nat.not_le.mpr late)]
    by_cases seen : 5000 < timeoutMs ∨ 5000 = timeoutMs ∧ world.requestFirst = true
    · rw [if_pos (by simpa using seen)]
      constructor
      · intro keeps
        rcases Nat.lt_trichotomy afterMs timeoutMs with before | same | after
        · exact (failed _ rfl (keeps.1 before)).elim
        · exact Or.inl same
        · exact (errorResult_failed_ne_timeout _ _ _ (keeps.2 after)).elim
      · intro unseen
        have same : afterMs = timeoutMs := unseen.resolve_right (not_not.mpr seen)
        exact ⟨fun before => (before.ne same).elim, fun after => (after.ne' same).elim⟩
    · rw [if_neg (by simpa using seen)]
      have within : timeoutMs ≤ 5000 := Nat.le_of_not_lt (not_or.mp seen).1
      refine iff_of_true ⟨fun before => ?_, fun _ => rfl⟩ (Or.inr seen)
      exact (within.not_gt (late.trans before)).elim
  · refine iff_of_true ?_ (Or.inl early)
    rw [Nat.min_eq_left early, if_pos early]
    refine ⟨?_, ?_⟩
    · intro inTime
      rw [decide_eq_true inTime, Bool.true_or, if_pos rfl]
    · intro expired
      rw [decide_eq_false expired.not_gt, decide_eq_false expired.ne', Bool.false_and,
        Bool.or_false, if_neg Bool.false_ne_true]

end Timeouts

/-- A tool with a handler at `tools.example.com` and a timeout. -/
def slowRegistration (timeoutMs : UInt64) : ToolRegistration :=
  {
    name := "report"
    description := "Build a report."
    inputSchemaJson := "\x7b\x7d"
    zone := .sphere
    handlerUrl := some "https://tools.example.com/report"
    timeoutMs
  }

def reportCall : ToolCall :=
  { callId := "c-1", name := "report", argumentsJson := "\x7b\x7d" }

/-- Libraries that parse the one URL. -/
def reportLibraries : ToolLibraries where
  parseJson _ := .ok (.obj [])
  validatorFor _ := .ok (fun _ => [])
  parseUrl _ := .ok ("https", some "tools.example.com")

/-- The handler answers after so many milliseconds. -/
def answeringWorld (afterMs : Nat) : ToolWorld :=
  {
    reply := .body afterMs "\x7b\x7d"
    timeoutMessage := "operation timed out"
    now := "2025-01-01T00:00:00Z"
    panics := false
  }

theorem report_answers (timeoutMs : UInt64) (afterMs : Nat)
    : HandlerAnswers reportLibraries ["tools.example.com"] (answeringWorld afterMs)
        reportCall (slowRegistration timeoutMs) afterMs "\x7b\x7d" where
  zone := rfl
  http := by decide
  allowed := ⟨_, rfl, by simp [ScopedHttpClient.validateUrl, reportLibraries, ToolExecutor.new]⟩
  arguments := by decide
  reply := rfl
  fits := by decide

/-- A tool with a timeout of a second, answered in two. -/
theorem execute_keepsTimeout_iff_report
    : (ToolExecutor.new ["tools.example.com"]).execute reportLibraries (answeringWorld 2000)
          reportCall (slowRegistration 1000)
        = errorResult "c-1" "EXECUTION_TIMEOUT" "Tool handler exceeded timeout" := by
  have unseen
      : ClientTimeoutUnseen (answeringWorld 2000) (slowRegistration 1000).timeoutMs.toNat
          2000 :=
    Or.inl (by decide)
  exact ((execute_keepsTimeout_iff (report_answers 1000 2000)).mpr unseen).2 (by decide)

/-- A tool with a timeout of half a minute, answered in ten seconds: the client has given up
by then.
-/
theorem execute_clientTimeout
    : HandlerAnswers reportLibraries ["tools.example.com"] (answeringWorld 10000) reportCall
        (slowRegistration 30000) 10000 "\x7b\x7d"
      ∧ ¬KeepsTimeout reportCall 30000 10000 "\x7b\x7d"
          ((ToolExecutor.new ["tools.example.com"]).execute reportLibraries
            (answeringWorld 10000) reportCall (slowRegistration 30000)) := by
  refine ⟨report_answers 30000 10000, ?_⟩
  intro keeps
  have error := congrArg ToolResult.isError (keeps.1 (by decide))
  rw [(report_answers 30000 10000).execute] at error
  contradiction

end Intellisphere.Sphere
