import Intellisphere.Core.Anthropic
import Intellisphere.Foundation.WrappingTotals
import Intellisphere.Sphere.Api.Transcript

/-! The usage a chat reports, from the counts of the provider through the conversion in Core to
the totals of the tool loop. Core narrows the counts to 32 bits and the loop adds them with
wrapping.
-/

namespace Intellisphere.Core

open Intellisphere.Foundation
open Intellisphere.Sphere

/-- The two counts of a usage. -/
inductive TokenKind where
  | input
  | output
  deriving DecidableEq, Repr

def MessagesUsage.tokens (usage : MessagesUsage) : TokenKind → Int64
  | .input => usage.inputTokens
  | .output => usage.outputTokens

/-- The count of one kind that a message to Sphere carries. -/
def usageTokens (usage : Usage) : TokenKind → Int32
  | .input => usage.inputTokens
  | .output => usage.outputTokens

/-- The count of one kind that a chat reports. -/
def reportedTokens (usage : UsageResponse) : TokenKind → Int32
  | .input => usage.inputTokens
  | .output => usage.outputTokens

/-- An answer of the provider, whose counts are not negative. -/
structure CountedResponse extends MessagesResponse where
  nonneg : ∀ kind, 0 ≤ (usage.tokens kind).toInt

/-- What Core answers a completion request with: a converted answer of the provider, or a
response without usage.
-/
inductive CoreAnswer where
  | converted (response : CountedResponse)
  | uncounted (response : CompletionResponse) (noUsage : response.usage = none)

def CoreAnswer.response : CoreAnswer → CompletionResponse
  | .converted response => convertFromAnthropicResponse response.toMessagesResponse
  | .uncounted response _ => response

/-- The count of the provider for a completion, if it was converted. -/
def CoreAnswer.count (kind : TokenKind) : CoreAnswer → Int
  | .converted response => (response.usage.tokens kind).toInt
  | .uncounted _ _ => 0

/-- A world in which Core gives these answers. -/
def answeringWorld (world : ServerWorld) (answers : Nat → Except String CoreAnswer)
    : ServerWorld :=
  { world with complete := fun iteration => (answers iteration).map CoreAnswer.response }

section Answers

variable (answers : Nat → Except String CoreAnswer)

/-- The count of the provider for the k-th completion. -/
def countAt (kind : TokenKind) (k : Nat) : Int :=
  match answers k with
  | .ok answer => answer.count kind
  | .error _ => 0

/-- The usage that the k-th response carries. -/
def usageAt (k : Nat) : Option Usage :=
  match answers k with
  | .ok answer => answer.response.usage
  | .error _ => none

/-- The totals of the loop before the k-th completion. -/
def runningUsage : Nat → UsageResponse
  | 0 => { inputTokens := 0, outputTokens := 0 }
  | k + 1 => (runningUsage k).add (usageAt answers k)

/-- The completions of a loop with these iterations left: one after the other until Core fails
or asks for no tools.
-/
def completions : Nat → Nat → Nat
  | 0, _ => 0
  | left + 1, iteration =>
      match answers iteration with
      | .error _ => 1
      | .ok answer =>
          if answer.response.wantsTools then completions left (iteration + 1) + 1 else 1

/-- The count of one kind that a usage adds to the totals. -/
def addedTokens (kind : TokenKind) : Option Usage → Int
  | none => 0
  | some usage => (usageTokens usage kind).toInt

/-- The usage of a chat is exact: its totals are those of the provider, and neither a conversion
nor an addition changed a count on the way.
-/
structure ExactUsage (kind : TokenKind) (n : Nat) (response : ChatResponse) : Prop where
  reported : (reportedTokens response.usage kind).toInt = total (countAt answers kind) n
  converted
    : ∀ k, k < n → addedTokens kind (usageAt answers k) = countAt answers kind k
  added
    : ∀ k,
        k < n
        → (reportedTokens (runningUsage answers (k + 1)) kind).toInt
          = (reportedTokens (runningUsage answers k) kind).toInt
            + addedTokens kind (usageAt answers k)

variable {answers} {kind : TokenKind} {k n : Nat}

theorem countAt_nonneg : 0 ≤ countAt answers kind k := by
  unfold countAt
  split
  next answer _ =>
    cases answer with
    | converted response => exact response.nonneg kind
    | uncounted response noUsage => exact Int.le_refl 0
  · exact Int.le_refl 0

/-- What a response adds to the totals is the count of the provider, narrowed to 32 bits. -/
theorem addedTokens_usageAt
    : addedTokens kind (usageAt answers k) = (countAt answers kind k).bmod 4294967296 := by
  unfold usageAt countAt
  split
  next answer _ =>
    cases answer with
    | converted response =>
        simp only [CoreAnswer.response, CoreAnswer.count, convertFrom_usage, addedTokens]
        cases kind with
        | input => exact Int64.toInt_toInt32 _
        | output => exact Int64.toInt_toInt32 _
    | uncounted response noUsage =>
        simp [CoreAnswer.response, CoreAnswer.count, noUsage, addedTokens]
  · simp [addedTokens]

/-- One addition to a total wraps at 32 bits. -/
theorem reportedTokens_add (usage : UsageResponse) (added : Option Usage)
    : (reportedTokens (usage.add added) kind).toInt
      = ((reportedTokens usage kind).toInt + addedTokens kind added).bmod 4294967296 := by
  cases added with
  | none => simp [UsageResponse.add, addedTokens]
  | some added =>
      cases kind with
      | input => exact Int32.toInt_add _ _
      | output => exact Int32.toInt_add _ _

/-- The totals of the loop are wrapping totals of the counts. By induction on the completions.
-/
theorem reportedTokens_runningUsage (answers : Nat → Except String CoreAnswer)
    (kind : TokenKind) (k : Nat)
    : (reportedTokens (runningUsage answers k) kind).toInt
      = wrappingTotal 4294967296 (countAt answers kind) k := by
  induction k with
  | zero =>
      cases kind with
      | input => rfl
      | output => rfl
  | succ k ih =>
      rw [runningUsage, reportedTokens_add, ih, addedTokens_usageAt, wrappingTotal]

/-- Nothing wraps exactly if the total of the provider's counts is a 32-bit integer. -/
theorem exactTotal_countAt_iff
    : ExactTotal 4294967296 (countAt answers kind) n
      ↔ total (countAt answers kind) n ≤ 2147483647 := by
  have fits
      : ExactTotal (2 * 2147483648) (countAt answers kind) n
        ↔ total (countAt answers kind) n < (2147483648 : Nat) :=
    exactTotal_iff (fun _ => countAt_nonneg) (by decide)
  exact fits.trans (by omega)

/-- The usage of a chat with the totals of the loop is exact exactly if nothing wraps. -/
theorem exactUsage_iff {response : ChatResponse}
    (totals : response.usage = runningUsage answers n)
    : ExactUsage answers kind n response
      ↔ ExactTotal 4294967296 (countAt answers kind) n := by
  refine ⟨?_, ?_⟩
  · intro ⟨reported, converted, added⟩
    refine ⟨?_, ?_, ?_⟩
    · rw [← reportedTokens_runningUsage, ← totals, reported]
    · intro k before
      rw [← addedTokens_usageAt, converted k before]
    · intro k before
      rw [← reportedTokens_runningUsage, ← reportedTokens_runningUsage, added k before,
        addedTokens_usageAt]
  · intro ⟨result, narrowed, added⟩
    refine ⟨?_, ?_, ?_⟩
    · rw [totals, reportedTokens_runningUsage, result]
    · intro k before
      rw [addedTokens_usageAt, narrowed k before]
    · intro k before
      rw [reportedTokens_runningUsage, reportedTokens_runningUsage, added k before,
        addedTokens_usageAt]

end Answers

section Loop

variable {libraries : ToolLibraries} {state : AppState} {request : ChatRequest}
  {world : ServerWorld} {answers : Nat → Except String CoreAnswer}

/-- A response of Core is that of an answer. -/
theorem answeringWorld_ok {iteration : Nat} {response : CompletionResponse}
    (heard : (answeringWorld world answers).complete iteration = .ok response)
    : ∃ answer, answers iteration = .ok answer ∧ answer.response = response := by
  simp only [answeringWorld] at heard
  cases gives : answers iteration with
  | error message =>
      rw [gives] at heard
      contradiction
  | ok answer =>
      rw [gives] at heard
      exact ⟨answer, rfl, Except.ok.inj heard⟩

/-- The final response reports the totals it is given. -/
theorem finishChat_usage {context : PipelineContext} {completion : CompletionResponse}
    {usage : UsageResponse} {response : ChatResponse}
    (returns : state.finishChat context completion usage = .ok response)
    : response.usage = usage := by
  simp only [AppState.finishChat] at returns
  split at returns
  · contradiction
  · obtain rfl := Except.ok.inj returns
    rfl

/-- A loop that returns a response has done the completions it could, and it returns the totals
after them. By induction on the iterations left.
-/
theorem chatLoop_usage {context : PipelineContext} {left iteration : Nat}
    {messages : List Message} {response : ChatResponse}
    (returns
      : (chatLoop libraries state request (answeringWorld world answers) context left iteration
          messages (runningUsage answers iteration)).outcome
        = .ok response)
    : (chatLoop libraries state request (answeringWorld world answers) context left iteration
        messages (runningUsage answers iteration)).requests.length
        = completions answers left iteration
      ∧ response.usage
        = runningUsage answers (iteration + completions answers left iteration) := by
  induction left generalizing iteration messages with
  | zero =>
      obtain rfl := Except.ok.inj returns
      exact ⟨rfl, rfl⟩
  | succ left ih =>
      have step :=
        chatLoop_step libraries state request (answeringWorld world answers) context left
          iteration messages (runningUsage answers iteration)
      generalize chatLoop libraries state request (answeringWorld world answers) context
        (left + 1) iteration messages (runningUsage answers iteration) = run at step returns ⊢
      cases step with
      | failed heard => contradiction
      | panicked heard wants processed => contradiction
      | final heard finished =>
          obtain ⟨answer, gives, rfl⟩ := answeringWorld_ok heard
          simp only [HandlerRun.requests_after_complete, completions, gives, finished,
            Bool.false_eq_true, if_false]
          refine ⟨rfl, ?_⟩
          rw [runningUsage, usageAt, gives]
          exact finishChat_usage returns
      | round heard wants processed =>
          obtain ⟨answer, gives, rfl⟩ := answeringWorld_ok heard
          have next : (runningUsage answers iteration).add answer.response.usage
              = runningUsage answers (iteration + 1) := by
            rw [runningUsage, usageAt, gives]
          rw [next] at returns ⊢
          obtain ⟨sent, reported⟩ := ih returns
          simp only [HandlerRun.requests_after_complete, HandlerRun.requests_after_processTools,
            List.length_cons, sent, completions, gives, wants, if_true, true_and]
          rw [reported, Nat.add_assoc, Nat.add_comm 1]

end Loop

/-- For every chat that returns a response, the usage is exact exactly if the counts of the
provider over its completions add up to at most the greatest 32-bit integer.
-/
theorem chat_exactUsage_iff (libraries : ToolLibraries) (state : AppState)
    (request : ChatRequest) (world : ServerWorld)
    (answers : Nat → Except String CoreAnswer) {response : ChatResponse}
    (returns
      : (chat libraries state request (answeringWorld world answers)).outcome = .ok response)
    : (∀ kind,
        ExactUsage answers kind
          (chat libraries state request (answeringWorld world answers)).requests.length
          response)
      ↔ ∀ kind,
          total (countAt answers kind) (completions answers state.effectiveMax 0)
          ≤ 2147483647 := by
  cases converted : inboundMessages state.pipeline request.messages
      (.new (answeringWorld world answers).requestId "") with
  | error error =>
      simp only [chat, converted, HandlerRun.failed] at returns
      contradiction
  | ok conversation =>
      obtain ⟨messages, context⟩ := conversation
      simp only [chat, converted] at returns ⊢
      obtain ⟨sent, totals⟩ := chatLoop_usage returns
      rw [Nat.zero_add] at totals
      refine forall_congr' (fun kind => ?_)
      rw [← exactTotal_countAt_iff, ← exactUsage_iff totals, ← sent]
      rfl

/-- A final answer of the provider for which it counted these input tokens and no output. -/
def finalAnswer (inputTokens : Int64) (nonneg : 0 ≤ inputTokens.toInt) : CountedResponse where
  content := [textBlock "done"]
  stopReason := .endTurn
  usage := { inputTokens, outputTokens := 0 }
  model := "m"
  nonneg kind := by
    cases kind with
    | input => exact nonneg
    | output => exact Int.le_refl 0

/-- A request for an echo, for which the provider counted 20 input and 5 output tokens. -/
def echoAnswer : CountedResponse where
  content :=
    [toolUseBlock { id := "c-1", name := "intellisphere_echo", input := "" }]
  stopReason := .toolUse
  usage := { inputTokens := 20, outputTokens := 5 }
  model := "m"
  nonneg kind := by
    cases kind with
    | input => decide
    | output => decide

/-- Core asks for an echo and then answers. -/
def echoAnswers (k : Nat) : Except String CoreAnswer :=
  .ok (.converted (if k = 0 then echoAnswer else finalAnswer 30 (by decide)))

/-- What a chat of two completions reports. -/
def echoResponse : ChatResponse :=
  {
    content := "done"
    model := "m"
    stopReason := "end_turn"
    usage := { inputTokens := 50, outputTokens := 5 }
  }

/-- The usage of a chat with an echo round is exact. -/
theorem chat_exactUsage_iff_echo
    : ExactUsage echoAnswers .input 2 echoResponse
      ∧ ExactUsage echoAnswers .output 2 echoResponse := by
  have returns
      : (chat lenientLibraries (.start asciiTables 0 toolConfig) greeting
          (answeringWorld echoWorld echoAnswers)).outcome
        = .ok echoResponse := by
    rfl
  have fits
      : ∀ kind,
          total (countAt echoAnswers kind)
            (completions echoAnswers
              (AppState.start asciiTables 0 toolConfig).effectiveMax 0)
          ≤ 2147483647 := by
    intro kind
    cases kind with
    | input => decide
    | output => decide
  have exactUsage :=
    (chat_exactUsage_iff lenientLibraries (.start asciiTables 0 toolConfig) greeting echoWorld
      echoAnswers returns).mpr fits
  exact ⟨exactUsage .input, exactUsage .output⟩

/-- Three billion input tokens are reported as a negative number. -/
theorem chat_usage_wraps
    : ¬∀ (libraries : ToolLibraries) (state : AppState) (request : ChatRequest)
        (world : ServerWorld) (answers : Nat → Except String CoreAnswer)
        (response : ChatResponse),
        (chat libraries state request (answeringWorld world answers)).outcome = .ok response
        → ∀ kind,
            ExactUsage answers kind
              (chat libraries state request (answeringWorld world answers)).requests.length
              response := by
  intro alwaysExact
  have reported :=
    (alwaysExact lenientLibraries (.start asciiTables 0 toolConfig) greeting echoWorld
      (fun _ => .ok (.converted (finalAnswer 3000000000 (by decide))))
      {
        content := "done"
        model := "m"
        stopReason := "end_turn"
        usage := { inputTokens := -1294967296, outputTokens := 0 }
      }
      rfl .input).reported
  exact absurd reported (by decide)

end Intellisphere.Core
