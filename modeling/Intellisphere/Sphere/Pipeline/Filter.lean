import Intellisphere.Sphere.Auth
import Intellisphere.Sphere.Proto

/-! The context that flows through the filter chains, and the chains themselves.
A filter mutates its message and context in place, so both are kept when it fails.
-/

namespace Intellisphere.Sphere

structure PipelineContext where
  requestId : String
  sessionId : String
  identity : Option Identity := none
  annotations : HashMap (List String) := ∅
  inputTokenCount : Option UInt32 := none
  sessionTokenCount : Option UInt64 := none
  turnCount : Option UInt32 := none
  deriving DecidableEq

def PipelineContext.new (requestId sessionId : String) : PipelineContext :=
  { requestId, sessionId }

def PipelineContext.getAnnotations (context : PipelineContext) (key : String)
    : Option (List String) :=
  context.annotations.lookup key

/-- Add an annotation; several can exist under one key. -/
def PipelineContext.annotate (context : PipelineContext) (key value : String)
    : PipelineContext :=
  {
    context with
    annotations :=
      context.annotations.insert key (((context.getAnnotations key).getD []) ++ [value])
  }

/-- Add annotations under one key, in order. -/
def PipelineContext.annotateAll (context : PipelineContext) (key : String)
    (values : List String)
    : PipelineContext :=
  values.foldl (fun context value => context.annotate key value) context

/-- What a filter leaves behind: its result and the message and context it worked on. Inbound
filters fail with an error; an outbound filter might also panic.
-/
structure FilterRun (Error : Type) where
  result : Except Error Unit
  message : Message
  context : PipelineContext
  deriving DecidableEq

structure Filter (Error : Type) where
  name : String
  apply : Message → PipelineContext → FilterRun Error

section Chains

variable {Error : Type}

/-- Run filters in order until one fails. -/
def runFilters
    : List (Filter Error) → Message → PipelineContext → FilterRun Error
  | [], message, context => { result := .ok (), message, context }
  | filter :: rest, message, context =>
      let run := filter.apply message context
      match run.result with
      | .ok () => runFilters rest run.message run.context
      | .error _ => run

@[simp]
theorem runFilters_nil (message : Message) (context : PipelineContext)
    : runFilters ([] : List (Filter Error)) message context
      = { result := .ok (), message, context } :=
  rfl

/-- A filter that succeeds hands its message and context to the next one. -/
theorem runFilters_cons_ok {filter : Filter Error} {rest : List (Filter Error)}
    {message : Message}
    {context : PipelineContext} (ok : (filter.apply message context).result = .ok ())
    : runFilters (filter :: rest) message context
      = runFilters rest (filter.apply message context).message
          (filter.apply message context).context := by
  simp only [runFilters, ok]

/-- Chains compose: the second one runs when the first one succeeds. -/
theorem runFilters_append (first second : List (Filter Error)) (message : Message)
    (context : PipelineContext)
    (ok : (runFilters first message context).result = .ok ())
    : runFilters (first ++ second) message context
      = runFilters second (runFilters first message context).message
          (runFilters first message context).context := by
  induction first generalizing message context with
  | nil => rfl
  | cons filter rest ih =>
      simp only [List.cons_append, runFilters] at ok ⊢
      cases applied : (filter.apply message context).result with
      | ok done =>
          simp only [applied] at ok ⊢
          exact ih _ _ ok
      | error failure =>
          simp only [applied] at ok
          contradiction

/-- A chain that never fails and rewrites the content of its message, nothing else of it. -/
structure ChainRewrites (filters : List (Filter Error)) (rewrite : String → String) : Prop where
  ok : ∀ message context, (runFilters filters message context).result = .ok ()
  message
    : ∀ message context,
        (runFilters filters message context).message
          = { message with content := rewrite message.content }

/-- The empty chain rewrites nothing. -/
theorem ChainRewrites.nil : ChainRewrites ([] : List (Filter Error)) id :=
  ⟨fun _ _ => rfl, fun _ _ => rfl⟩

/-- The rewriting of a chain is determined up to its values. -/
theorem ChainRewrites.congr {filters : List (Filter Error)} {f g : String → String}
    (hf : ChainRewrites filters f) (same : ∀ content, f content = g content)
    : ChainRewrites filters g := by
  rwa [← funext same]

/-- Rewriting chains compose. -/
theorem ChainRewrites.append {first second : List (Filter Error)} {f g : String → String}
    (hf : ChainRewrites first f) (hg : ChainRewrites second g)
    : ChainRewrites (first ++ second) (g ∘ f) := by
  refine ⟨?_, ?_⟩
  · intro message context
    rw [runFilters_append first second message context (hf.ok message context)]
    exact hg.ok _ _
  · intro message context
    rw [runFilters_append first second message context (hf.ok message context), hg.message,
      hf.message]
    rfl

/-- One filter as a chain. -/
theorem ChainRewrites.single {filter : Filter Error} {rewrite : String → String}
    (ok : ∀ message context, (filter.apply message context).result = .ok ())
    (message
      : ∀ message context,
          (filter.apply message context).message
            = { message with content := rewrite message.content })
    : ChainRewrites [filter] rewrite := by
  refine ⟨?_, ?_⟩
  · intro sent context
    rw [runFilters_cons_ok (ok sent context), runFilters_nil]
  · intro sent context
    rw [runFilters_cons_ok (ok sent context), runFilters_nil, message]

/-- The filter, if it is enabled. -/
def whenEnabled (enabled : Bool) (filter : Filter Error) : List (Filter Error) :=
  if enabled then [filter] else []

/-- A disabled filter leaves the content alone. -/
theorem ChainRewrites.whenEnabled {filter : Filter Error} {rewrite : String → String}
    (single : ChainRewrites [filter] rewrite) (enabled : Bool)
    : ChainRewrites (whenEnabled enabled filter) (if enabled then rewrite else id) := by
  cases enabled with
  | false => exact .nil
  | true => exact single

end Chains

end Intellisphere.Sphere
