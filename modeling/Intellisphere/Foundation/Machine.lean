import Mathlib.Data.List.Induction

/-! Finite runs of machines whose nondeterminism is resolved by the events fed to them.
A scheduler, a network or a clock is an event source; the machine itself is a function.
-/

namespace Intellisphere.Foundation

/-- A machine answers each event with its next state and one output, or with `none` when
the event is not enabled in that state.
-/
structure Machine (State Event Output : Type) where
  step : State → Event → Option (State × Output)

namespace Machine

variable {State Event Output : Type} {machine : Machine State Event Output}

/-- `machine.Run start trace finish`: the events of `trace`, taken in order from `start`,
are all enabled, produce the outputs recorded beside them and end in `finish`.
-/
inductive Run (machine : Machine State Event Output)
    : State → List (Event × Output) → State → Prop
  | nil (start : State) : Run machine start [] start
  | snoc {start middle finish : State} {trace : List (Event × Output)} {event : Event}
    {output : Output} (run : Run machine start trace middle)
    (next : machine.step middle event = some (finish, output))
    : Run machine start (trace ++ [(event, output)]) finish

/-- Feed a list of events to the machine, collecting the outputs. -/
def exec (machine : Machine State Event Output)
    : State → List Event → Option (State × List (Event × Output))
  | start, [] => some (start, [])
  | start, event :: rest =>
      match machine.step start event with
      | none => none
      | some (next, output) =>
          match machine.exec next rest with
          | none => none
          | some (finish, trace) => some (finish, (event, output) :: trace)

/-- A single enabled event is a run. -/
theorem Run.single {start finish : State} {event : Event} {output : Output}
    (next : machine.step start event = some (finish, output))
    : machine.Run start [(event, output)] finish :=
  .snoc (.nil start) next

/-- Runs compose, by induction on the second one. -/
theorem Run.trans {start middle finish : State} {first second : List (Event × Output)}
    (head : machine.Run start first middle) (tail : machine.Run middle second finish)
    : machine.Run start (first ++ second) finish := by
  induction tail with
  | nil => simpa using head
  | snoc _ next ih => simpa only [List.append_assoc] using ih.snoc next

/-- A run over a concatenated trace passes through a middle state. Witness: induction on
the second trace from its end, inverting the last step.
-/
theorem Run.split {start finish : State} (first second : List (Event × Output))
    (run : machine.Run start (first ++ second) finish)
    : ∃ middle, machine.Run start first middle ∧ machine.Run middle second finish := by
  induction second using List.reverseRecOn generalizing finish with
  | nil => exact ⟨finish, by simpa using run, .nil finish⟩
  | append_singleton rest last ih =>
      rw [← List.append_assoc] at run
      generalize whole : first ++ rest ++ [last] = trace at run
      cases run with
      | nil => simp at whole
      | snoc before next =>
          obtain ⟨same, lastEq⟩ := List.append_inj' whole rfl
          subst same
          obtain ⟨middle, head, tail⟩ := ih before
          have final := tail.snoc next
          rw [← lastEq] at final
          exact ⟨middle, head, final⟩

/-- A run of one entry is an enabled step. -/
theorem Run.step_of_single {start finish : State} {event : Event} {output : Output}
    (run : machine.Run start [(event, output)] finish)
    : machine.step start event = some (finish, output) := by
  generalize whole : [(event, output)] = trace at run
  cases run with
  | nil => simp at whole
  | snoc before next =>
      obtain ⟨rfl, same⟩ := List.append_inj' ((List.nil_append _).trans whole) rfl
      obtain ⟨rfl, rfl⟩ := Prod.mk.inj (List.singleton_inj.mp same)
      generalize none : ([] : List (Event × Output)) = trace at before
      cases before with
      | nil => exact next
      | snoc => simp at none

/-- The first entry of a nonempty run is an enabled step, and the rest is a run. -/
theorem Run.uncons {start finish : State} {event : Event} {output : Output}
    {rest : List (Event × Output)}
    (run : machine.Run start ((event, output) :: rest) finish)
    : ∃ next,
        machine.step start event = some (next, output) ∧ machine.Run next rest finish := by
  obtain ⟨middle, head, tail⟩ := run.split [(event, output)] rest
  exact ⟨middle, head.step_of_single, tail⟩

/-- A trace determines the state it ends in, by induction on the run. -/
theorem Run.unique {start finish finish' : State} {trace : List (Event × Output)}
    (run : machine.Run start trace finish) (run' : machine.Run start trace finish')
    : finish = finish' := by
  induction run generalizing finish' with
  | nil =>
      generalize none : ([] : List (Event × Output)) = trace at run'
      cases run' with
      | nil => rfl
      | snoc => simp at none
  | snoc before next ih =>
      obtain ⟨middle, head, tail⟩ := run'.split _ _
      obtain rfl := ih head
      exact (Prod.mk.inj (Option.some.inj (next.symm.trans tail.step_of_single))).1

/-- What `exec` reports is a run, by induction on the events. -/
theorem exec_run {start finish : State} {events : List Event}
    {trace : List (Event × Output)} (done : machine.exec start events = some (finish, trace))
    : machine.Run start trace finish := by
  induction events generalizing start trace with
  | nil =>
      obtain ⟨rfl, rfl⟩ := Prod.mk.inj (Option.some.inj done)
      exact .nil start
  | cons event rest ih =>
      simp only [exec] at done
      split at done
      · contradiction
      next next output stepped =>
        split at done
        · contradiction
        next last tail finished =>
          obtain ⟨rfl, rfl⟩ := Prod.mk.inj (Option.some.inj done)
          exact (Run.single stepped).trans (ih finished)

/-- What happens when the machine is fed `events`; nothing if one of them is not enabled. -/
def traceOf (machine : Machine State Event Output) (start : State) (events : List Event)
    : List (Event × Output) :=
  ((machine.exec start events).map Prod.snd).getD []

/-- Where the machine is after `events`; still at `start` if one of them is not enabled. -/
def stateAfter (machine : Machine State Event Output) (start : State) (events : List Event)
    : State :=
  ((machine.exec start events).map Prod.fst).getD start

/-- Enabled events make a run. -/
theorem traceOf_run {start : State} {events : List Event}
    (enabled : (machine.exec start events).isSome = true)
    : machine.Run start (machine.traceOf start events) (machine.stateAfter start events) := by
  obtain ⟨⟨finish, trace⟩, done⟩ := Option.isSome_iff_exists.mp enabled
  unfold traceOf stateAfter
  rw [done]
  exact exec_run done

/-- A run goes on with the events it is fed. -/
theorem Run.fed {start middle : State} {trace more : List (Event × Output)}
    (run : machine.Run start trace middle) {events : List Event}
    (answered : (machine.exec middle events).map Prod.snd = some more)
    : machine.Run start (trace ++ more) (machine.stateAfter middle events) := by
  obtain ⟨⟨finish, trace'⟩, done, rfl⟩ := Option.map_eq_some_iff.mp answered
  unfold stateAfter
  rw [done]
  exact run.trans (exec_run done)

/-- A relation between history and state that holds initially and survives each step holds
after every run.
-/
theorem Run.history {start finish : State} {trace : List (Event × Output)}
    (Holds : List (Event × Output) → State → Prop) (initial : Holds [] start)
    (preserved
      : ∀ trace state event next output,
          machine.Run start trace state
          → Holds trace state
          → machine.step state event = some (next, output)
          → Holds (trace ++ [(event, output)]) next)
    (run : machine.Run start trace finish)
    : Holds trace finish := by
  induction run with
  | nil => exact initial
  | snoc before next ih => exact preserved _ _ _ _ _ before ih next

/-- A state property that survives each step survives every run. -/
theorem Run.invariant {start finish : State} {trace : List (Event × Output)}
    (Holds : State → Prop)
    (preserved
      : ∀ state event next output,
          Holds state → machine.step state event = some (next, output) → Holds next)
    (run : machine.Run start trace finish) (initial : Holds start)
    : Holds finish :=
  run.history (fun _ state => Holds state) initial
    (fun _ _ _ _ _ _ holds next => preserved _ _ _ _ holds next)

/-- Every step of the trace meets a condition on its event and the state it is taken in. -/
def StepsMeet (machine : Machine State Event Output) (start : State)
    (trace : List (Event × Output)) (Meets : State → Event → Prop) : Prop :=
  ∀ earlier event output later state,
    trace = earlier ++ (event, output) :: later
    → machine.Run start earlier state
    → Meets state event

theorem StepsMeet.nil (start : State) (Meets : State → Event → Prop)
    : machine.StepsMeet start [] Meets := by
  intro earlier event output later state whole _
  simp at whole

/-- A trace meets a condition if its first step does and the rest does after it. -/
theorem StepsMeet.cons {start next : State} {event : Event} {output : Output}
    {rest : List (Event × Output)} {Meets : State → Event → Prop}
    (stepped : machine.step start event = some (next, output)) (first : Meets start event)
    (others : machine.StepsMeet next rest Meets)
    : machine.StepsMeet start ((event, output) :: rest) Meets := by
  intro earlier event' output' later state whole run
  cases earlier with
  | nil =>
      obtain ⟨same, rfl⟩ := List.cons.inj whole
      obtain ⟨rfl, rfl⟩ := Prod.mk.inj same
      obtain rfl := run.unique (.nil start)
      exact first
  | cons head tail =>
      obtain ⟨rfl, rfl⟩ := List.cons.inj whole
      obtain ⟨middle, also, after⟩ := run.uncons
      obtain ⟨rfl, _⟩ := Prod.mk.inj (Option.some.inj (stepped.symm.trans also))
      exact others tail event' output' later state rfl after

/-- What holds of a trace holds of its beginnings. -/
theorem StepsMeet.before {start : State} {trace rest : List (Event × Output)}
    {Meets : State → Event → Prop}
    (meets : machine.StepsMeet start (trace ++ rest) Meets)
    : machine.StepsMeet start trace Meets := by
  intro earlier event output later state whole run
  exact meets earlier event output (later ++ rest) state (by simp [whole]) run

/-- The last step of a trace that meets a condition meets it. -/
theorem StepsMeet.last {start middle : State} {trace : List (Event × Output)}
    {event : Event} {output : Output} {Meets : State → Event → Prop}
    (meets : machine.StepsMeet start (trace ++ [(event, output)]) Meets)
    (run : machine.Run start trace middle)
    : Meets middle event :=
  meets trace event output [] middle rfl run

/-- A step that meets a condition extends a trace that does. -/
theorem StepsMeet.snoc {start middle : State} {trace : List (Event × Output)}
    {event : Event} {output : Output} {Meets : State → Event → Prop}
    (run : machine.Run start trace middle) (meets : machine.StepsMeet start trace Meets)
    (last : Meets middle event)
    : machine.StepsMeet start (trace ++ [(event, output)]) Meets := by
  intro earlier event' output' later state whole run'
  rcases List.eq_nil_or_concat later with rfl | ⟨later, entry, rfl⟩
  · obtain ⟨rfl, same⟩ := List.append_inj' whole rfl
    obtain ⟨rfl, _⟩ := Prod.mk.inj (List.singleton_inj.mp same)
    obtain rfl := run.unique run'
    exact last
  · rw [List.concat_eq_append, ← List.cons_append, ← List.append_assoc] at whole
    obtain ⟨rfl, _⟩ := List.append_inj' whole rfl
    exact meets earlier event' output' later state rfl run'

/-- What holds of a trace holds of what comes after one of its beginnings. -/
theorem StepsMeet.after {start middle : State} {earlier trace : List (Event × Output)}
    {Meets : State → Event → Prop}
    (meets : machine.StepsMeet start (earlier ++ trace) Meets)
    (run : machine.Run start earlier middle)
    : machine.StepsMeet middle trace Meets := by
  intro between event output later state whole next
  exact meets (earlier ++ between) event output later state (by simp [whole]) (run.trans next)

/-- A relation between history and state that survives each step meeting a condition holds
after every run whose steps all meet it.
-/
theorem Run.history_of_meets {start finish : State} {trace : List (Event × Output)}
    {Meets : State → Event → Prop} (Holds : List (Event × Output) → State → Prop)
    (initial : Holds [] start)
    (preserved
      : ∀ trace state event next output,
          Holds trace state
          → Meets state event
          → machine.step state event = some (next, output)
          → Holds (trace ++ [(event, output)]) next)
    (run : machine.Run start trace finish) (meets : machine.StepsMeet start trace Meets)
    : Holds trace finish := by
  induction run with
  | nil => exact initial
  | snoc before next ih =>
      exact preserved _ _ _ _ _ (ih meets.before) (meets.last before) next

/-- A run that gains a state property passes through the step that brings it. -/
theorem Run.crossing {start finish : State} {trace : List (Event × Output)}
    (Holds : State → Prop) (run : machine.Run start trace finish) (initial : ¬Holds start)
    (reached : Holds finish)
    : ∃ earlier event output later before after,
        trace = earlier ++ (event, output) :: later
        ∧ machine.Run start earlier before
        ∧ ¬Holds before
        ∧ machine.step before event = some (after, output)
        ∧ Holds after
        ∧ machine.Run after later finish := by
  induction run with
  | nil => exact (initial reached).elim
  | @snoc middle finish trace event output run next ih =>
      by_cases already : Holds middle
      · obtain ⟨earlier, event', output', later, before, after, rfl, head, lacking, stepped,
          holds, tail⟩ := ih already
        exact ⟨earlier, event', output', later ++ [(event, output)], before, after, by simp,
          head, lacking, stepped, holds, tail.snoc next⟩
      · exact ⟨trace, event, output, [], middle, finish, rfl, run, already, next, reached,
          .nil finish⟩

/-- Once a state property is absorbing and forces a shape on outputs, every later entry of
the trace has that shape.
-/
theorem Run.absorbing {start finish : State} {trace : List (Event × Output)}
    (Holds : State → Prop) (Shape : Event → Output → Prop)
    (preserved
      : ∀ state event next output,
          Holds state
          → machine.step state event = some (next, output)
          → Holds next ∧ Shape event output)
    (run : machine.Run start trace finish) (initial : Holds start)
    : ∀ entry ∈ trace, Shape entry.1 entry.2 := by
  induction run with
  | nil => simp
  | snoc before next ih =>
      have holds := before.invariant Holds
        (fun _ _ _ _ h stepped => (preserved _ _ _ _ h stepped).1) initial
      intro entry member
      rcases List.mem_append.mp member with earlier | last
      · exact ih entry earlier
      · obtain rfl := List.mem_singleton.mp last
        exact (preserved _ _ _ _ holds next).2

end Machine

end Intellisphere.Foundation
