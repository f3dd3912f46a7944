import Intellisphere.Foundation.Machine

/-! Observers of a machine. An observer notes each step of a run as steps of a smaller machine
that is one of its parts; a step in which it notes nothing leaves the part alone.
-/

namespace Intellisphere.Foundation.Machine

section Observed

variable {State Event Output Entry : Type} {machine : Machine State Event Output}

/-- What is noted of a trace. The observer may look at the state each step is taken in. -/
def observed (machine : Machine State Event Output)
    (note : State → Event → Output → List Entry)
    : State → List (Event × Output) → List Entry
  | _, [] => []
  | state, (event, output) :: rest =>
      match machine.step state event with
      | none => []
      | some (next, _) => note state event output ++ machine.observed note next rest

variable {note : State → Event → Output → List Entry}

/-- The first step of a trace is noted before the others. -/
theorem observed_cons {state next : State} {event : Event} {output : Output}
    (stepped : machine.step state event = some (next, output))
    (rest : List (Event × Output))
    : machine.observed note state ((event, output) :: rest)
      = note state event output ++ machine.observed note next rest := by
  simp only [observed, stepped]

/-- Notes on a run that goes on are continued, by induction on the run. -/
theorem Run.observed_append {start middle : State} {trace : List (Event × Output)}
    (run : machine.Run start trace middle) (rest : List (Event × Output))
    : machine.observed note start (trace ++ rest)
      = machine.observed note start trace ++ machine.observed note middle rest := by
  induction run generalizing rest with
  | nil => rfl
  | snoc run stepped ih =>
      rw [List.append_assoc, List.singleton_append, ih, ih, observed_cons stepped,
        observed_cons stepped, List.append_assoc, observed, List.append_nil]

/-- The last step of a run is noted after the others. -/
theorem Run.observed_snoc {start middle finish : State} {trace : List (Event × Output)}
    {event : Event} {output : Output} (run : machine.Run start trace middle)
    (stepped : machine.step middle event = some (finish, output))
    : machine.observed note start (trace ++ [(event, output)])
      = machine.observed note start trace ++ note middle event output := by
  rw [run.observed_append, observed_cons stepped, observed, List.append_nil]

/-- An observer that notes one thing at most, whatever the output. -/
def noting (view : State → Event → Option Entry) : State → Event → Output → List Entry :=
  fun state event _ => (view state event).toList

variable {view : State → Event → Option Entry}

/-- The last step of a run is noted if there is something to note. -/
theorem Run.noted_snoc {start middle finish : State} {trace : List (Event × Output)}
    {event : Event} {output : Output} (run : machine.Run start trace middle)
    (stepped : machine.step middle event = some (finish, output))
    : machine.observed (noting view) start (trace ++ [(event, output)])
      = machine.observed (noting view) start trace ++ (view middle event).toList :=
  run.observed_snoc stepped

/-- The steps of a run meet a condition if an observer notes none that does not. -/
theorem Run.stepsMeet_of_observed {start finish : State} {trace : List (Event × Output)}
    {Meets : State → Event → Prop} [∀ state event, Decidable (Meets state event)]
    (run : machine.Run start trace finish)
    (nothing
      : machine.observed
          (noting (fun state event => if Meets state event then none else some event)) start
          trace
        = [])
    : machine.StepsMeet start trace Meets := by
  intro earlier event output later state whole before
  subst whole
  obtain ⟨middle, first, rest⟩ := run.split earlier ((event, output) :: later)
  obtain rfl := before.unique first
  obtain ⟨next, stepped, _⟩ := rest.uncons
  rw [before.observed_append, List.append_eq_nil_iff, observed_cons stepped,
    List.append_eq_nil_iff] at nothing
  by_contra fails
  simp [noting, fails] at nothing

end Observed

section Parts

variable {State Event Output State' Event' Output' : Type}
  {machine : Machine State Event Output} {part : Machine State' Event' Output'}
  {note : State → Event → Output → List (Event' × Output')}
  {Related : State → State' → Prop}

/-- The part takes the noted steps, and is related to the next state afterwards. -/
def Matched (part : Machine State' Event' Output') (Related : State → State' → Prop)
    (state' : State') (next : State) (noted : List (Event' × Output'))
    : Prop :=
  ∃ next', part.Run state' noted next' ∧ Related next next'

/-- A step that is not noted leaves the part where it is. -/
theorem Matched.nothing {state' : State'} {next : State} (related : Related next state')
    : Matched part Related state' next [] :=
  ⟨state', .nil state', related⟩

/-- A step that is noted as one step of the part. -/
theorem Matched.single {state' next' : State'} {next : State} {event : Event'}
    {output : Output'} (stepped : part.step state' event = some (next', output))
    (related : Related next next')
    : Matched part Related state' next [(event, output)] :=
  ⟨next', .single stepped, related⟩

/-- The notes on a run are a run of the part if every step is matched. By induction on the run.
-/
theorem Run.observed_run
    (matched
      : ∀ state state' event next output,
          Related state state'
          → machine.step state event = some (next, output)
          → Matched part Related state' next (note state event output))
    {start finish : State} {start' : State'} {trace : List (Event × Output)}
    (run : machine.Run start trace finish) (related : Related start start')
    : Matched part Related start' finish (machine.observed note start trace) := by
  induction run with
  | nil => exact .nothing related
  | @snoc middle finish trace event output run stepped ih =>
      obtain ⟨middle', run', related'⟩ := ih
      obtain ⟨finish', more, related''⟩ :=
        matched middle middle' event finish output related' stepped
      rw [run.observed_snoc stepped]
      exact ⟨finish', run'.trans more, related''⟩

end Parts

end Intellisphere.Foundation.Machine
