import Intellisphere.Foundation.Machine

/-! Progress of a machine whose states are ranked by the work that is left in them. Steps that
do some of the work are bounded by what the other steps add to it; and where there is always
such a step to take, the work can be finished.
-/

namespace Intellisphere.Foundation.Machine

variable {State Event Output : Type} {machine : Machine State Event Output}
  {work : State → Nat}

/-- Each step that works lowers the rank, and each other step raises it by no more than the
credit it brings. Then the steps that worked are paid for by the credits of the run. By
induction on the run.
-/
theorem Run.work_le {worked credited : Event × Output → Bool} {credit : Nat}
    (pays
      : ∀ state event next output,
          machine.step state event = some (next, output)
          → work next + (worked (event, output)).toNat
            ≤ work state + credit * (credited (event, output)).toNat)
    {start finish : State} {trace : List (Event × Output)}
    (run : machine.Run start trace finish)
    : work finish + trace.countP worked ≤ work start + credit * trace.countP credited := by
  have counted (test : Event × Output → Bool) (trace : List (Event × Output))
      (entry : Event × Output)
      : (trace ++ [entry]).countP test = trace.countP test + (test entry).toNat := by
    rw [List.countP_append]
    cases holds : test entry <;> simp [holds]
  induction run with
  | nil => simp
  | @snoc middle finish trace event output run stepped ih =>
      have paid := pays middle event finish output stepped
      rw [counted, counted, Nat.mul_add]
      omega

/-- If every state that is not done has a step of some kind that lowers the rank, then a run of
such steps leads to a state that is done, in no more steps than there was work. By induction
on the rank.
-/
theorem exists_run_of_progress {Holds Done : State → Prop} {Own : Event → Prop}
    (progress
      : ∀ state,
          Holds state
          → ¬Done state
          → ∃ event next output,
              Own event
              ∧ machine.step state event = some (next, output)
              ∧ Holds next
              ∧ work next < work state)
    (state : State) (holds : Holds state)
    : ∃ trace finish,
        machine.Run state trace finish
        ∧ Done finish
        ∧ (∀ entry ∈ trace, Own entry.1)
        ∧ trace.length ≤ work state := by
  induction left : work state using Nat.strongRecOn generalizing state with
  | ind _ ih =>
      by_cases done : Done state
      · exact ⟨[], state, .nil state, done, by simp, Nat.zero_le _⟩
      · obtain ⟨event, next, output, own, stepped, holds', lower⟩ := progress state holds done
        obtain ⟨trace, finish, run, done', owned, short⟩ :=
          ih (work next) (left ▸ lower) next holds' rfl
        refine ⟨(event, output) :: trace, finish, (Run.single stepped).trans run, done', ?_, ?_⟩
        · intro entry member
          rcases List.mem_cons.mp member with rfl | later
          · exact own
          · exact owned entry later
        · rw [List.length_cons]
          omega

end Intellisphere.Foundation.Machine
