import Intellisphere.Foundation.Machine
import Mathlib.Data.List.Perm.Subperm

/-! Calls that run at the same time. Each call has a list of actions, which it takes one after
the other; between the calls the order is open. An action may fail to take effect, and the
call goes on. What took effect is part of what the calls were to do, and all of it when every
call has come to its end and no action failed.
-/

namespace Intellisphere.Foundation

/-- The actions that running calls still have to take, and those that took effect. -/
structure Interleaved (Action : Type) where
  tasks : List (List Action)
  done : List Action

inductive CallEvent (Call : Type) where
  | begin (call : Call)
  | advance (task : Nat) (taken : Bool)

namespace Interleaved

variable {Call Action : Type}

/-- No call has begun. -/
def start : Interleaved Action where
  tasks := []
  done := []

/-- Every call that has begun is at its end. -/
def Idle (state : Interleaved Action) : Prop :=
  state.tasks.flatten = []

/-- A call begins, or one takes the next of its actions; the output is an action that failed. -/
def step (actions : Call → List Action) (state : Interleaved Action)
    : CallEvent Call → Option (Interleaved Action × Option Action)
  | .begin call => some ({ state with tasks := state.tasks ++ [actions call] }, none)
  | .advance task taken =>
      match state.tasks[task]? with
      | some (action :: rest) =>
          let tasks := state.tasks.set task rest
          if taken then some ({ tasks, done := state.done ++ [action] }, none)
          else some ({ state with tasks }, some action)
      | _ => none

/-- The calls that are interleaved. -/
def machine (actions : Call → List Action)
    : Machine (Interleaved Action) (CallEvent Call) (Option Action) where
  step := step actions

/-- The calls that began. -/
def begun (trace : List (CallEvent Call × Option Action)) : List Call :=
  trace.filterMap
    (fun entry =>
      match entry.1 with
      | .begin call => some call
      | .advance _ _ => none)

/-- The actions that failed. -/
def lost (trace : List (CallEvent Call × Option Action)) : List Action :=
  trace.filterMap Prod.snd

variable {actions : Call → List Action}

/-- The steps: a call begins, or the first action left of a call takes effect or fails. -/
inductive Move (actions : Call → List Action) (before : Interleaved Action)
    : CallEvent Call → Interleaved Action → Option Action → Prop
  | began (call : Call)
    : Move actions before (.begin call)
        { before with tasks := before.tasks ++ [actions call] } none
  | took {task : Nat} {action : Action} {rest : List Action}
    {earlier later : List (List Action)}
    (whole : before.tasks = earlier ++ (action :: rest) :: later)
    : Move actions before (.advance task true)
        { tasks := earlier ++ rest :: later, done := before.done ++ [action] } none
  | failed {task : Nat} {action : Action} {rest : List Action}
    {earlier later : List (List Action)}
    (whole : before.tasks = earlier ++ (action :: rest) :: later)
    : Move actions before (.advance task false)
        { before with tasks := earlier ++ rest :: later } (some action)

theorem step_move {before after : Interleaved Action} {event : CallEvent Call}
    {output : Option Action}
    (stepped : (machine actions).step before event = some (after, output))
    : Move actions before event after output := by
  cases event with
  | begin call =>
      obtain ⟨rfl, rfl⟩ := Prod.mk.inj (Option.some.inj stepped)
      exact .began call
  | advance task taken =>
      simp only [machine, step] at stepped
      split at stepped
      next action rest found =>
        obtain ⟨inside, present⟩ := List.getElem?_eq_some_iff.mp found
        obtain ⟨earlier, later, whole, _, changed⟩
          : ∃ earlier later,
              before.tasks = earlier ++ before.tasks[task] :: later
              ∧ earlier.length = task
              ∧ before.tasks.set task rest = earlier ++ rest :: later :=
          List.exists_of_set inside
        rw [present] at whole
        rw [changed] at stepped
        cases taken with
        | true =>
            obtain ⟨rfl, rfl⟩ := Prod.mk.inj (Option.some.inj stepped)
            exact .took whole
        | false =>
            obtain ⟨rfl, rfl⟩ := Prod.mk.inj (Option.some.inj stepped)
            exact .failed whole
      next => contradiction

-----------------------------------------------------------------------------------------
-- Nothing is invented and nothing done twice
-----------------------------------------------------------------------------------------

theorem begun_append (trace : List (CallEvent Call × Option Action))
    (entry : CallEvent Call × Option Action)
    : begun (trace ++ [entry]) = begun trace ++ begun [entry] := by
  rw [begun, List.filterMap_append]
  rfl

theorem lost_append (trace : List (CallEvent Call × Option Action))
    (entry : CallEvent Call × Option Action)
    : lost (trace ++ [entry]) = lost trace ++ lost [entry] := by
  rw [lost, List.filterMap_append]
  rfl

/-- A step moves an action from what is left to what took effect or failed, or adds those of a
call.
-/
theorem Move.accounts {before after : Interleaved Action} {event : CallEvent Call}
    {output : Option Action} (moved : Move actions before event after output)
    : (after.done ++ lost [(event, output)] ++ after.tasks.flatten).Perm
        (before.done ++ before.tasks.flatten ++ (begun [(event, output)]).flatMap actions) := by
  cases moved with
  | began call => simp [lost, begun]
  | took whole =>
      rw [whole]
      simpa [lost, begun] using List.perm_middle.symm.append_left before.done
  | failed whole =>
      rw [whole]
      simpa [lost, begun] using List.perm_middle.symm.append_left before.done

/-- What took effect, what failed and what is left are together what was left before and what
the calls that began were to do. By induction on the run.
-/
theorem Run.accounts {initial finish : Interleaved Action}
    {trace : List (CallEvent Call × Option Action)}
    (run : (machine actions).Run initial trace finish)
    : (finish.done ++ lost trace ++ finish.tasks.flatten).Perm
        (initial.done ++ initial.tasks.flatten ++ (begun trace).flatMap actions) := by
  classical
  induction run with
  | nil => simp [lost, begun]
  | snoc run next ih =>
      have moved := (step_move next).accounts
      rw [List.perm_iff_count] at ih moved ⊢
      intro action
      have before := ih action
      have here := moved action
      rw [begun_append, lost_append, List.flatMap_append]
      simp only [List.count_append] at before here ⊢
      omega

section Seen

variable {Seen : Type} {finish : Interleaved Action}
  {trace : List (CallEvent Call × Option Action)} {see : Action → Option Seen}
  {what : Call → Seen}

/-- Of the actions of some calls one sees what each call shows once. -/
theorem filterMap_flatMap_actions (once : ∀ call, (actions call).filterMap see = [what call])
    (calls : List Call)
    : (calls.flatMap actions).filterMap see = calls.map what := by
  rw [List.filterMap_flatMap]
  simp only [once]
  rw [← List.flatMap_singleton' (calls.map what), List.flatMap_map]

/-- Nothing is seen that no call did, and nothing more often than calls began. -/
theorem Run.seen_subperm (run : (machine actions).Run start trace finish)
    (once : ∀ call, (actions call).filterMap see = [what call])
    : (finish.done.filterMap see).Subperm ((begun trace).map what) := by
  have seen := (Run.accounts run).filterMap see
  simp only [start, List.flatten_nil, List.nil_append, List.filterMap_append,
    filterMap_flatMap_actions once, List.append_assoc] at seen
  exact (List.sublist_append_left _ _).subperm.trans seen.subperm

/-- When every call is at its end and no action failed, each call is seen once. -/
theorem Run.seen_perm (run : (machine actions).Run start trace finish)
    (once : ∀ call, (actions call).filterMap see = [what call]) (idle : finish.Idle)
    (kept : lost trace = [])
    : (finish.done.filterMap see).Perm ((begun trace).map what) := by
  have seen := (Run.accounts run).filterMap see
  rw [idle, kept] at seen
  simpa only [start, List.flatten_nil, List.nil_append, List.append_nil,
    filterMap_flatMap_actions once] using seen

end Seen

-----------------------------------------------------------------------------------------
-- One call at a time
-----------------------------------------------------------------------------------------

/-- No call begins while another has actions left. -/
def Serial (actions : Call → List Action) (trace : List (CallEvent Call × Option Action))
    : Prop :=
  ∀ earlier later call output state,
    trace = earlier ++ (.begin call, output) :: later
    → (machine actions).Run start earlier state
    → state.Idle

/-- The calls that have actions left. -/
def busy (state : Interleaved Action) : Nat :=
  state.tasks.countP (fun task => !task.isEmpty)

theorem countP_busy_eq_zero_iff (tasks : List (List Action))
    : tasks.countP (fun task => !task.isEmpty) = 0 ↔ tasks.flatten = [] := by
  rw [List.flatten_eq_nil_iff, List.countP_eq_zero]
  simp

theorem Serial.before {trace : List (CallEvent Call × Option Action)}
    {entry : CallEvent Call × Option Action} (serial : Serial actions (trace ++ [entry]))
    : Serial actions trace := by
  intro earlier later call output state whole
  refine serial earlier (later ++ [entry]) call output state ?_
  rw [whole, List.append_assoc, List.cons_append]

/-- A step of the only call with actions left, or the first of one, keeps their order. -/
theorem Move.serial {before after : Interleaved Action} {event : CallEvent Call}
    {output : Option Action} (moved : Move actions before event after output)
    (alone : before.busy ≤ 1) (free : ∀ call, event = .begin call → before.Idle)
    (kept : output = none)
    : after.busy ≤ 1
      ∧ after.done ++ after.tasks.flatten
        = before.done ++ before.tasks.flatten
            ++ (begun [(event, output)]).flatMap actions := by
  cases moved with
  | began call =>
      have idle := (countP_busy_eq_zero_iff _).mpr (free call rfl)
      refine ⟨?_, by simp [begun]⟩
      rw [busy, List.countP_append, idle, Nat.zero_add]
      exact List.countP_le_length
  | @took task action rest earlier later whole =>
      rw [busy, whole, List.countP_append, List.countP_cons_of_pos rfl] at alone
      have before := (countP_busy_eq_zero_iff earlier).mp (by omega)
      have after := (countP_busy_eq_zero_iff later).mp (by omega)
      refine ⟨?_, ?_⟩
      · rw [busy, List.countP_append, List.countP_cons]
        split <;> omega
      · rw [whole]
        simp [begun, before, after]
  | failed whole => contradiction

/-- With one call at a time the actions take effect in the order of the calls. By induction on
the run.
-/
theorem Run.serial {finish : Interleaved Action}
    {trace : List (CallEvent Call × Option Action)}
    (run : (machine actions).Run start trace finish) (serial : Serial actions trace)
    (kept : lost trace = [])
    : finish.busy ≤ 1
      ∧ finish.done ++ finish.tasks.flatten = (begun trace).flatMap actions := by
  induction run with
  | nil => exact ⟨Nat.zero_le _, rfl⟩
  | @snoc middle finish trace event output run next ih =>
      rw [lost_append, List.append_eq_nil_iff] at kept
      have none : output = none := by
        cases output with
        | none => rfl
        | some action => exact absurd kept.2 (List.cons_ne_nil _ _)
      obtain ⟨alone, order⟩ := ih serial.before kept.1
      have free (call : Call) (begins : event = .begin call) : middle.Idle :=
        serial trace [] call output middle (by rw [begins]) run
      obtain ⟨alone', order'⟩ := (step_move next).serial alone free none
      refine ⟨alone', ?_⟩
      rw [order', order, begun_append, List.flatMap_append]

end Interleaved

end Intellisphere.Foundation
