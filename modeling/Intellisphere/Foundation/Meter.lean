import Intellisphere.Foundation.Observation

/-! Meters of a machine. A reading of the state goes up by what is paid in a step and stands
below a limit in each step that is paid for, so what all steps pay stays within the limit; and
once the reading is beyond the limit nothing is paid for any more. A reading that wraps around
is a meter as long as it has room.
-/

namespace Intellisphere.Foundation

/-- Several payments together. -/
def paidTogether : List Nat → Nat
  | [] => 0
  | cost :: rest => cost + paidTogether rest

theorem paidTogether_append (first second : List Nat)
    : paidTogether (first ++ second) = paidTogether first + paidTogether second := by
  induction first with
  | nil => exact (Nat.zero_add _).symm
  | cons cost rest ih => rw [List.cons_append, paidTogether, paidTogether, ih, Nat.add_assoc]

theorem paidTogether_singleton (cost : Nat) : paidTogether [cost] = cost :=
  Nat.add_zero cost

variable {State Event Output : Type} {machine : Machine State Event Output}

/-- The reading rises by at most `rate` in a step that has room for it; a step with a price
adds it to the reading, which does not pass the limit with it.
-/
structure Meter (machine : Machine State Event Output) where
  reading : State → Nat
  price : State → Event → Option Nat
  limit : Nat
  rate : Nat
  capacity : Nat
  rises {state next : State} {event : Event} {output : Output}
    (stepped : machine.step state event = some (next, output))
    (room : reading state + rate ≤ capacity)
    : reading state ≤ reading next ∧ reading next ≤ reading state + rate
  pays {state next : State} {event : Event} {output : Output} {cost : Nat}
    (stepped : machine.step state event = some (next, output))
    (room : reading state + rate ≤ capacity) (priced : price state event = some cost)
    : reading state + cost ≤ reading next ∧ reading state + cost ≤ limit

namespace Meter

variable {start finish : State} {trace : List (Event × Output)}

/-- What the steps of a trace are paid. -/
def payments (meter : Meter machine) (start : State) (trace : List (Event × Output))
    : List Nat :=
  machine.observed (Machine.noting meter.price) start trace

/-- There is room for a number of steps. -/
def Room (meter : Meter machine) (state : State) (steps : Nat) : Prop :=
  meter.reading state + steps * meter.rate ≤ meter.capacity

/-- What was paid in a run is in the reading, and it is within the limit if anything was. By
induction on the run.
-/
theorem payments_reading (meter : Meter machine) (run : machine.Run start trace finish)
    (room : meter.Room start trace.length)
    : meter.reading start + paidTogether (meter.payments start trace) ≤ meter.reading finish
      ∧ meter.reading finish ≤ meter.reading start + trace.length * meter.rate
      ∧ (meter.payments start trace = []
        ∨ meter.reading start + paidTogether (meter.payments start trace) ≤ meter.limit) := by
  unfold Room at room
  induction run with
  | nil => exact ⟨Nat.le_refl _, Nat.le_add_right _ _, .inl rfl⟩
  | @snoc middle finish trace event output run stepped ih =>
      rw [List.length_append, List.length_singleton, Nat.add_mul, Nat.one_mul] at room ⊢
      obtain ⟨contained, risen, within⟩ := ih (by omega)
      have enough : meter.reading middle + meter.rate ≤ meter.capacity := by omega
      obtain ⟨up, low⟩ := meter.rises stepped enough
      rw [payments, run.noted_snoc stepped, ← payments]
      cases priced : meter.price middle event with
      | none =>
          rw [Option.toList_none, List.append_nil]
          exact ⟨by omega, by omega, within⟩
      | some cost =>
          obtain ⟨added, below⟩ := meter.pays stepped enough priced
          rw [Option.toList_some, paidTogether_append, paidTogether_singleton]
          exact ⟨by omega, by omega, .inr (by omega)⟩

/-- All payments of a run together are within the limit. -/
theorem payments_le (meter : Meter machine) (run : machine.Run start trace finish)
    (room : meter.Room start trace.length)
    : paidTogether (meter.payments start trace) ≤ meter.limit := by
  obtain ⟨_, _, nothing | within⟩ := meter.payments_reading run room
  · rw [nothing]
    exact Nat.zero_le _
  · omega

/-- What is left of the room after some steps. -/
theorem Room.after {meter : Meter machine} {steps : Nat}
    (room : meter.Room start (trace.length + steps)) (run : machine.Run start trace finish)
    : meter.Room finish steps := by
  unfold Room at room ⊢
  rw [Nat.add_mul] at room
  have risen := (meter.payments_reading run (by unfold Room; omega)).2.1
  omega

/-- Beyond the limit nothing is paid for any more. -/
theorem payments_locked (meter : Meter machine) (run : machine.Run start trace finish)
    (room : meter.Room start trace.length) (spent : meter.limit < meter.reading start)
    : meter.payments start trace = [] := by
  obtain ⟨_, _, nothing | within⟩ := meter.payments_reading run room
  · exact nothing
  · omega

end Meter

end Intellisphere.Foundation
