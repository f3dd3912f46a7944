import Mathlib.Data.List.Induction

/-! Logs of times of which only those inside a sliding window count. What has left the window
never comes back, so a log that is pruned as time goes by is as good as the full history.
-/

namespace Intellisphere.Foundation

/-- Which times count at which time. What counts at some time counted before. -/
structure SlidingWindow (Time : Type) [LE Time] where
  counts : Time → Time → Bool
  shrinks {now later time : Time} (order : now ≤ later) (counted : counts later time = true)
    : counts now time = true

namespace SlidingWindow

variable {Time : Type} [LE Time] {window : SlidingWindow Time} {now next : Time}
  {kept log : List Time}

/-- The times of a log that count. -/
def prune (window : SlidingWindow Time) (now : Time) (log : List Time) : List Time :=
  log.filter (window.counts now)

theorem prune_append (first second : List Time)
    : window.prune now (first ++ second)
      = window.prune now first ++ window.prune now second :=
  List.filter_append first second

/-- What was pruned before would be pruned now. -/
theorem prune_prune (order : now ≤ next) (log : List Time)
    : window.prune next (window.prune now log) = window.prune next log := by
  unfold prune
  rw [List.filter_filter]
  refine List.filter_congr fun time _ => ?_
  cases counted : window.counts next time with
  | false => rfl
  | true => simp [window.shrinks order counted]

/-- From a time on, the kept times count as the whole log does. -/
def Retains (window : SlidingWindow Time) (now : Time) (kept log : List Time) : Prop :=
  ∀ later, now ≤ later → window.prune later kept = window.prune later log

theorem Retains.refl (window : SlidingWindow Time) (now : Time) (log : List Time)
    : window.Retains now log log :=
  fun _ _ => rfl

theorem Retains.mono [Std.IsPreorder Time] (retains : window.Retains now kept log)
    (order : now ≤ next)
    : window.Retains next kept log :=
  fun later after => retains later (Std.le_trans order after)

/-- What no longer counts can be forgotten. -/
theorem Retains.prune (retains : window.Retains now kept log)
    : window.Retains now (window.prune now kept) log := by
  intro later order
  rw [prune_prune order]
  exact retains later order

theorem Retains.append (retains : window.Retains now kept log) (time : Time)
    : window.Retains now (kept ++ [time]) (log ++ [time]) := by
  intro later order
  rw [prune_append, prune_append, retains later order]

/-- A log in the order of time, in which each time found room: the number of those before it
that counted was not yet full.
-/
inductive Admits (window : SlidingWindow Time) (full : Nat → Prop) : List Time → Prop where
  | nil : window.Admits full []
  | snoc (log : List Time) (now : Time) (earlier : window.Admits full log)
    (order : ∀ time ∈ log, time ≤ now) (room : ¬full (window.prune now log).length)
    : window.Admits full (log ++ [now])

/-- No stretch of time whose beginning counts at its end holds more times than fill the
window. By induction on the log: the last time of the stretch found room among the others.
-/
theorem Admits.stretch_length_le {full : Nat → Prop} (admits : window.Admits full log)
    (capacity : Nat) (enough : ∀ count, capacity ≤ count → full count)
    (stretch : Time → Bool)
    (short
      : ∀ first ∈ log, ∀ last ∈ log,
          first ≤ last
          → stretch first = true
          → stretch last = true
          → window.counts last first = true)
    : (log.filter stretch).length ≤ capacity := by
  induction admits with
  | nil => exact Nat.zero_le capacity
  | snoc log now earlier order room ih =>
      have before := ih (fun first fromFirst last fromLast =>
        short first (List.mem_append_left _ fromFirst) last (List.mem_append_left _ fromLast))
      have newest : now ∈ log ++ [now] := by simp
      rw [List.filter_append, List.length_append]
      cases inside : stretch now with
      | false => simpa [inside] using before
      | true =>
          have counted : (log.filter stretch).length ≤ (window.prune now log).length := by
            unfold SlidingWindow.prune
            rw [← List.countP_eq_length_filter, ← List.countP_eq_length_filter]
            exact List.countP_mono_left fun time member also =>
              short time (List.mem_append_left _ member) now newest (order time member) also
                inside
          have below : (window.prune now log).length < capacity := by
            by_contra enoughCounted
            exact room (enough _ (Nat.le_of_not_lt enoughCounted))
          have oneMore : (log.filter stretch).length + 1 ≤ capacity :=
            Nat.lt_of_le_of_lt counted below
          simpa [inside] using oneMore

end SlidingWindow

end Intellisphere.Foundation
