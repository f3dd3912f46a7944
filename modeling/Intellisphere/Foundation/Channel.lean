import Mathlib.Data.List.Basic

/-! Buffered channels with a close operation, as Go has them: sending waits while the buffer
is full, receiving first drains the buffer and then reports that the channel is closed.
-/

namespace Intellisphere.Foundation

/-- A channel holds at most `capacity` values. -/
structure Channel (α : Type) (capacity : Nat) where
  buffer : List α
  closed : Bool
  bounded : buffer.length ≤ capacity

namespace Channel

variable {α : Type} {capacity : Nat}

/-- A new channel is open and empty. -/
def make : Channel α capacity where
  buffer := []
  closed := false
  bounded := Nat.zero_le capacity

/-- Send a value. There is no result while the buffer is full, and none on a closed channel,
where the sender panics.
-/
def send (channel : Channel α capacity) (value : α) : Option (Channel α capacity) :=
  if room : channel.closed = false ∧ channel.buffer.length < capacity then
    some
      {
        channel with
        buffer := channel.buffer ++ [value]
        bounded := by
          rw [List.length_append]
          exact room.2
      }
  else none

/-- Close the channel. Closing it twice panics. -/
def close (channel : Channel α capacity) : Option (Channel α capacity) :=
  if channel.closed then none else some { channel with closed := true }

/-- What a receive finds. -/
inductive Received (α : Type) (capacity : Nat) where
  | waiting
  | value (value : α) (rest : Channel α capacity)
  | drained

/-- Receive from the channel: the oldest buffered value, or the news that there are no more.
-/
def receive (channel : Channel α capacity) : Received α capacity :=
  match shape : channel.buffer with
  | value :: rest =>
      .value value
        {
          channel with
          buffer := rest
          bounded := by
            have bounded := channel.bounded
            rw [shape, List.length_cons] at bounded
            exact Nat.le_of_succ_le bounded
        }
  | [] => if channel.closed then .drained else .waiting

/-- A closed channel without buffered values. -/
def Drained (channel : Channel α capacity) : Prop :=
  channel.buffer = [] ∧ channel.closed = true

/-- A completed send found room and appended the value. -/
theorem send_spec {channel next : Channel α capacity} {value : α}
    (sent : channel.send value = some next)
    : channel.closed = false
      ∧ next.closed = false
      ∧ next.buffer = channel.buffer ++ [value] := by
  simp only [send] at sent
  split at sent
  next room =>
    obtain rfl := Option.some.inj sent
    exact ⟨room.1, room.1, rfl⟩
  next => contradiction

/-- Closing keeps the buffered values. -/
theorem close_spec {channel next : Channel α capacity} (closing : channel.close = some next)
    : channel.closed = false ∧ next.closed = true ∧ next.buffer = channel.buffer := by
  simp only [close] at closing
  split at closing
  next => contradiction
  next isOpen =>
    obtain rfl := Option.some.inj closing
    exact ⟨Bool.eq_false_iff.mpr isOpen, rfl, rfl⟩

/-- A received value was the oldest in the buffer. -/
theorem receive_value {channel rest : Channel α capacity} {value : α}
    (received : channel.receive = .value value rest)
    : channel.buffer = value :: rest.buffer ∧ rest.closed = channel.closed := by
  simp only [receive] at received
  split at received
  next value' values shape =>
    obtain ⟨rfl, rfl⟩ := Received.value.inj received
    exact ⟨shape, rfl⟩
  next =>
    split at received <;> contradiction

/-- The end of a channel is reported when it is closed and empty. -/
theorem receive_drained_iff {channel : Channel α capacity}
    : channel.receive = .drained ↔ channel.Drained := by
  simp only [receive, Drained]
  split
  next value rest shape => simp [shape]
  next shape => simp [shape]

/-- A receive finds something as long as there is a value. -/
theorem receive_of_buffer {channel : Channel α capacity} {value : α} {values : List α}
    (shape : channel.buffer = value :: values)
    : ∃ rest, channel.receive = .value value rest := by
  simp only [receive]
  split
  next value' rest shape' =>
    obtain ⟨rfl, rfl⟩ := List.cons.inj (shape.symm.trans shape')
    exact ⟨_, rfl⟩
  next empty =>
    rw [empty] at shape
    contradiction

/-- From `before` to `after` the values `put` went in and the values `taken` came out, first
in first out.
-/
def Moves (before after : Channel α capacity) (put taken : List α) : Prop :=
  before.buffer ++ put = taken ++ after.buffer

theorem Moves.refl (channel : Channel α capacity) : channel.Moves channel [] [] :=
  List.append_nil channel.buffer

/-- Movements compose. -/
theorem Moves.trans {before middle after : Channel α capacity}
    {put put' taken taken' : List α} (first : before.Moves middle put taken)
    (second : middle.Moves after put' taken')
    : before.Moves after (put ++ put') (taken ++ taken') := by
  unfold Moves at first second ⊢
  rw [← List.append_assoc, first, List.append_assoc, second, List.append_assoc]

/-- Sending puts one value. -/
theorem Moves.of_send {before after : Channel α capacity} {value : α}
    (sent : before.send value = some after)
    : before.Moves after [value] [] :=
  (send_spec sent).2.2.symm

/-- Closing moves nothing. -/
theorem Moves.of_close {before after : Channel α capacity}
    (closing : before.close = some after)
    : before.Moves after [] [] := by
  unfold Moves
  rw [(close_spec closing).2.2, List.append_nil, List.nil_append]

/-- Receiving takes the oldest value. -/
theorem Moves.of_receive {before after : Channel α capacity} {value : α}
    (received : before.receive = .value value after)
    : before.Moves after [] [value] := by
  unfold Moves
  rw [(receive_value received).1, List.append_nil]
  rfl

/-- From a new channel on, what came out is a prefix of what went in. -/
theorem Moves.taken_prefix {after : Channel α capacity} {put taken : List α}
    (moves : (make : Channel α capacity).Moves after put taken)
    : taken <+: put := by
  unfold Moves make at moves
  exact ⟨after.buffer, moves.symm⟩

/-- Once an empty channel is left, everything that went in came out. -/
theorem Moves.taken_all {after : Channel α capacity} {put taken : List α}
    (moves : (make : Channel α capacity).Moves after put taken) (empty : after.buffer = [])
    : taken = put := by
  unfold Moves make at moves
  rw [empty, List.append_nil] at moves
  exact moves.symm

end Channel

end Intellisphere.Foundation
