import RemoteRootport.Bytes.LittleEndian

/-!
# Records under way on a byte stream

A record crosses a reliable in-order stream in pieces: the sender hands over some
positive number of the bytes it has left, the receiver takes some positive number
of those in the stream and never more than it still wants.  Whatever the sizes of
the pieces, what was received, what is in the stream and what is left to send
always spell the record.
-/

namespace RemoteRootport.Bytes

/-- One accepted piece of the bytes left to send. -/
def sendSome (rest stream : List Byte) (count : Nat) : Option (List Byte × List Byte) :=
  if 0 < count ∧ count ≤ rest.length then
    some (rest.drop count, stream ++ rest.take count)
  else
    none

/-- One received piece, on the way to `size` bytes. -/
def recvSome (size : Nat) (got stream : List Byte) (count : Nat) :
    Option (List Byte × List Byte) :=
  if 0 < count ∧ count ≤ stream.length ∧ got.length + count ≤ size then
    some (got ++ stream.take count, stream.drop count)
  else
    none

/-- Where a sender is after a piece: done once nothing is left. -/
def afterSend {Point : Type} (done : Point) (sending : List Byte → Point) :
    List Byte → Point
  | [] => done
  | rest => sending rest

theorem afterSend_of_ne_nil {Point : Type} (done : Point) (sending : List Byte → Point)
    {rest : List Byte} (left : rest ≠ []) : afterSend done sending rest = sending rest := by
  cases rest with
  | nil => exact absurd rfl left
  | cons byte rest => rfl

/-- The pieces of one record: received, in the stream, still to be sent. -/
def InTransit (record rest stream got : List Byte) : Prop :=
  got ++ stream ++ rest = record

@[simp] theorem recvSome_nil (size : Nat) (got : List Byte) (count : Nat) :
    recvSome size got [] count = none := by
  apply if_neg
  intro bounds
  have small := bounds.2.1
  rw [List.length_nil] at small
  omega

/-- A receiver on an empty stream is blocked. -/
theorem recv_blocked {Next : Type} {size : Nat} {got : List Byte} {count : Nat}
    {outcome : List Byte × List Byte → Next} {next : Next}
    (received : (recvSome size got [] count).map outcome = some next) : False := by
  rw [recvSome_nil] at received
  cases received

/-- A call gets a byte that is in the stream. -/
theorem recvSome_cons {size : Nat} {got : List Byte} (unfinished : got.length < size) (byte : Byte)
    (stream : List Byte) : ∃ pieces, recvSome size got (byte :: stream) 1 = some pieces :=
  ⟨_, if_pos ⟨Nat.zero_lt_one, Nat.succ_le_succ (Nat.zero_le _), unfinished⟩⟩

/-- A transfer that moves a piece has an outcome. -/
theorem transfer_enabled {Next : Type} {transfer : Option (List Byte × List Byte)}
    (moved : ∃ pieces, transfer = some pieces) (outcome : List Byte × List Byte → Next) :
    ∃ next, transfer.map outcome = some next := by
  rcases moved with ⟨pieces, rfl⟩
  exact ⟨outcome pieces, rfl⟩

theorem length_append_take (got : List Byte) {stream : List Byte} {count : Nat}
    (bound : count ≤ stream.length) : (got ++ stream.take count).length = got.length + count := by
  rw [List.length_append, List.length_take, Nat.min_eq_left bound]

theorem sendSome_eq_some {rest stream : List Byte} {count : Nat}
    {left : List Byte × List Byte} (sent : sendSome rest stream count = some left) :
    0 < count ∧ count ≤ rest.length ∧ left = (rest.drop count, stream ++ rest.take count) := by
  rw [sendSome, Option.ite_none_right_eq_some] at sent
  rcases sent with ⟨bounds, pieces⟩
  cases pieces
  exact ⟨bounds.1, bounds.2, rfl⟩

theorem recvSome_eq_some {size : Nat} {got stream : List Byte} {count : Nat}
    {left : List Byte × List Byte} (received : recvSome size got stream count = some left) :
    0 < count ∧ count ≤ stream.length ∧ got.length + count ≤ size ∧
      left = (got ++ stream.take count, stream.drop count) := by
  rw [recvSome, Option.ite_none_right_eq_some] at received
  rcases received with ⟨bounds, pieces⟩
  cases pieces
  exact ⟨bounds.1, bounds.2.1, bounds.2.2, rfl⟩

namespace InTransit

variable {record rest stream got : List Byte} {count : Nat}

/-- A record about to be sent. -/
theorem start (record : List Byte) : InTransit record record [] [] :=
  rfl

theorem length (transit : InTransit record rest stream got) :
    got.length + stream.length + rest.length = record.length := by
  rw [← congrArg List.length transit, List.length_append, List.length_append]

variable {Next : Type} {outcome : List Byte × List Byte → Next} {next : Next}

/-- Sending moves bytes into the stream and leaves fewer to send. -/
theorem send (transit : InTransit record rest stream got)
    (sent : (sendSome rest stream count).map outcome = some next) :
    ∃ rest' stream', outcome (rest', stream') = next ∧ InTransit record rest' stream' got ∧
      rest'.length < rest.length := by
  rcases Option.map_eq_some_iff.mp sent with ⟨left, pieces, result⟩
  rcases sendSome_eq_some pieces with ⟨positive, bound, rfl⟩
  refine ⟨_, _, result, ?_, ?_⟩
  · rw [InTransit, ← List.append_assoc, List.append_assoc, List.take_append_drop]
    exact transit
  · rw [List.length_drop]
    omega

/-- Receiving moves bytes out of the stream and never past the record. -/
theorem recv {size : Nat} (transit : InTransit record rest stream got)
    (received : (recvSome size got stream count).map outcome = some next) :
    ∃ got' stream', outcome (got', stream') = next ∧ InTransit record rest stream' got' ∧
      got.length < got'.length ∧ got'.length ≤ size := by
  rcases Option.map_eq_some_iff.mp received with ⟨left, pieces, result⟩
  rcases recvSome_eq_some pieces with ⟨positive, bound, fits, rfl⟩
  have length := length_append_take got bound
  refine ⟨_, _, result, ?_, ?_, ?_⟩
  · rw [InTransit, List.append_assoc got, List.take_append_drop]
    exact transit
  · omega
  · omega

variable {size : Nat}

/-- A record received in full has left nothing behind. -/
theorem complete (transit : InTransit record rest stream got) (sized : record.length = size)
    (full : got.length = size) : got = record ∧ stream = [] ∧ rest = [] := by
  have length := transit.length
  have streamEmpty : stream = [] := List.length_eq_zero_iff.mp (by omega)
  have restEmpty : rest = [] := List.length_eq_zero_iff.mp (by omega)
  refine ⟨?_, streamEmpty, restEmpty⟩
  rw [InTransit, streamEmpty, restEmpty, List.append_nil, List.append_nil] at transit
  exact transit

/-- As long as the record is not complete, there is a byte left to send or one can
be received. -/
theorem progress (transit : InTransit record rest stream got) (sized : record.length = size)
    (unfinished : got.length < size) :
    rest ≠ [] ∨ ∃ pieces, recvSome size got stream 1 = some pieces := by
  have length := transit.length
  cases stream with
  | nil =>
      left
      rw [List.length_nil] at length
      exact List.length_pos_iff.mp (by omega)
  | cons byte stream =>
      right
      refine ⟨_, if_pos ⟨Nat.zero_lt_one, ?_, unfinished⟩⟩
      exact Nat.succ_le_succ (Nat.zero_le _)

/-- An unfinished record of which nothing is in the stream has bytes left to send. -/
theorem unsent (transit : InTransit record rest [] got) (sized : record.length = size)
    (unfinished : got.length < size) : ∃ byte left, rest = byte :: left := by
  have length := transit.length
  cases rest with
  | nil =>
      rw [List.length_nil] at length
      omega
  | cons byte left => exact ⟨byte, left, rfl⟩

/-- What is in the stream is a piece of the record. -/
theorem segment (transit : InTransit record rest stream got) : stream <:+: record :=
  ⟨got, rest, transit⟩

end InTransit

end RemoteRootport.Bytes
