import Mathlib.Data.List.TakeDrop
import RemoteRootport.Bytes.Transfer
import RemoteRootport.Machine.Schedule

/-!
# Socket calls that may fail or fall short

One `send` or `recv` call reports an error, or moves some of the bytes it was
asked to move.  The loops that call until a whole record has been moved give up
at the first call that moves nothing; when they return, the record has been moved
in full, and their calls are the pieces in which it crossed a stream.
-/

namespace RemoteRootport.Bytes

open RemoteRootport.Machine

/-- What a `send` call reports. -/
inductive SendResult where
  | failed
  | accepted (count : Nat)
  deriving DecidableEq, Repr

/-- How many of `size` bytes a `send` call has taken. -/
def SendResult.count (size : Nat) : SendResult → Nat
  | .failed => 0
  | .accepted count => min count size

/-- The bytes of `rest` a `send` call has taken. -/
def SendResult.taken (rest : List Byte) (result : SendResult) : List Byte :=
  rest.take (result.count rest.length)

/-- What a `recv` call reports; no bytes mean the end of the stream. -/
inductive RecvResult where
  | failed
  | received (bytes : List Byte)
  deriving DecidableEq, Repr

/-- The bytes a `recv` call has stored, `size` at most. -/
def RecvResult.stored (size : Nat) : RecvResult → List Byte
  | .failed => []
  | .received bytes => bytes.take size

/-- Call `send` until nothing is left; `none` if a call takes nothing or the calls
run out.  The result is what was taken. -/
def sendAll (rest : List Byte) (results : List SendResult) : Option (List Byte) :=
  match rest, results with
  | [], _ => some []
  | _ :: _, [] => none
  | byte :: rest, result :: later =>
      match result.taken (byte :: rest) with
      | [] => none
      | piece => (sendAll ((byte :: rest).drop piece.length) later).map (piece ++ ·)

/-- Call `recv` until `size` bytes are there; `none` if a call stores nothing or
the calls run out. -/
def recvAll (size : Nat) (results : List RecvResult) : Option (List Byte) :=
  match size, results with
  | 0, _ => some []
  | _ + 1, [] => none
  | size + 1, result :: later =>
      match result.stored (size + 1) with
      | [] => none
      | piece => (recvAll (size + 1 - piece.length) later).map (piece ++ ·)

theorem SendResult.count_le (size : Nat) (result : SendResult) : result.count size ≤ size := by
  cases result with
  | failed => exact Nat.zero_le size
  | accepted count => exact Nat.min_le_right count size

theorem SendResult.length_taken (rest : List Byte) (result : SendResult) :
    (result.taken rest).length = result.count rest.length := by
  rw [taken, List.length_take, Nat.min_eq_left (result.count_le rest.length)]

theorem SendResult.taken_eq_self (rest : List Byte) (result : SendResult) :
    result.taken rest = rest ↔ result.count rest.length = rest.length := by
  rw [taken, List.take_eq_self_iff]
  exact ⟨Nat.le_antisymm (result.count_le rest.length), Nat.le_of_eq ∘ Eq.symm⟩

theorem RecvResult.length_stored_le (size : Nat) (result : RecvResult) :
    (result.stored size).length ≤ size := by
  cases result with
  | failed => exact Nat.zero_le size
  | received bytes => exact List.length_take_le size bytes

theorem sendAll_cons {byte : Byte} {rest sent : List Byte} {result : SendResult}
    {later : List SendResult} (returned : sendAll (byte :: rest) (result :: later) = some sent) :
    result.taken (byte :: rest) ≠ [] ∧ ∃ others,
      sendAll ((byte :: rest).drop (result.taken (byte :: rest)).length) later = some others ∧
        sent = result.taken (byte :: rest) ++ others := by
  rw [sendAll] at returned
  cases taken : result.taken (byte :: rest) with
  | nil =>
      rw [taken] at returned
      cases returned
  | cons first piece =>
      rw [taken] at returned
      rcases Option.map_eq_some_iff.mp returned with ⟨others, continued, whole⟩
      exact ⟨List.cons_ne_nil _ _, others, continued, whole.symm⟩

theorem recvAll_succ {size : Nat} {got : List Byte} {result : RecvResult}
    {later : List RecvResult} (returned : recvAll (size + 1) (result :: later) = some got) :
    result.stored (size + 1) ≠ [] ∧ ∃ others,
      recvAll (size + 1 - (result.stored (size + 1)).length) later = some others ∧
        got = result.stored (size + 1) ++ others := by
  rw [recvAll] at returned
  cases stored : result.stored (size + 1) with
  | nil =>
      rw [stored] at returned
      cases returned
  | cons first piece =>
      rw [stored] at returned
      rcases Option.map_eq_some_iff.mp returned with ⟨others, continued, whole⟩
      exact ⟨List.cons_ne_nil _ _, others, continued, whole.symm⟩

/-- A `sendAll` that returns has handed over everything. -/
theorem sendAll_eq_some {rest sent : List Byte} {results : List SendResult}
    (returned : sendAll rest results = some sent) : sent = rest := by
  induction results generalizing rest sent with
  | nil =>
      cases rest with
      | nil =>
          cases returned
          rfl
      | cons byte rest => cases returned
  | cons result later ih =>
      cases rest with
      | nil =>
          cases returned
          rfl
      | cons byte rest =>
          rcases sendAll_cons returned with ⟨-, others, continued, rfl⟩
          rw [ih continued, SendResult.length_taken]
          exact List.take_append_drop _ _

/-- A `recvAll` that returns has stored exactly what was asked for. -/
theorem recvAll_eq_some {size : Nat} {got : List Byte} {results : List RecvResult}
    (returned : recvAll size results = some got) : got.length = size := by
  induction results generalizing size got with
  | nil =>
      cases size with
      | zero =>
          cases returned
          rfl
      | succ size => cases returned
  | cons result later ih =>
      cases size with
      | zero =>
          cases returned
          rfl
      | succ size =>
          rcases recvAll_succ returned with ⟨-, others, continued, rfl⟩
          rw [List.length_append, ih continued]
          exact Nat.add_sub_cancel' (RecvResult.length_stored_le (size + 1) result)

/-! ## The calls as pieces -/

/-- The calls of a `sendAll` that returns hand a record over to a stream in pieces. -/
theorem execute_sendAll {rest sent : List Byte} {results : List SendResult}
    (returned : sendAll rest results = some sent) (stream : List Byte) :
    ∃ counts, execute (fun pieces count => sendSome pieces.1 pieces.2 count) (rest, stream) counts =
      some ([], stream ++ sent) := by
  induction results generalizing rest sent stream with
  | nil =>
      cases rest with
      | nil =>
          cases returned
          exact ⟨[], by rw [List.append_nil]; rfl⟩
      | cons byte rest => cases returned
  | cons result later ih =>
      cases rest with
      | nil =>
          cases returned
          exact ⟨[], by rw [List.append_nil]; rfl⟩
      | cons byte rest =>
          rcases sendAll_cons returned with ⟨moves, others, continued, rfl⟩
          generalize pieceEq : result.taken (byte :: rest) = piece at moves continued ⊢
          have start : (byte :: rest).take piece.length = piece := by
            rw [← pieceEq, SendResult.length_taken]
            rfl
          have short : piece.length ≤ (byte :: rest).length := by
            rw [← pieceEq, SendResult.length_taken]
            exact result.count_le _
          have sent : sendSome (byte :: rest) stream piece.length =
              some ((byte :: rest).drop piece.length, stream ++ piece) := by
            rw [sendSome, if_pos ⟨List.length_pos_iff.mpr moves, short⟩, start]
          rcases ih continued (stream ++ piece) with ⟨counts, executed⟩
          refine ⟨piece.length :: counts, ?_⟩
          rw [execute, sent, ← List.append_assoc]
          exact executed

theorem execute_recvAll_behind {size total : Nat} {got before : List Byte}
    {results : List RecvResult} (returned : recvAll size results = some got)
    (sized : total = before.length + size) (more : List Byte) :
    ∃ counts, execute (fun pieces count => recvSome total pieces.1 pieces.2 count)
      (before, got ++ more) counts = some (before ++ got, more) := by
  induction results generalizing size got before with
  | nil =>
      cases size with
      | zero =>
          cases returned
          exact ⟨[], by rw [List.append_nil]; rfl⟩
      | succ size => cases returned
  | cons result later ih =>
      cases size with
      | zero =>
          cases returned
          exact ⟨[], by rw [List.append_nil]; rfl⟩
      | succ size =>
          rcases recvAll_succ returned with ⟨moves, others, continued, rfl⟩
          have fits := RecvResult.length_stored_le (size + 1) result
          generalize result.stored (size + 1) = piece at moves fits continued ⊢
          have there : piece.length ≤ (piece ++ others ++ more).length := by
            rw [List.append_assoc, List.length_append]
            exact Nat.le_add_right _ _
          have received : recvSome total before (piece ++ others ++ more) piece.length =
              some (before ++ piece, others ++ more) := by
            rw [recvSome, if_pos ⟨List.length_pos_iff.mpr moves, there, by omega⟩,
              List.append_assoc, List.take_left, List.drop_left]
          have left : total = (before ++ piece).length + (size + 1 - piece.length) := by
            rw [List.length_append]
            omega
          rcases ih continued left with ⟨counts, executed⟩
          refine ⟨piece.length :: counts, ?_⟩
          rw [execute, received, ← List.append_assoc before]
          exact executed

/-- The calls of a `recvAll` that returns take a record from a stream in pieces. -/
theorem execute_recvAll {size : Nat} {got : List Byte} {results : List RecvResult}
    (returned : recvAll size results = some got) (more : List Byte) :
    ∃ counts, execute (fun pieces count => recvSome size pieces.1 pieces.2 count)
      ([], got ++ more) counts = some (got, more) := by
  have sized : size = ([] : List Byte).length + size := (Nat.zero_add size).symm
  exact execute_recvAll_behind returned sized more

end RemoteRootport.Bytes
