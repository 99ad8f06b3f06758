import RemoteRootport.Bytes.Layout
import RemoteRootport.Bytes.Socket
import RemoteRootport.Wire.Records

/-!
# The character device daemon under failing calls

The loop of `daemon-doe` when any of its calls may fail or fall short.  One `op`
serves as request, receive buffer and response.  `send_all` and `recv_all` leave
the process unless the whole record was moved, so that a response is written to
the device only if all of it came from the remote.
-/

namespace RemoteRootport.Relay

open RemoteRootport.Bytes
open RemoteRootport.Wire

/-- The bytes of `struct avery_pci_config_op`. -/
abbrev OpBytes := Block ConfigOp.layout.size

/-- One request and what became of it: the bytes taken by the socket, the bytes
received after that, and the response handed to the kernel. -/
structure Exchange where
  request : OpBytes
  sent : List Byte
  received : List Byte
  response : OpBytes
  deriving DecidableEq, Repr

/-- The response is one record received from the remote after the whole request
was sent. -/
def Exchange.Genuine (exchange : Exchange) : Prop :=
  exchange.sent = exchange.request.toList ∧
    exchange.received.length = ConfigOp.layout.size ∧
      exchange.response.toList = exchange.received

instance (exchange : Exchange) : Decidable exchange.Genuine :=
  inferInstanceAs (Decidable (_ ∧ _ ∧ _))

/-- A record received in full replaces whatever the buffer held. -/
theorem toList_store_whole (op : OpBytes) {received : List Byte}
    (whole : received.length = ConfigOp.layout.size) :
    (op.store received).toList = received := by
  have nothing : op.toList.drop received.length = [] := by
    apply List.drop_eq_nil_of_le
    rw [op.length_toList]
    exact Nat.le_of_eq whole.symm
  rw [Block.toList_store op received (Nat.le_of_eq whole), nothing, List.append_nil]

/-! ## The loop -/

/-- `send_all` and `recv_all` on the same record; `none` if one of them does not
return. -/
def transact (request : OpBytes) (send : List SendResult) (recv : List RecvResult) :
    Option Exchange :=
  match sendAll request.toList send, recvAll ConfigOp.layout.size recv with
  | some sent, some received =>
      some { request, sent, received, response := request.store received }
  | _, _ => none

inductive PollResult where
  | failed
  | quiet
  | readable
  deriving DecidableEq, Repr

/-- What the calls of one iteration report. -/
structure DeviceTurn where
  poll : PollResult
  read : RecvResult
  send : List SendResult
  recv : List RecvResult
  written : Bool
  deriving DecidableEq, Repr

/-- One iteration of the loop; `none` once it has been left. -/
def deviceTurn (op : OpBytes) (turn : DeviceTurn) : Option (OpBytes × Option Exchange) :=
  match turn.poll with
  | .failed => none
  | .quiet => some (op, none)
  | .readable =>
      match turn.read.stored ConfigOp.layout.size with
      | [] => none
      | bytes =>
          match transact (op.store bytes) turn.send turn.recv with
          | none => none
          | some exchange =>
              if turn.written then some (exchange.response, some exchange) else none

/-- The exchanges whose response is written to the device. -/
def deviceLoop : OpBytes → List DeviceTurn → List Exchange
  | _, [] => []
  | op, turn :: rest =>
      match deviceTurn op turn with
      | none => []
      | some (next, exchange) => exchange.toList ++ deviceLoop next rest

theorem transact_genuine {request : OpBytes} {send : List SendResult}
    {recv : List RecvResult} {exchange : Exchange}
    (transacted : transact request send recv = some exchange) : exchange.Genuine := by
  rw [transact] at transacted
  split at transacted
  case h_1 sent received sending receiving =>
      cases transacted
      have whole := recvAll_eq_some receiving
      exact ⟨sendAll_eq_some sending, whole, toList_store_whole request whole⟩
  case h_2 => cases transacted

theorem deviceTurn_genuine {op next : OpBytes} {turn : DeviceTurn} {exchange : Exchange}
    (turned : deviceTurn op turn = some (next, some exchange)) : exchange.Genuine := by
  rw [deviceTurn] at turned
  split at turned
  case h_1 => cases turned
  case h_2 => cases turned
  case h_3 =>
      split at turned
      case h_1 => cases turned
      case h_2 =>
          split at turned
          case h_1 => cases turned
          case h_2 _ transacted =>
              rcases Option.ite_none_right_eq_some.mp turned with ⟨-, same⟩
              cases same
              exact transact_genuine transacted

/-- Whatever the calls report, every response written to the device is genuine. -/
theorem deviceLoop_genuine (op : OpBytes) (turns : List DeviceTurn) :
    ∀ exchange ∈ deviceLoop op turns, exchange.Genuine := by
  induction turns generalizing op with
  | nil =>
      intro exchange member
      cases member
  | cons turn rest ih =>
      intro exchange member
      rw [deviceLoop] at member
      split at member
      case h_1 => cases member
      case h_2 next answered turned =>
          rcases List.mem_append.mp member with now | later
          · rw [Option.mem_toList] at now
            cases now
            exact deviceTurn_genuine turned
          · exact ih next exchange later

end RemoteRootport.Relay
