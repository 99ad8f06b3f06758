import RemoteRootport.Bytes.Layout
import RemoteRootport.Bytes.Transfer

/-!
# Processes that answer requests

A process that answers requests has a stream it receives them on and a stream it
sends its answers on.  It receives a request in pieces, possibly works on it for a
while, sends the answer in pieces and starts over.  `Serving` says that a step
function does this for a given service; what a process does besides, for instance
to ask other processes, is its own affair as long as the number of steps it takes
for a request is bounded.
-/

namespace RemoteRootport.Service

open RemoteRootport.Bytes

/-! ## System calls -/

/-- Whether a call may move a part of what it is asked to move. -/
inductive Mode where
  | pieces
  | whole
  deriving DecidableEq, Repr

namespace Mode

def allows : Mode → (asked count : Nat) → Bool
  | .pieces, _, _ => true
  | .whole, asked, count => count == asked

theorem allows_self (mode : Mode) (asked : Nat) : mode.allows asked asked = true := by
  cases mode with
  | pieces => rfl
  | whole => exact beq_self_eq_true asked

/-- One call that sends from the bytes left. -/
def send (mode : Mode) (rest stream : List Byte) (count : Nat) :
    Option (List Byte × List Byte) :=
  if mode.allows rest.length count then sendSome rest stream count else none

/-- One call that receives, on the way to `size` bytes. -/
def recv (mode : Mode) (size : Nat) (got stream : List Byte) (count : Nat) :
    Option (List Byte × List Byte) :=
  if mode.allows (size - got.length) count then recvSome size got stream count else none

@[simp] theorem send_pieces (rest stream : List Byte) (count : Nat) :
    Mode.pieces.send rest stream count = sendSome rest stream count := rfl

@[simp] theorem recv_pieces (size : Nat) (got stream : List Byte) (count : Nat) :
    Mode.pieces.recv size got stream count = recvSome size got stream count := rfl

variable {mode : Mode} {size count : Nat} {rest got stream : List Byte}
  {left : List Byte × List Byte}

theorem sendSome_of_send (sent : mode.send rest stream count = some left) :
    sendSome rest stream count = some left :=
  (Option.ite_none_right_eq_some.mp sent).2

theorem recvSome_of_recv (received : mode.recv size got stream count = some left) :
    recvSome size got stream count = some left :=
  (Option.ite_none_right_eq_some.mp received).2

/-- Whatever is left can be sent at once. -/
theorem send_enabled (mode : Mode) (stream : List Byte) (unsent : rest ≠ []) :
    ∃ count left, mode.send rest stream count = some left := by
  refine ⟨rest.length, (rest.drop rest.length, stream ++ rest.take rest.length), ?_⟩
  rw [send, if_pos (mode.allows_self _)]
  exact if_pos ⟨List.length_pos_iff.mpr unsent, Nat.le_refl _⟩

/-- What has arrived in full can be received at once. -/
theorem recv_enabled (mode : Mode) (unfinished : got.length < size)
    (arrived : size ≤ got.length + stream.length) :
    ∃ count left, mode.recv size got stream count = some left := by
  refine ⟨size - got.length, (got ++ stream.take (size - got.length),
    stream.drop (size - got.length)), ?_⟩
  rw [recv, if_pos (mode.allows_self _)]
  exact if_pos ⟨by omega, by omega, by omega⟩

end Mode

/-- How a process makes its calls. -/
structure Calls where
  send : Mode
  recv : Mode
  deriving DecidableEq, Repr

/-! ## Services and their records -/

/-- What a process is for: the answer to a request in a state, and the state after
it.  Where there is none nothing is promised. -/
abbrev Behaviour (State Request Response : Type) : Type :=
  State → Request → Option (State × Response)

/-- A service that answers whatever it is asked. -/
def total {State Request Response : Type} (answer : State → Request → State × Response) :
    Behaviour State Request Response :=
  fun state request => some (answer state request)

/-- The records on the two streams. -/
structure Format (Request Response : Type) where
  requests : Layout Request
  responses : Layout Response
  requests_pos : 0 < requests.size
  responses_pos : 0 < responses.size

/-- A process between its two streams. -/
structure Port (Point : Type) where
  point : Point
  inbound : List Byte
  outbound : List Byte
  deriving DecidableEq, Repr

/-- Where in its loop a process is.  From a request on that it has taken, all that
matters of it is the answer. -/
inductive Phase (State Response : Type) where
  | receiving (state : State) (got : List Byte)
  | working (answer : State × Response) (work : Nat)
  | sending (state : State) (rest : List Byte)

/-- An answer has been sent when nothing of it is left, and the next request can
come. -/
def Phase.sent {State Response : Type} (state : State) : List Byte → Phase State Response :=
  afterSend (.receiving state []) (.sending state)

theorem Phase.sent_of_ne_nil {State Response : Type} (state : State) {rest : List Byte}
    (left : rest ≠ []) : (Phase.sent state rest : Phase State Response) = .sending state rest :=
  afterSend_of_ne_nil _ _ left

variable {State Request Response Point Move : Type}

/-- A process that has taken a request works on it for fewer steps than a limit, or
has the answer ready. -/
def Took (format : Format Request Response) (Runs : Point → Phase State Response → Prop)
    (point : Point) (answer : State × Response) (limit : Nat) : Prop :=
  (∃ work, work < limit ∧ Runs point (.working answer work)) ∨
    Runs point (.sending answer.1 (format.responses.encode answer.2))

/-- A step function that provides a service. -/
structure Serving (format : Format Request Response) (service : Behaviour State Request Response)
    (step : Port Point → Move → Option (Port Point)) where
  /-- Where in its loop a process at some point is. -/
  Runs : Point → Phase State Response → Prop
  /-- More than the steps from a request to its answer. -/
  bound : Nat
  receive : ∀ {port next : Port Point} {move : Move} {state : State} {got : List Byte},
    Runs port.point (.receiving state got) → step port move = some next →
    ∃ count got',
      recvSome format.requests.size got port.inbound count = some (got', next.inbound) ∧
      next.outbound = port.outbound ∧
      (got'.length < format.requests.size → Runs next.point (.receiving state got')) ∧
      ∀ request answer, got' = format.requests.encode request →
        service state request = some answer → Took format Runs next.point answer bound
  work : ∀ {port next : Port Point} {move : Move} {answer : State × Response} {work : Nat},
    Runs port.point (.working answer work) → step port move = some next →
    next.inbound = port.inbound ∧ next.outbound = port.outbound ∧
      Took format Runs next.point answer work
  send : ∀ {port next : Port Point} {move : Move} {state : State} {rest : List Byte},
    Runs port.point (.sending state rest) → step port move = some next →
    ∃ count rest', sendSome rest port.outbound count = some (rest', next.outbound) ∧
      next.inbound = port.inbound ∧ Runs next.point (.sent state rest')
  receives : ∀ {port : Port Point} {state : State} {got : List Byte},
    Runs port.point (.receiving state got) → got.length < format.requests.size →
    format.requests.size ≤ got.length + port.inbound.length →
    ∃ move next, step port move = some next
  works : ∀ {port : Port Point} {answer : State × Response} {work : Nat},
    Runs port.point (.working answer work) → ∃ move next, step port move = some next
  sends : ∀ {port : Port Point} {state : State} {rest : List Byte},
    Runs port.point (.sending state rest) → rest ≠ [] → ∃ move next, step port move = some next

end RemoteRootport.Service
