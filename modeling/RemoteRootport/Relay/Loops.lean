import RemoteRootport.Relay.Chain
import RemoteRootport.Relay.DaemonDoe
import RemoteRootport.Relay.Framing

/-!
# The transfer loops in their three settings

`send_all` and `recv_all` appear as functions of what their calls report, as the two
ends of a link and as system calls of `daemon-doe` in the chain.  Where the function
returns, its calls are a schedule of the link and of the chain that moves the same
bytes.
-/

namespace RemoteRootport.Relay

open RemoteRootport.Bytes
open RemoteRootport.Machine
open RemoteRootport.Wire

/-! ## In the chain -/

/-- The chain with some bytes left to `send_all` and some in the stream to the server. -/
def System.sending (system : System) (pieces : List Byte × List Byte) : System :=
  { system with daemon := .sent pieces.1, toServer := pieces.2 }

/-- The chain with some bytes received by `recv_all` and some in the stream to the
daemon. -/
def System.receiving (system : System) (pieces : List Byte × List Byte) : System :=
  { system with daemon := .received pieces.1, toDaemon := pieces.2 }

theorem daemonStep_sending (system : System) {pieces next : List Byte × List Byte} {count : Nat}
    (sent : sendSome pieces.1 pieces.2 count = some next) :
    daemonStep (system.sending pieces) count = some (system.sending next) := by
  rcases pieces with ⟨rest, stream⟩
  cases rest with
  | nil =>
      rcases sendSome_eq_some sent with ⟨positive, bound, -⟩
      change count ≤ 0 at bound
      omega
  | cons byte rest =>
      change (sendSome (byte :: rest) stream count).map _ = _
      rw [sent]
      rfl

theorem daemonStep_receiving (system : System) {pieces next : List Byte × List Byte} {count : Nat}
    (received : recvSome ConfigOp.layout.size pieces.1 pieces.2 count = some next) :
    daemonStep (system.receiving pieces) count = some (system.receiving next) := by
  rcases recvSome_eq_some received with ⟨positive, -, fits, -⟩
  have waiting : Daemon.received pieces.1 = .receiving pieces.1 := if_neg (by omega)
  rw [System.receiving, waiting]
  change (recvSome ConfigOp.layout.size pieces.1 pieces.2 count).map _ = _
  rw [received]
  rfl

/-- A `send_all` that returns is a run of the daemon of the chain. -/
theorem execute_daemon_send {rest sent : List Byte} {results : List SendResult}
    (returned : sendAll rest results = some sent) {system : System}
    (begun : system.daemon = .sent rest) :
    ∃ counts, execute daemonStep system counts =
      some { system with daemon := .receiving [], toServer := system.toServer ++ sent } := by
  rcases execute_sendAll returned system.toServer with ⟨counts, executed⟩
  have lifted := execute_lift system.sending id (fun _ _ _ => daemonStep_sending system) executed
  have start : system.sending (rest, system.toServer) = system := by
    rw [System.sending, ← begun]
  rw [start] at lifted
  exact ⟨_, lifted⟩

/-- A `recv_all` that returns is a run of the daemon of the chain, if what it received
is in the stream. -/
theorem execute_daemon_recv {got more : List Byte} {results : List RecvResult}
    (returned : recvAll ConfigOp.layout.size results = some got) {system : System}
    (waiting : system.daemon = .receiving []) (arrived : system.toDaemon = got ++ more) :
    ∃ counts, execute daemonStep system counts =
      some { system with daemon := .writing (ConfigOp.layout.decode got), toDaemon := more } := by
  rcases execute_recvAll returned more with ⟨counts, executed⟩
  have lifted :=
    execute_lift system.receiving id (fun _ _ _ => daemonStep_receiving system) executed
  have start : system.receiving ([], got ++ more) = system := by
    change { system with daemon := .receiving [], toDaemon := got ++ more } = system
    rw [← waiting, ← arrived]
  have finish : Daemon.received got = .writing (ConfigOp.layout.decode got) :=
    if_pos (recvAll_eq_some returned)
  rw [start, System.receiving, finish] at lifted
  exact ⟨_, lifted⟩

/-- An exchange of `daemon-doe` whose calls suffice is what the daemon of the chain does
with the same operation: it sends the request, and once the response is there it has it to
write. -/
theorem transact_chain {request : OpBytes} {send : List SendResult} {recv : List RecvResult}
    {exchange : Exchange} (transacted : transact request send recv = some exchange)
    {system : System} :
    (system.daemon = .sent request.toList → ∃ counts, execute daemonStep system counts =
      some { system with
        daemon := .receiving []
        toServer := system.toServer ++ request.toList }) ∧
    ∀ more, system.daemon = .receiving [] → system.toDaemon = exchange.response.toList ++ more →
      ∃ counts, execute daemonStep system counts =
        some { system with
          daemon := .writing (ConfigOp.layout.decode exchange.response.toList)
          toDaemon := more } := by
  have genuine := transact_genuine transacted
  rw [transact] at transacted
  split at transacted
  case h_1 sent received sending receiving =>
      cases transacted
      constructor
      · intro begun
        rw [← genuine.1]
        exact execute_daemon_send sending begun
      · intro more waiting arrived
        rw [genuine.2.2] at arrived ⊢
        exact execute_daemon_recv receiving waiting arrived
  case h_2 => cases transacted

/-! ## On a link -/

namespace Framing

variable {size : Nat} (sender receiver : Loop)

/-- The link with some bytes left to send and some in the stream. -/
def Link.sending (link : Link size) (pieces : List Byte × List Byte) : Link size :=
  { link with rest := pieces.1, stream := pieces.2 }

/-- The link with some bytes received and some in the stream. -/
def Link.receiving (link : Link size) (pieces : List Byte × List Byte) : Link size :=
  { link with got := pieces.1, stream := pieces.2 }

theorem step_sending {link : Link size} (still : link.ended = none)
    {pieces next : List Byte × List Byte} {count : Nat}
    (sent : sendSome pieces.1 pieces.2 count = some next) :
    Link.step sender receiver (link.sending pieces) (.send count) = some (link.sending next) := by
  rcases sendSome_eq_some sent with ⟨positive, bound, -⟩
  have left : pieces.1 ≠ [] := by
    intro nothing
    rw [nothing, List.length_nil] at bound
    omega
  rw [Link.step, Link.sendStep, if_pos ⟨still, left⟩, if_neg (by omega)]
  change (sendSome pieces.1 pieces.2 count).map _ = _
  rw [sent]
  rfl

theorem step_receiving {link : Link size} (alive : link.receiverExited = none)
    (called : link.calls ≠ 0) {pieces next : List Byte × List Byte} {count : Nat}
    (received : recvSome size pieces.1 pieces.2 count = some next) :
    Link.step sender receiver (link.receiving pieces) (.recv count) =
      some (link.receiving next) := by
  rcases recvSome_eq_some received with ⟨positive, -, fits, -⟩
  have unfinished : pieces.1.length < size := by omega
  rw [Link.step, Link.recvStep, if_pos ⟨alive, called, unfinished⟩, if_neg (by omega)]
  change (recvSome size pieces.1 pieces.2 count).map _ = _
  rw [received]
  rfl

/-- A sender that returns is a schedule of the link. -/
theorem execute_link_send {link : Link size} (still : link.ended = none) {sent : List Byte}
    {results : List SendResult} (returned : Bytes.sendAll link.rest results = some sent) :
    ∃ actions, execute (Link.step sender receiver) link actions =
      some { link with rest := [], stream := link.stream ++ sent } := by
  rcases execute_sendAll returned link.stream with ⟨counts, executed⟩
  exact ⟨_, execute_lift link.sending (fun count : Nat => Action.send count)
    (fun _ _ _ => step_sending sender receiver still) executed⟩

/-- A receiver that returns is a schedule of the link, if what it received is in the
stream. -/
theorem execute_link_recv {link : Link size} (alive : link.receiverExited = none)
    (called : link.calls ≠ 0) {got more : List Byte} (fresh : link.got = [])
    (arrived : link.stream = got ++ more) {results : List RecvResult}
    (returned : Bytes.recvAll size results = some got) :
    ∃ actions, execute (Link.step sender receiver) link actions =
      some { link with got, stream := more } := by
  rcases execute_recvAll returned more with ⟨counts, executed⟩
  have lifted := execute_lift link.receiving (fun count : Nat => Action.recv count)
    (fun _ _ _ => step_receiving sender receiver alive called) executed
  have start : link.receiving ([], got ++ more) = link := by
    rw [Link.receiving, ← fresh, ← arrived]
  rw [start] at lifted
  exact ⟨_, lifted⟩

end Framing

end RemoteRootport.Relay
