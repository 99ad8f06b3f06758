import RemoteRootport.Bytes.Transfer
import RemoteRootport.Machine.Schedule
import RemoteRootport.Relay.ThinServer

/-!
# The relay chain

`daemon-doe`, `thin-server` and `doe-emu` as processes over the TCP connection
and the two named pipes.  Every system call moves some of the bytes it was asked
to move, so a record is under way in pieces; each process is sequential, and a
schedule chooses at every point which process makes its next system call and how
many bytes that call moves.
-/

namespace RemoteRootport.Relay

open RemoteRootport.Bytes
open RemoteRootport.Machine
open RemoteRootport.Wire
open RemoteRootport.DoeEmu

/-- Where the main loop of `daemon-doe` is. -/
inductive Daemon where
  | polling
  | sending (rest : List Byte)
  | receiving (got : List Byte)
  | writing (op : ConfigOp)
  deriving DecidableEq, Repr

/-- Where the loop of `serve` is. -/
inductive Server where
  | receiving (got : List Byte)
  | writing (op : ConfigOp) (req : Transaction) (rest : List Byte)
  | reading (op : ConfigOp) (req : Transaction) (got : List Byte)
  | sending (rest : List Byte)
  deriving DecidableEq, Repr

/-- Where the loop of `run` is; `stopped` once it has been left. -/
inductive Emulator where
  | reading (got : List Byte)
  | writing (rest : List Byte)
  | stopped
  deriving DecidableEq, Repr

/-- `send_all` returns when nothing is left, and `recv_all` begins. -/
def Daemon.sent : List Byte → Daemon :=
  afterSend (.receiving []) .sending

/-- `recv_all` returns when the operation is complete. -/
def Daemon.received (got : List Byte) : Daemon :=
  if got.length = ConfigOp.layout.size then .writing (ConfigOp.layout.decode got)
  else .receiving got

/-- `xwrite` returns when nothing is left, and `xread` begins. -/
def Server.wrote (op : ConfigOp) (req : Transaction) : List Byte → Server :=
  afterSend (.reading op req []) (.writing op req)

/-- `xsend` returns when nothing is left, and the next `xrecv` begins. -/
def Server.sent : List Byte → Server :=
  afterSend (.receiving []) .sending

/-- `pipe_write` returns when nothing is left, and the next `pipe_read` begins. -/
def Emulator.wrote : List Byte → Emulator :=
  afterSend (.reading []) .writing

/-- The three processes, the four byte streams between them and the device.  The
exchanges record each transaction of the thin server with the reply it consumed
for it; no process reads them. -/
structure System where
  pending : List ConfigOp
  daemon : Daemon
  toServer : List Byte
  server : Server
  seq : Dword
  requestPipe : List Byte
  replyPipe : List Byte
  emulator : Emulator
  doe : Doe
  toDaemon : List Byte
  written : List ConfigOp
  exchanges : List (Transaction × Transaction)
  deriving DecidableEq, Repr

/-- The next system call of `daemon-doe`.  The poll blocks while the device has
nothing to hand out. -/
def daemonStep (system : System) (count : Nat) : Option System :=
  match system.daemon with
  | .polling =>
      match system.pending with
      | [] => none
      | op :: pending =>
          some { system with pending, daemon := .sending (ConfigOp.layout.encode op) }
  | .sending rest =>
      (sendSome rest system.toServer count).map fun (rest, toServer) =>
        { system with toServer, daemon := .sent rest }
  | .receiving got =>
      (recvSome ConfigOp.layout.size got system.toDaemon count).map fun (got, toDaemon) =>
        { system with toDaemon, daemon := .received got }
  | .writing op =>
      some { system with daemon := .polling, written := system.written ++ [op] }

/-- `serve` has some bytes of an operation; from a complete one it builds the
next transaction. -/
def serverReceived (system : System) (got : List Byte) : System :=
  if got.length = ConfigOp.layout.size then
    let op := ConfigOp.layout.decode got
    let seq := system.seq + 1
    let req := translate seq op
    { system with seq, server := .writing op req (Transaction.layout.encode req) }
  else
    { system with server := .receiving got }

/-- `serve` has some bytes of a reply; from a complete one it fills in the
operation. -/
def serverReplied (system : System) (op : ConfigOp) (req : Transaction) (got : List Byte) :
    System :=
  if got.length = Transaction.layout.size then
    let rsp := Transaction.layout.decode got
    { system with
      server := .sending (ConfigOp.layout.encode (complete op rsp))
      exchanges := system.exchanges ++ [(req, rsp)] }
  else
    { system with server := .reading op req got }

/-- The next system call of `thin-server`. -/
def serverStep (system : System) (count : Nat) : Option System :=
  match system.server with
  | .receiving got =>
      (recvSome ConfigOp.layout.size got system.toServer count).map fun (got, toServer) =>
        serverReceived { system with toServer } got
  | .writing op req rest =>
      (sendSome rest system.requestPipe count).map fun (rest, requestPipe) =>
        { system with requestPipe, server := .wrote op req rest }
  | .reading op req got =>
      (recvSome Transaction.layout.size got system.replyPipe count).map fun (got, replyPipe) =>
        serverReplied { system with replyPipe } op req got
  | .sending rest =>
      (sendSome rest system.toDaemon count).map fun (rest, toDaemon) =>
        { system with toDaemon, server := .sent rest }

/-- `run` has some bytes of a transaction; a complete one it answers. -/
def emulatorReceived (table : List Protocol) (system : System) (got : List Byte) : System :=
  if got.length = Transaction.layout.size then
    match runStep table system.doe (Transaction.layout.decode got) with
    | .ok (some (doe, rsp)) =>
        { system with doe, emulator := .writing (Transaction.layout.encode rsp) }
    | _ => { system with emulator := .stopped }
  else
    { system with emulator := .reading got }

/-- The next system call of `doe-emu`. -/
def emulatorStep (table : List Protocol) (system : System) (count : Nat) : Option System :=
  match system.emulator with
  | .reading got =>
      (recvSome Transaction.layout.size got system.requestPipe count).map
        fun (got, requestPipe) => emulatorReceived table { system with requestPipe } got
  | .writing rest =>
      (sendSome rest system.replyPipe count).map fun (rest, replyPipe) =>
        { system with replyPipe, emulator := .wrote rest }
  | .stopped => none

/-- The process that makes its next system call, and the bytes that call moves. -/
inductive Turn where
  | daemon (count : Nat)
  | server (count : Nat)
  | emulator (count : Nat)
  deriving DecidableEq, Repr

def step (table : List Protocol) (system : System) : Turn → Option System
  | .daemon count => daemonStep system count
  | .server count => serverStep system count
  | .emulator count => emulatorStep table system count

/-- Between two operations: every process waits and nothing is under way. -/
def System.resting (pending : List ConfigOp) (seq : Dword) (doe : Doe)
    (written : List ConfigOp) (exchanges : List (Transaction × Transaction)) : System where
  pending := pending
  daemon := .polling
  toServer := []
  server := .receiving []
  seq := seq
  requestPipe := []
  replyPipe := []
  emulator := .reading []
  doe := doe
  toDaemon := []
  written := written
  exchanges := exchanges

/-- The processes have just been started and the device has some operations to
hand out. -/
def System.start (requests : List ConfigOp) : System :=
  .resting requests 0 Doe.zero [] []

/-! ## Complete records -/

theorem daemonReceived_encode (op : ConfigOp) :
    Daemon.received (ConfigOp.layout.encode op) = .writing op := by
  rw [Daemon.received, if_pos (ConfigOp.layout.length_encode op), Layout.decode_encode]

theorem serverReceived_encode (system : System) (op : ConfigOp) :
    serverReceived system (ConfigOp.layout.encode op) =
      { system with
        seq := system.seq + 1
        server := .writing op (translate (system.seq + 1) op)
          (Transaction.layout.encode (translate (system.seq + 1) op)) } := by
  rw [serverReceived, if_pos (ConfigOp.layout.length_encode op), Layout.decode_encode]

theorem serverReplied_encode (system : System) (op : ConfigOp) (req rsp : Transaction) :
    serverReplied system op req (Transaction.layout.encode rsp) =
      { system with
        server := .sending (ConfigOp.layout.encode (complete op rsp))
        exchanges := system.exchanges ++ [(req, rsp)] } := by
  rw [serverReplied, if_pos (Transaction.layout.length_encode rsp), Layout.decode_encode]

theorem emulatorReceived_encode (table : List Protocol) (system : System) {doe : Doe}
    {req rsp : Transaction} (answered : runStep table system.doe req = .ok (some (doe, rsp))) :
    emulatorReceived table system (Transaction.layout.encode req) =
      { system with doe, emulator := .writing (Transaction.layout.encode rsp) } := by
  rw [emulatorReceived, if_pos (Transaction.layout.length_encode req), Layout.decode_encode,
    answered]

end RemoteRootport.Relay
