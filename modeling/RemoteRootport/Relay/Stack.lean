import RemoteRootport.DoeEmu.Device
import RemoteRootport.Relay.Chain
import RemoteRootport.Service.Conversation
import RemoteRootport.Service.Relaying
import RemoteRootport.Service.Responding

/-!
# The relay stack as a service

The emulator answers transactions, the thin server is a relay in front of it, and
the daemon is a client of the two.  Together they provide what a DOE device in the
place of the emulator would: the operations the daemon hands back are those the
device itself would have completed.
-/

namespace RemoteRootport.Relay

open RemoteRootport.Bytes
open RemoteRootport.Machine
open RemoteRootport.Wire
open RemoteRootport.DoeEmu
open RemoteRootport.Service

/-! ## The processes -/

/-- The records on the named pipes. -/
def transactions : Format Transaction Transaction :=
  ⟨Transaction.layout, Transaction.layout, by decide, by decide⟩

/-- The records on the TCP connection. -/
def operations : Format ConfigOp ConfigOp :=
  ⟨ConfigOp.layout, ConfigOp.layout, by decide, by decide⟩

variable (table : List Protocol)

/-- What an iteration of `run` answers, as long as it does not leave the loop. -/
def emulate : Behaviour Doe Transaction Transaction := fun doe req =>
  match runStep table doe req with
  | .ok outcome => outcome
  | .error _ => none

variable {table} in
theorem emulate_of_runStep {doe : Doe} {req : Transaction} {outcome : Doe × Transaction}
    (stepped : runStep table doe req = .ok (some outcome)) :
    emulate table doe req = some outcome := by
  rw [emulate, stepped]

/-- `pipe_read`, `pipe_write`, `xrecv`, `xsend`, `xread`, `xwrite`, `recv_all` and
`send_all` are loops over calls that may move a part. -/
def allCalls : Calls := ⟨.pieces, .pieces⟩

/-- The next system call of `doe-emu`. -/
def doeEmu : Port (Responder Doe) → Nat → Option (Port (Responder Doe)) :=
  respondStep transactions allCalls (emulate table)

/-- `serve` keeps the sequence number between two operations. -/
def thinServer : Relay Dword ConfigOp ConfigOp Transaction Transaction where
  translate seq op := (seq + 1, translate (seq + 1) op)
  complete := complete

/-- `thin-server` with `doe-emu` behind it. -/
abbrev StackPoint : Type :=
  RelayPoint Dword ConfigOp (Responder Doe)

/-- The next system call of `thin-server` or of `doe-emu` behind it. -/
def stackStep : Port StackPoint → Hop Nat → Option (Port StackPoint) :=
  relayStep thinServer operations transactions (doeEmu table)

/-- The loop of `daemon-doe`: what the device hands out is sent as it is, and what
comes back is written as it is. -/
def chardevDaemon : Client Unit ConfigOp ConfigOp ConfigOp ConfigOp where
  take _ op := some ((), some op)
  put _ op := ((), op)

/-- `thin-server` in front of `doe-emu`. -/
def stackServing :
    Serving operations (thinServer.over (emulate table)) (stackStep table) :=
  relaying thinServer operations (responding transactions allCalls (emulate table))

/-- Both processes have just been started. -/
def stackStart : Port StackPoint where
  point :=
    { stage := .receiving []
      locals := 0
      port := { point := { loop := .receiving [], state := Doe.zero }, inbound := [], outbound := [] } }
  inbound := []
  outbound := []

theorem stackStart_idle : Idle (stackServing table) (0, Doe.zero) stackStart :=
  idle_relaying operations ⟨rfl, rfl, .receiving⟩

/-! ## The stack stands for a device -/

/-- An operation on a device, as the thin server maps it to configuration space: a
write for `AVERY_OP_WRITE` and a read for everything else. -/
def operate (device : Device) (op : ConfigOp) : Device × ConfigOp :=
  if op.type = averyOpWrite then
    (device.write table op.offset op.value, { op with status := 0, value := 0 })
  else
    ((device.read op.offset).1, { op with status := 0, value := (device.read op.offset).2 })

theorem offsetOf_translate (seq : Dword) (op : ConfigOp) :
    offsetOf (translate seq op) = op.offset := by
  change (op.offset.setWidth 64).setWidth 32 = op.offset
  rw [BitVec.setWidth_setWidth_of_le _ (by decide), BitVec.setWidth_eq]

theorem quits_translate (seq : Dword) (op : ConfigOp) : quits (translate seq op) = false :=
  quits_directly op

/-- What the reply to a transaction completes is what the device completes, if the
transaction asks for the operation. -/
theorem complete_serve (device : Device) {op : ConfigOp} {req : Transaction}
    (kind : req.r0w1 = if op.type = averyOpWrite then 1 else 0)
    (offset : offsetOf req = op.offset) (value : req.firstDword = op.value) :
    ((device.serve table req).1, complete op (replyWith req (device.serve table req).2)) =
      operate table device op := by
  rw [operate]
  by_cases write : op.type = averyOpWrite
  · rw [if_pos write] at kind
    rw [if_pos write, Device.serve_write table device kind, offset, value]
    change (_, complete op (accessReply _)) = _
    rw [complete]
    exact congrArg (fun value => (_, { op with status := 0, value }))
      Transaction.firstDword_zero
  · rw [if_neg write] at kind
    rw [if_neg write, Device.serve_read table device kind, offset]
    change (_, complete op ((accessReply _).setFirstDword _)) = _
    rw [complete, Transaction.firstDword_setFirstDword]
    rfl

/-- The thin server in front of the emulator simulates the device. -/
theorem stack_simulates :
    Simulates (fun state device => Embodies state.2 device)
      (thinServer.over (emulate table)) (total (operate table)) := by
  intro state device op embodies
  rcases state with ⟨seq, doe⟩
  rcases runStep_embodies table embodies (quits_translate (seq + 1) op) with
    ⟨next, stepped, nextEmbodies⟩
  have completed : (_, complete op (replyWith (translate (seq + 1) op) _)) = _ :=
    complete_serve table device rfl (offsetOf_translate (seq + 1) op)
      (Transaction.firstDword_setFirstDword _ _)
  refine ⟨(seq + 1, next), (operate table device op).1, (operate table device op).2, ?_, rfl, ?_⟩
  · have emulated := emulate_of_runStep stepped
    change (emulate table doe (translate (seq + 1) op)).map _ = _
    rw [emulated, ← completed]
    rfl
  · rw [← completed]
    exact nextEmbodies

/-- A client of the stack gets what it would get from the device. -/
theorem converse_stack {Local Job Output : Type}
    (client : Client Local Job ConfigOp ConfigOp Output) (locals : Local) (jobs : List Job) :
    converse client (thinServer.over (emulate table)) locals (0, Doe.zero) jobs =
      converse client (total (operate table)) locals .unlocated jobs := by
  apply converse_of_simulates client (stack_simulates table)
  exact embodies_zero

/-- The operations a device completes. -/
def completions (device : Device) (ops : List ConfigOp) : List ConfigOp :=
  (Transducer.specRun (operate table) device ops).2

theorem length_completions (device : Device) (ops : List ConfigOp) :
    (completions table device ops).length = ops.length := by
  induction ops generalizing device with
  | nil => rfl
  | cons op rest ih => exact congrArg Nat.succ (ih (operate table device op).1)

/-- `daemon-doe` hands back what its operations become one after the other. -/
theorem converse_chardev {State : Type} (answer : State → ConfigOp → State × ConfigOp)
    (state : State) (ops : List ConfigOp) :
    converse chardevDaemon (total answer) () state ops =
      some (Transducer.specRun answer state ops).2 := by
  induction ops generalizing state with
  | nil => rfl
  | cons op rest ih =>
      change (converse chardevDaemon (total answer) () (answer state op).1 rest).map _ = _
      rw [ih]
      rfl

/-! ## The chain is the stack with its daemon -/

def Daemon.view : Daemon → Service.Stage ConfigOp
  | .polling => .idle
  | .sending rest => .exchanging (.asking rest)
  | .receiving got => .exchanging (.awaiting got)
  | .writing op => .delivering op

def Server.view : Server → RelayStage ConfigOp
  | .receiving got => .receiving got
  | .writing op _ rest => .exchanging op (.asking rest)
  | .reading op _ got => .exchanging op (.awaiting got)
  | .sending rest => .sending rest

def Emulator.view : Emulator → Loop
  | .reading got => .receiving got
  | .writing rest => .sending rest
  | .stopped => .stopped

/-- The chain as a client and the process it asks. -/
def System.view (system : System) :
    Conversation Unit ConfigOp ConfigOp StackPoint where
  pending := system.pending
  stage := system.daemon.view
  locals := ()
  port :=
    { point :=
        { stage := system.server.view
          locals := system.seq
          port :=
            { point := { loop := system.emulator.view, state := system.doe }
              inbound := system.requestPipe
              outbound := system.replyPipe } }
      inbound := system.toServer
      outbound := system.toDaemon }
  delivered := system.written

def Turn.view : Turn → Service.Turn (Hop Nat)
  | .daemon count => .client count
  | .server count => .server (.relay count)
  | .emulator count => .server (.beyond count)

theorem Daemon.view_sent (rest : List Byte) :
    (Daemon.sent rest).view = .exchanging (Asker.sent rest) := by
  cases rest with
  | nil => rfl
  | cons byte rest => rfl

theorem Server.view_wrote (op : ConfigOp) (req : Transaction) (rest : List Byte) :
    (Server.wrote op req rest).view = .exchanging op (Asker.sent rest) := by
  cases rest with
  | nil => rfl
  | cons byte rest => rfl

theorem Server.view_sent (rest : List Byte) :
    (Server.sent rest).view = RelayStage.sent rest := by
  cases rest with
  | nil => rfl
  | cons byte rest => rfl

theorem Emulator.view_wrote (rest : List Byte) : (Emulator.wrote rest).view = Loop.sent rest := by
  cases rest with
  | nil => rfl
  | cons byte rest => rfl

/-- The daemon of the chain is the client. -/
theorem view_daemonStep (system : System) (count : Nat) :
    (daemonStep system count).map System.view =
      clientStep chardevDaemon operations allCalls system.view count := by
  rcases system with ⟨pending, daemon, toServer, server, seq, requestPipe, replyPipe, emulator, doe,
    toDaemon, written, exchanges⟩
  cases daemon with
  | polling =>
      cases pending with
      | nil => rfl
      | cons op pending => rfl
  | sending rest =>
      simp only [daemonStep, clientStep, System.view, Daemon.view, Asker.step, allCalls,
        Mode.send_pieces, Option.map_map]
      congr 1
      funext pieces
      simp only [Function.comp_apply, System.view, Conversation.heard_sent, Daemon.view_sent]
  | receiving got =>
      simp only [daemonStep, clientStep, System.view, Daemon.view, Asker.step, allCalls,
        Mode.recv_pieces, Option.map_map]
      congr 1
      funext pieces
      simp only [Function.comp_apply, System.view, Daemon.received, Conversation.heard]
      by_cases full : pieces.1.length = ConfigOp.layout.size
      · simp [full, operations, Daemon.view, chardevDaemon]
      · simp [full, operations, Daemon.view]
  | writing op => rfl

/-- The thin server of the chain is the relay. -/
theorem view_serverStep (system : System) (count : Nat) :
    (serverStep system count).map System.view =
      (stackStep table system.view.port (.relay count)).map
        fun port => { system.view with port } := by
  rcases system with ⟨pending, daemon, toServer, server, seq, requestPipe, replyPipe, emulator, doe,
    toDaemon, written, exchanges⟩
  cases server with
  | receiving got =>
      simp only [serverStep, stackStep, relayStep, System.view, Server.view, Option.map_map]
      congr 1
      funext pieces
      simp only [Function.comp_apply, System.view, serverReceived, RelayPoint.received]
      by_cases full : pieces.1.length = ConfigOp.layout.size
      · simp [full, operations, Server.view, thinServer, transactions]
      · simp [full, operations, Server.view]
  | writing op req rest =>
      simp only [serverStep, stackStep, relayStep, System.view, Server.view, Asker.step, relayCalls,
        Mode.send_pieces, Option.map_map]
      congr 1
      funext pieces
      simp only [Function.comp_apply, System.view, RelayPoint.heard_sent, Server.view_wrote]
  | reading op req got =>
      simp only [serverStep, stackStep, relayStep, System.view, Server.view, Asker.step, relayCalls,
        Mode.recv_pieces, Option.map_map]
      congr 1
      funext pieces
      simp only [Function.comp_apply, System.view, serverReplied, RelayPoint.heard]
      by_cases full : pieces.1.length = Transaction.layout.size
      · simp [full, operations, Server.view, thinServer, transactions]
      · simp [full, transactions, Server.view]
  | sending rest =>
      simp only [serverStep, stackStep, relayStep, System.view, Server.view, Option.map_map]
      congr 1
      funext pieces
      simp only [Function.comp_apply, System.view, Server.view_sent]

/-- The emulator of the chain is the process behind the relay. -/
theorem view_emulatorStep (system : System) (count : Nat) :
    (emulatorStep table system count).map System.view =
      (stackStep table system.view.port (.beyond count)).map
        fun port => { system.view with port } := by
  rcases system with ⟨pending, daemon, toServer, server, seq, requestPipe, replyPipe, emulator, doe,
    toDaemon, written, exchanges⟩
  cases emulator with
  | reading got =>
      simp only [emulatorStep, stackStep, relayStep, doeEmu, respondStep, System.view, Emulator.view,
        allCalls, Mode.recv_pieces, Option.map_map]
      congr 1
      funext pieces
      simp only [Function.comp_apply, emulatorReceived, Responder.received, emulate]
      by_cases full : pieces.1.length = Transaction.layout.size
      · have whole : pieces.1.length = transactions.requests.size := full
        have same : transactions.requests.decode pieces.1 = Transaction.layout.decode pieces.1 := rfl
        rw [if_pos full, if_pos whole, same]
        cases runStep table doe (Transaction.layout.decode pieces.1) with
        | error fault => rfl
        | ok outcome =>
            cases outcome with
            | none => rfl
            | some answer => rfl
      · have part : ¬pieces.1.length = transactions.requests.size := full
        rw [if_neg full, if_neg part]
        rfl
  | writing rest =>
      simp only [emulatorStep, stackStep, relayStep, doeEmu, respondStep, System.view, Emulator.view,
        allCalls, Mode.send_pieces, Option.map_map]
      congr 1
      funext pieces
      simp only [Function.comp_apply, System.view, Emulator.view_wrote]
  | stopped => rfl

/-- A step of the chain is a step of the client and the process it asks. -/
theorem view_step (system : System) (turn : Turn) :
    (step table system turn).map System.view =
      system.view.step chardevDaemon operations allCalls (stackStep table) turn.view := by
  cases turn with
  | daemon count => exact view_daemonStep system count
  | server count => exact view_serverStep table system count
  | emulator count => exact view_emulatorStep table system count

theorem exists_turn (turn : Service.Turn (Hop Nat)) : ∃ turn' : Turn, turn'.view = turn := by
  cases turn with
  | client count => exact ⟨.daemon count, rfl⟩
  | server hop =>
      cases hop with
      | relay count => exact ⟨.server count, rfl⟩
      | beyond count => exact ⟨.emulator count, rfl⟩

/-- Where the client or the process it asks can go on, the chain can. -/
theorem enabled_of_view {system : System}
    (enabled : ∃ turn next, system.view.step chardevDaemon operations allCalls (stackStep table)
      turn = some next) : ∃ turn next, step table system turn = some next := by
  rcases enabled with ⟨turn, next, stepped⟩
  rcases exists_turn turn with ⟨turn, rfl⟩
  have commutes := view_step table system turn
  rw [stepped] at commutes
  rcases Option.map_eq_some_iff.mp commutes with ⟨after, moved, -⟩
  exact ⟨turn, after, moved⟩

/-- What `daemon-doe` gets from the stack is what the device completes. -/
theorem converse_chain (requests : List ConfigOp) :
    converse chardevDaemon (thinServer.over (emulate table)) () (0, Doe.zero) requests =
      some (completions table .unlocated requests) := by
  rw [converse_stack, converse_chardev]
  rfl

/-- Every schedule of the chain is one of the client and the process it asks. -/
theorem execute_view {requests : List ConfigOp} {turns : List Turn} {system : System}
    (executed : execute (step table) (System.start requests) turns = some system) :
    execute (Conversation.step chardevDaemon operations allCalls (stackStep table))
      (.start requests () stackStart) (turns.map Turn.view) = some system.view :=
  execute_map System.view Turn.view (view_step table) executed

/-- What is written back is right so far, and a schedule does not go on for ever. -/
theorem execute_written (requests : List ConfigOp) {turns : List Turn} {system : System}
    (executed : execute (step table) (System.start requests) turns = some system) :
    system.written <+: completions table .unlocated requests ∧
      turns.length ≤ requests.length * jobWork (stackServing table) := by
  rcases conversation_delivers (stackServing table) allCalls (stackStart_idle table)
      (converse_chain table requests) (execute_view table executed) with
    ⟨delivered, bounded, -⟩
  rw [List.length_map] at bounded
  exact ⟨delivered, bounded⟩

/-- As long as something has not been written back, a process can go on. -/
theorem exists_step (requests : List ConfigOp) {turns : List Turn} {system : System}
    (executed : execute (step table) (System.start requests) turns = some system)
    (missing : system.written ≠ completions table .unlocated requests) :
    ∃ turn next, step table system turn = some next := by
  rcases conversation_delivers (stackServing table) allCalls (stackStart_idle table)
      (converse_chain table requests) (execute_view table executed) with ⟨-, -, enabled⟩
  exact enabled_of_view table (enabled missing)

/-- The chain stands for the device.  Under every schedule of `daemon-doe`,
`thin-server` and `doe-emu` the operations written back are, in order, those the
device itself completes when the operations are performed on it one after the
other; a schedule can go on until all of them are written back and not for ever. -/
theorem chain_refines_device (requests : List ConfigOp) {turns : List Turn} {system : System}
    (executed : execute (step table) (System.start requests) turns = some system) :
    system.written <+: completions table .unlocated requests ∧
      turns.length ≤ requests.length * jobWork (stackServing table) ∧
      (system.written ≠ completions table .unlocated requests →
        ∃ turn next, step table system turn = some next) := by
  rcases execute_written table requests executed with ⟨delivered, bounded⟩
  exact ⟨delivered, bounded, exists_step table requests executed⟩

/-- A read of the status register of a capability at 0x190. -/
def pollOp : ConfigOp where
  type := 0x14
  offset := 0x19c
  value := 0
  status := -1

/-- The read on its way to the emulator and back, some records in two pieces. -/
def pollTurns : List Turn :=
  [.daemon 0, .daemon 7, .daemon 9, .server 16, .server 344, .emulator 344, .emulator 344,
    .server 300, .server 44, .server 16, .daemon 16, .daemon 0]

theorem poll_completed :
    ∃ system, execute (step protocols) (System.start [pollOp]) pollTurns = some system ∧
      system.written = completions protocols .unlocated [pollOp] := by
  have finished : (execute (step protocols) (System.start [pollOp]) pollTurns).map
      (fun system => system.written.length) = some 1 := by
    decide +kernel
  rcases Option.map_eq_some_iff.mp finished with ⟨system, executed, one⟩
  have delivered := (chain_refines_device protocols [pollOp] executed).1
  exact ⟨system, executed, delivered.eq_of_length one⟩

end RemoteRootport.Relay
