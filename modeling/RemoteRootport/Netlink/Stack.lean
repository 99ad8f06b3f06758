import RemoteRootport.Netlink.Daemon
import RemoteRootport.Relay.RemoteRc

/-!
# The netlink daemon in front of the stack

`daemon-doe-netlink` takes its operations from datagrams of the kernel and answers
with messages, but behind it stand the same processes as behind `daemon-doe`.  With
whole records on the connection every request the parser accepts is answered, in
order, under its own sequence number, with the operation the device completes; so
the two daemons are interchangeable.
-/

namespace RemoteRootport.Netlink

open RemoteRootport.Bytes
open RemoteRootport.Machine
open RemoteRootport.Wire
open RemoteRootport.DoeEmu
open RemoteRootport.Relay
open RemoteRootport.Service

/-- The operation in a buffer. -/
def opOf (bytes : OpBytes) : ConfigOp :=
  ConfigOp.layout.decode bytes.toList

/-- The buffer that holds an operation. -/
def bytesOf (op : ConfigOp) : OpBytes :=
  (Block.layout ConfigOp.layout.size).decode (ConfigOp.layout.encode op)

theorem toList_bytesOf (op : ConfigOp) : (bytesOf op).toList = ConfigOp.layout.encode op :=
  Block.toList_decode (ConfigOp.layout.length_encode op)

@[simp] theorem opOf_bytesOf (op : ConfigOp) : opOf (bytesOf op) = op := by
  rw [opOf, toList_bytesOf, ConfigOp.layout.decode_encode]

/-- What is sent for a buffer are its own bytes. -/
theorem encode_opOf (bytes : OpBytes) : ConfigOp.layout.encode (opOf bytes) = bytes.toList :=
  ConfigOp.exact_layout bytes.toList bytes.length_toList

/-- The loop of `daemon-doe-netlink`.  One `op` serves as request, receive buffer
and response; a datagram the parser refuses may still change `req`. -/
def netlinkDaemon (self : Identity) : Client Locals Datagram ConfigOp ConfigOp Response where
  take locals datagram :=
    match nlRecvRequest locals datagram with
    | .refused next => some (next, none)
    | .request next => some (next, some (opOf next.op))
    | .hangs => none
  put locals op :=
    ({ locals with op := bytesOf op }, nlSendResponse self locals.req (bytesOf op))

/-- The requests of a list of datagrams, up to the first the parser never comes back
from. -/
def requestsOf (datagrams : List Datagram) : List Locals :=
  (datagrams.takeWhile fun datagram => !datagram.hangs).filterMap Datagram.request

/-- The operations asked for. -/
def opsOf (datagrams : List Datagram) : List ConfigOp :=
  (requestsOf datagrams).map fun request => opOf request.op

/-- The messages that answer requests with completed operations. -/
def responsesTo (self : Identity) (datagrams : List Datagram) (completed : List ConfigOp) :
    List Response :=
  List.zipWith (fun request op => nlSendResponse self request.req (bytesOf op))
    (requestsOf datagrams) completed

theorem requestsOf_refused {datagram : Datagram} (rest : List Datagram)
    (ends : datagram.hangs = false) (refused : datagram.request = none) :
    requestsOf (datagram :: rest) = requestsOf rest := by
  rw [requestsOf, List.takeWhile_cons, ends, Bool.not_false, if_pos rfl,
    List.filterMap_cons_none refused]
  rfl

theorem requestsOf_request {datagram : Datagram} {found : Locals} (rest : List Datagram)
    (ends : datagram.hangs = false) (request : datagram.request = some found) :
    requestsOf (datagram :: rest) = found :: requestsOf rest := by
  rw [requestsOf, List.takeWhile_cons, ends, Bool.not_false, if_pos rfl,
    List.filterMap_cons_some request]
  rfl

theorem requestsOf_hangs {datagram : Datagram} (rest : List Datagram)
    (hangs : datagram.hangs = true) : requestsOf (datagram :: rest) = [] := by
  rw [requestsOf, List.takeWhile_cons, hangs]
  rfl

/-- Against a process that answers everything the daemon answers every request it
reaches with what its operations become one after the other. -/
theorem converse_netlink {State : Type} (self : Identity)
    (answer : State → ConfigOp → State × ConfigOp) (locals : Locals) (state : State)
    (datagrams : List Datagram) :
    converse (netlinkDaemon self) (total answer) locals state datagrams =
      some (responsesTo self datagrams (Transducer.specRun answer state (opsOf datagrams)).2) := by
  induction datagrams generalizing locals state with
  | nil => rfl
  | cons datagram rest ih =>
      have taken : (netlinkDaemon self).take locals datagram =
          match nlRecvRequest locals datagram with
          | .refused next => some (next, none)
          | .request next => some (next, some (opOf next.op))
          | .hangs => none := rfl
      rcases nlRecvRequest_cases locals datagram with
        ⟨next, parsed, ends, request⟩ | ⟨next, parsed, ends, request⟩ | ⟨parsed, hangs⟩
      · rw [parsed] at taken
        rw [converse_skip rest taken, ih, responsesTo, responsesTo, opsOf, opsOf,
          requestsOf_refused rest ends request]
      · rw [parsed] at taken
        have served : total answer state (opOf next.op) = some (answer state (opOf next.op)) := rfl
        rw [converse_ask rest taken served, ih, responsesTo, responsesTo, opsOf, opsOf,
          requestsOf_request rest ends request]
        rfl
      · rw [parsed] at taken
        rw [converse_stop rest taken, responsesTo, requestsOf_hangs rest hangs]
        rfl

/-! ## The loop on whole records -/

theorem requestsOf_map (turns : List Turn) :
    requestsOf (turns.map Turn.datagram) =
      (reached turns).filterMap fun turn => turn.datagram.request := by
  rw [requestsOf, List.takeWhile_map, List.filterMap_map]
  rfl

/-- What an iteration with whole records sends and answers. -/
theorem answerWith_whole (self : Identity) {turn : Turn} (whole : turn.Whole) (found : Locals) :
    (answerWith self turn found).exchange.sent = ConfigOp.layout.encode (opOf found.op) ∧
      (answerWith self turn found).response = nlSendResponse self found.req
        (bytesOf (ConfigOp.layout.decode (answerWith self turn found).exchange.received)) := by
  have genuine := (exchangeOnce_genuine_iff found.op turn).mpr whole
  constructor
  · rw [encode_opOf]
    exact genuine.1
  · have same : bytesOf (ConfigOp.layout.decode (exchangeOnce found.op turn).received) =
        (exchangeOnce found.op turn).response := by
      apply Vector.toList_inj.mp
      rw [toList_bytesOf, ConfigOp.exact_layout _ genuine.2.1, genuine.2.2]
    exact congrArg (nlSendResponse self found.req) same.symm

/-- Where both socket calls move whole records, the main loop is the client: it sends the
operations asked for and answers with those it has received. -/
theorem mainLoop_whole (self : Identity) (locals : Locals) {turns : List Turn}
    (whole : ∀ turn ∈ reached turns, turn.datagram.request ≠ none → turn.Whole) :
    let answers := mainLoop self locals turns
    answers.map (fun answer => answer.exchange.sent) =
        (opsOf (turns.map Turn.datagram)).map ConfigOp.layout.encode ∧
      answers.map (fun answer => answer.response) =
        responsesTo self (turns.map Turn.datagram)
          (answers.map fun answer => ConfigOp.layout.decode answer.exchange.received) := by
  simp only [mainLoop_eq, opsOf, responsesTo, requestsOf_map]
  generalize reached turns = iterations at whole
  induction iterations with
  | nil => exact ⟨rfl, rfl⟩
  | cons turn rest ih =>
      rcases List.forall_mem_cons.mp whole with ⟨first, others⟩
      rcases ih others with ⟨sent, responses⟩
      cases request : turn.datagram.request with
      | none =>
          have unanswered : answerTo self turn = none := by
            rw [answerTo, request]
            rfl
          simp only [List.filterMap_cons, unanswered, request]
          exact ⟨sent, responses⟩
      | some found =>
          have answered : answerTo self turn = some (answerWith self turn found) := by
            rw [answerTo, request]
            rfl
          have wholeTurn : turn.Whole := by
            apply first
            rw [request]
            exact Option.some_ne_none found
          rcases answerWith_whole self wholeTurn found with ⟨sentFirst, responseFirst⟩
          simp only [List.filterMap_cons, answered, request, List.map_cons, List.zipWith_cons_cons]
          exact ⟨by rw [sentFirst, sent], by rw [responseFirst, responses]⟩

/-! ## The three processes -/

variable (table : List Protocol) (self : Identity)

/-- The next step of `daemon-doe-netlink`, `thin-server` or `doe-emu`. -/
def netlinkStep :
    Conversation Locals Datagram Response StackPoint → Service.Turn (Hop Nat) →
      Option (Conversation Locals Datagram Response StackPoint) :=
  Conversation.step (netlinkDaemon self) operations wholeCalls (stackStep table)

/-- What the daemon gets from the stack is what the device completes. -/
theorem converse_netlink_stack (locals : Locals) (datagrams : List Datagram) :
    converse (netlinkDaemon self) (thinServer.over (emulate table)) locals (0, Doe.zero) datagrams =
      some (responsesTo self datagrams (completions table .unlocated (opsOf datagrams))) := by
  rw [converse_stack, converse_netlink]
  rfl

/-- Under every schedule of `daemon-doe-netlink`, `thin-server` and `doe-emu` the
messages sent to the kernel answer the requests it reaches in order, each under its
own sequence number and with the operation the device completes; a schedule can go
on until all are answered and not for ever. -/
theorem netlink_refines_device (locals : Locals) (datagrams : List Datagram)
    {turns : List (Service.Turn (Hop Nat))}
    {final : Conversation Locals Datagram Response StackPoint}
    (executed : execute (netlinkStep table self) (.start datagrams locals stackStart) turns =
      some final) :
    let responses :=
      responsesTo self datagrams (completions table .unlocated (opsOf datagrams))
    final.delivered <+: responses ∧
      turns.length ≤ datagrams.length * jobWork (stackServing table) ∧
      (final.delivered ≠ responses → ∃ turn next, netlinkStep table self final turn = some next) :=
  conversation_delivers (stackServing table) wholeCalls (stackStart_idle table)
    (converse_netlink_stack table self locals datagrams) executed

/-- The kernel asks for the read of `readRequest`. -/
def readDatagram : Datagram :=
  .ofBytes readRequest fun _ => 0

/-- The request on its way to the emulator and back. -/
def readTurns : List (Service.Turn (Hop Nat)) :=
  [.client 0, .client 16, .server (.relay 9), .server (.relay 7), .server (.relay 344),
    .server (.beyond 344), .server (.beyond 344), .server (.relay 344), .server (.relay 16),
    .client 16, .client 0]

theorem readTurns_finish :
    (execute (netlinkStep protocols ⟨29, 4242⟩) (.start [readDatagram] Locals.zero stackStart)
      readTurns).map (fun final => final.delivered.length) = some 1 := by
  decide +kernel

theorem read_answered :
    ∃ final, execute (netlinkStep protocols ⟨29, 4242⟩)
        (.start [readDatagram] Locals.zero stackStart) readTurns = some final ∧
      final.delivered = responsesTo ⟨29, 4242⟩ [readDatagram]
        (completions protocols .unlocated (opsOf [readDatagram])) := by
  rcases Option.map_eq_some_iff.mp readTurns_finish with ⟨final, executed, one⟩
  have delivered :=
    (netlink_refines_device protocols ⟨29, 4242⟩ Locals.zero [readDatagram] executed).1
  exact ⟨final, executed, delivered.eq_of_length (one.trans (by decide +kernel))⟩

/-- The daemon in front of `remote-rc`, which completes every operation on the
spot. -/
theorem netlink_remote_completes (locals : Locals) (datagrams : List Datagram)
    {turns : List (Service.Turn Nat)}
    {final : Conversation Locals Datagram Response (Responder Unit)}
    (executed : execute (Conversation.step (netlinkDaemon self) operations wholeCalls remoteRc)
      (.start datagrams locals remoteStart) turns = some final) :
    let responses := responsesTo self datagrams ((opsOf datagrams).map remoteAnswer)
    final.delivered <+: responses ∧
      turns.length ≤ datagrams.length * jobWork remoteServing ∧
      (final.delivered ≠ responses →
        ∃ turn next,
          final.step (netlinkDaemon self) operations wholeCalls remoteRc turn = some next) := by
  have conversed := converse_netlink self (fun (_ : Unit) op => ((), remoteAnswer op)) locals ()
    datagrams
  rw [specRun_remote] at conversed
  exact conversation_delivers remoteServing wholeCalls remoteStart_idle conversed executed

theorem read_completed_by_remote :
    ∃ final, execute
        (Conversation.step (netlinkDaemon ⟨29, 4242⟩) operations wholeCalls remoteRc)
        (.start [readDatagram] Locals.zero remoteStart)
        [.client 0, .client 16, .server 16, .server 16, .client 16, .client 0] = some final ∧
      final.delivered.map (fun response => opOf response.op) =
        [⟨0x14, 0x1a4, 0xdeadbeef, 0⟩] := by
  have finished : (execute
      (Conversation.step (netlinkDaemon ⟨29, 4242⟩) operations wholeCalls remoteRc)
      (.start [readDatagram] Locals.zero remoteStart)
      [.client 0, .client 16, .server 16, .server 16, .client 16, .client 0]).map
        (fun final => final.delivered.length) = some 1 := by
    decide +kernel
  rcases Option.map_eq_some_iff.mp finished with ⟨final, executed, one⟩
  have delivered := (netlink_remote_completes ⟨29, 4242⟩ Locals.zero [readDatagram] executed).1
  refine ⟨final, executed, ?_⟩
  rw [delivered.eq_of_length (one.trans (by decide +kernel))]
  decide +kernel

/-! ## The two daemons -/

/-- The operations in the responses. -/
theorem map_op_responsesTo {datagrams : List Datagram} {completed : List ConfigOp}
    (length : completed.length = (requestsOf datagrams).length) :
    (responsesTo self datagrams completed).map (fun response => opOf response.op) = completed := by
  have carried : ∀ (request : Locals) op,
      opOf (nlSendResponse self request.req (bytesOf op)).op = op := fun _ op => opOf_bytesOf op
  have second : ((requestsOf datagrams).zip completed).map Prod.snd = List.zipWith _ _ _ :=
    List.map_zip_eq_zipWith
  rw [responsesTo, List.map_zipWith]
  simp only [carried]
  exact second.symm.trans (List.map_snd_zip (Nat.le_of_eq length))

end RemoteRootport.Netlink
