import RemoteRootport.Netlink.Parser
import RemoteRootport.Relay.DaemonDoe

/-!
# The netlink daemon

The main loop of `daemon-doe-netlink`.  It calls `send` and `recv` once for each
request, looks at neither result and answers the kernel with whatever `op` holds
by then.  What was not received is still the request, so the answers of a run are
genuine only if both calls moved the whole record each time.
-/

namespace RemoteRootport.Netlink

open RemoteRootport.Bytes
open RemoteRootport.Wire
open RemoteRootport.Relay

/-! ## Responses -/

/-- The message `nl_send_response` assembles. -/
structure Response where
  nlh : Nlmsghdr
  genl : Genlmsghdr
  na : Nlattr
  op : OpBytes
  deriving DecidableEq, Repr

def Response.layout : Layout Response :=
  (Nlmsghdr.layout.pair (Genlmsghdr.layout.pair
      (Nlattr.layout.pair (Block.layout ConfigOp.layout.size)))).via
    (fun response => (response.nlh, response.genl, response.na, response.op))
    (fun (nlh, genl, na, op) => { nlh, genl, na, op })
    (fun _ => rfl)

/-- `NLM_F_REQUEST`. -/
def nlmFRequest : BitVec 16 := 1

/-- The identifiers that are fixed when the loop starts: `family_id` and the
process id. -/
structure Identity where
  familyId : BitVec 16
  pid : Dword
  deriving DecidableEq, Repr

def nlSendResponse (self : Identity) (req : PendingReq) (op : OpBytes) : Response where
  nlh :=
    { nlmsgLen := BitVec.ofNat 32 (attrStart + nlaAlign (nlaHdrlen + ConfigOp.layout.size))
      nlmsgType := self.familyId
      nlmsgFlags := nlmFRequest
      nlmsgSeq := req.seq
      nlmsgPid := self.pid }
  genl := { cmd := averyCmdResponse, version := 1, reserved := 0 }
  na :=
    { nlaLen := BitVec.ofNat 16 (nlaHdrlen + ConfigOp.layout.size)
      nlaType := averyAttrOp }
  op

/-! ## The main loop -/

/-- What the calls of one iteration report; the socket calls are made only if the
datagram is a request. -/
structure Turn where
  datagram : Datagram
  send : SendResult
  recv : RecvResult

/-- A response sent to the kernel, with the iteration that sent it. -/
structure Answer where
  turn : Turn
  exchange : Exchange
  response : Response

/-- `send` and `recv` on the same record, whatever they report. -/
def exchangeOnce (request : OpBytes) (turn : Turn) : Exchange :=
  let received := turn.recv.stored ConfigOp.layout.size
  { request, sent := turn.send.taken request.toList, received
    response := request.store received }

/-- The rest of an iteration that has parsed a request. -/
def answerWith (self : Identity) (turn : Turn) (locals : Locals) : Answer :=
  let exchange := exchangeOnce locals.op turn
  { turn, exchange, response := nlSendResponse self locals.req exchange.response }

/-- The responses the loop sends; a parser that hangs is the end of them. -/
def mainLoop (self : Identity) : Locals → List Turn → List Answer
  | _, [] => []
  | locals, turn :: rest =>
      match nlRecvRequest locals turn.datagram with
      | .refused next => mainLoop self next rest
      | .hangs => []
      | .request next =>
          let answer := answerWith self turn next
          answer :: mainLoop self { next with op := answer.exchange.response } rest

/-- The iterations up to the first that never ends. -/
def reached (turns : List Turn) : List Turn :=
  turns.takeWhile fun turn => !turn.datagram.hangs

/-- The answer to one datagram. -/
def answerTo (self : Identity) (turn : Turn) : Option Answer :=
  turn.datagram.request.map (answerWith self turn)

/-- Every request the loop reaches is answered, and no answer depends on the
iterations before it. -/
theorem mainLoop_eq (self : Identity) (locals : Locals) (turns : List Turn) :
    mainLoop self locals turns = (reached turns).filterMap (answerTo self) := by
  induction turns generalizing locals with
  | nil => rfl
  | cons turn rest ih =>
      rw [mainLoop, reached, List.takeWhile_cons]
      rcases nlRecvRequest_cases locals turn.datagram with
        ⟨next, parsed, ends, request⟩ | ⟨next, parsed, ends, request⟩ | ⟨parsed, hangs⟩
      · have unanswered : answerTo self turn = none := by
          rw [answerTo, request]
          rfl
        rw [parsed, ends, Bool.not_false, if_pos rfl, List.filterMap_cons_none unanswered]
        exact ih next
      · have answered : answerTo self turn = some (answerWith self turn next) := by
          rw [answerTo, request]
          rfl
        rw [parsed, ends, Bool.not_false, if_pos rfl, List.filterMap_cons_some answered]
        exact congrArg (List.cons _) (ih _)
      · rw [parsed, hangs]
        rfl

/-! ## Genuine responses -/

/-- The response carries a record received from the remote after the whole request
was sent, under the request's sequence number. -/
def Answer.Genuine (answer : Answer) : Prop :=
  answer.exchange.Genuine ∧ answer.response.op = answer.exchange.response ∧
    answer.response.nlh.nlmsgSeq = answer.turn.datagram.nlh.nlmsgSeq

/-- `send` takes a whole record and `recv` stores a whole record. -/
def Turn.Whole (turn : Turn) : Prop :=
  turn.send.count ConfigOp.layout.size = ConfigOp.layout.size ∧
    (turn.recv.stored ConfigOp.layout.size).length = ConfigOp.layout.size

theorem exchangeOnce_genuine_iff (request : OpBytes) (turn : Turn) :
    (exchangeOnce request turn).Genuine ↔ turn.Whole := by
  have sent : turn.send.taken request.toList = request.toList ↔
      turn.send.count ConfigOp.layout.size = ConfigOp.layout.size := by
    rw [SendResult.taken_eq_self, request.length_toList]
  constructor
  · intro genuine
    exact ⟨sent.mp genuine.1, genuine.2.1⟩
  · intro whole
    exact ⟨sent.mpr whole.1, whole.2, toList_store_whole request whole.2⟩

theorem genuine_answerTo_iff (self : Identity) {turn : Turn} {answer : Answer}
    (answered : answerTo self turn = some answer) : answer.Genuine ↔ turn.Whole := by
  rcases Option.map_eq_some_iff.mp answered with ⟨found, request, rfl⟩
  have seq : found.req.seq = turn.datagram.nlh.nlmsgSeq :=
    congrArg PendingReq.seq (Datagram.req_of_request request)
  constructor
  · intro genuine
    exact (exchangeOnce_genuine_iff found.op turn).mp genuine.1
  · intro whole
    exact ⟨(exchangeOnce_genuine_iff found.op turn).mpr whole, rfl, seq⟩

/-- The responses of a run are all genuine exactly if, in every iteration it
reaches with a request, both socket calls move a whole record. -/
theorem responses_genuine_iff (self : Identity) (locals : Locals) (turns : List Turn) :
    (∀ answer ∈ mainLoop self locals turns, answer.Genuine) ↔
      ∀ turn ∈ reached turns, turn.datagram.request ≠ none → turn.Whole := by
  rw [mainLoop_eq]
  constructor
  · intro genuine turn member request
    rcases Option.ne_none_iff_exists'.mp request with ⟨found, isRequest⟩
    have answered : answerTo self turn = some (answerWith self turn found) :=
      Option.map_eq_some_iff.mpr ⟨found, isRequest, rfl⟩
    apply (genuine_answerTo_iff self answered).mp
    exact genuine _ (List.mem_filterMap.mpr ⟨turn, member, answered⟩)
  · intro whole answer member
    rcases List.mem_filterMap.mp member with ⟨turn, inside, answered⟩
    apply (genuine_answerTo_iff self answered).mpr
    apply whole turn inside
    intro absent
    rw [answerTo, absent] at answered
    cases answered

/-- The daemon before its first request. -/
def Locals.zero : Locals where
  req := { portid := 0, seq := 0 }
  op := Vector.replicate _ 0

/-- A kernel request to read the configuration dword at offset 0x1a4, with sequence
number 7. -/
def readRequest : List Byte :=
  [40, 0, 0, 0, 29, 0, 1, 0, 7, 0, 0, 0, 0, 0, 0, 0,
    1, 1, 0, 0, 20, 0, 1, 0,
    0x14, 0, 0, 0, 0xa4, 1, 0, 0, 0, 0, 0, 0, 0, 0, 0, 0]

/-- The request is sent, then the remote closes the connection. -/
def closedTurn : Turn where
  datagram := { len := 40, memory := fun offset => readRequest.getD offset 0 }
  send := .accepted 16
  recv := .received []

/-- The daemon answers the kernel although it has received nothing: the response
is the request, which reads as a successful access with value zero. -/
theorem closed_connection_answered :
    ∃ answer ∈ mainLoop { familyId := 29, pid := 4242 } Locals.zero [closedTurn],
      answer.exchange.received = [] ∧
        ConfigOp.layout.decode answer.response.op.toList =
          { type := 0x14, offset := 0x1a4, value := 0, status := 0 } ∧
        ¬ answer.Genuine := by
  refine ⟨_, List.mem_cons_self, rfl, rfl, ?_⟩
  intro genuine
  cases genuine.1.2.1

end RemoteRootport.Netlink
