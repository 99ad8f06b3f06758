import RemoteRootport.Netlink.Daemon
import RemoteRootport.Netlink.Walk

/-!
# The netlink encoding

A generic netlink message is two headers and a list of attributes, each with its
length, its type and a payload padded to four bytes.  The encoding is stated here
for any list of attributes, as a relation since the padding bytes are arbitrary
and those of the last attribute may be missing.  `nl_recv_request` inverts it.
-/

namespace RemoteRootport.Netlink

open RemoteRootport.Bytes
open RemoteRootport.Relay
open RemoteRootport.Wire

/-! ## Attributes and messages -/

/-- A type and a payload of any length. -/
structure Attribute where
  type : BitVec 16
  payload : List Byte
  deriving DecidableEq, Repr

namespace Attribute

/-- What `nla_len` counts: the header and the payload. -/
def length (attr : Attribute) : Nat :=
  nlaHdrlen + attr.payload.length

def header (attr : Attribute) : Nlattr where
  nlaLen := BitVec.ofNat 16 attr.length
  nlaType := attr.type

def bytes (attr : Attribute) : List Byte :=
  Nlattr.layout.encode attr.header ++ attr.payload

def isOp (attr : Attribute) : Bool :=
  attr.type == averyAttrOp

@[simp] theorem length_bytes (attr : Attribute) :
    attr.bytes.length = attr.length := by
  rw [bytes, List.length_append, Layout.length_encode]
  rfl

end Attribute

/-- The bytes stand for the attributes, with any bytes as padding and the last
attribute padded or not. -/
inductive Encodes : List Attribute → List Byte → Prop where
  | nil : Encodes [] []
  | last (attr : Attribute) : Encodes [attr] attr.bytes
  | cons (attr : Attribute) {padding body : List Byte} {rest : List Attribute}
      (aligned : attr.length + padding.length = nlaAlign attr.length)
      (encodes : Encodes rest body) :
      Encodes (attr :: rest) (attr.bytes ++ (padding ++ body))

/-- The size of the buffer `nl_recv_request` receives into. -/
def recvBufferSize : Nat := 4096

/-- A request with any attributes, as long as it fits the receive buffer and its
operations are whole. -/
structure Message where
  nlh : Nlmsghdr
  genl : Genlmsghdr
  attributes : List Attribute
  body : List Byte
  encodes : Encodes attributes body
  nlmsgLen : nlh.nlmsgLen = BitVec.ofNat 32 (attrStart + body.length)
  cmd : genl.cmd = averyCmdRequest
  fits : attrStart + body.length ≤ recvBufferSize
  sized : ∀ attr ∈ attributes, attr.isOp = true →
    ConfigOp.layout.size ≤ attr.payload.length

namespace Message

def bytes (message : Message) : List Byte :=
  Nlmsghdr.layout.encode message.nlh ++
    (Genlmsghdr.layout.encode message.genl ++ message.body)

/-- The identifiers the parser is to return. -/
def req (message : Message) : PendingReq where
  portid := message.nlh.nlmsgPid
  seq := message.nlh.nlmsgSeq

end Message

/-! ## Bytes in memory -/

/-- The bytes lie in memory at an offset. -/
def Memory.Holds (memory : Memory) (offset : Nat) (bytes : List Byte) : Prop :=
  memory.read offset bytes.length = bytes

namespace Memory

variable {α : Type} {memory : Memory} {offset : Nat}

theorem holds_append_iff {first second : List Byte} :
    memory.Holds offset (first ++ second) ↔
      memory.Holds offset first ∧ memory.Holds (offset + first.length) second := by
  rw [Holds, List.length_append, read_add]
  constructor
  · intro whole
    exact List.append_inj whole (memory.length_read _ _)
  · intro parts
    rw [parts.1, parts.2]

theorem Holds.view {layout : Layout α} {value : α}
    (holds : memory.Holds offset (layout.encode value)) : memory.view layout offset = value := by
  rw [Holds, layout.length_encode] at holds
  rw [Memory.view, holds, layout.decode_encode]

/-- What is read from the start of held bytes is their start. -/
theorem Holds.read {bytes : List Byte} (holds : memory.Holds offset bytes) {count : Nat}
    (enough : count ≤ bytes.length) : memory.read offset count = bytes.take count := by
  rw [Holds, ← Nat.add_sub_cancel' enough, read_add] at holds
  rw [← holds, List.take_left' (memory.length_read _ _)]

theorem holds_ofBytes (bytes : List Byte) (behind : Memory) :
    (Datagram.ofBytes bytes behind).memory.Holds 0 bytes := by
  apply List.ext_getElem
  · exact Memory.length_read _ _ _
  · intro index left right
    simp [Memory.read, Datagram.ofBytes, right]

end Memory

/-! ## Walking over an encoding -/

variable {memory : Memory} {wanted : BitVec 16} {attrlen : Int} {offset fuel : Nat}

theorem Attribute.view_header {attr : Attribute}
    (holds : memory.Holds offset attr.bytes) :
    memory.view Nlattr.layout offset = attr.header :=
  (Memory.holds_append_iff.mp holds).1.view

/-- One iteration on an encoded attribute. -/
theorem attrWalk_attribute {attr : Attribute}
    (holds : memory.Holds offset attr.bytes) (small : attr.length < 2 ^ 16)
    (left : 0 < attrlen) :
    attrWalk memory wanted (fuel + 1) attrlen offset =
      if attr.type = wanted then .found offset
      else attrWalk memory wanted fuel (attrlen - nlaAlign attr.length)
        (offset + nlaAlign attr.length) := by
  have header := Attribute.view_header holds
  have length : (memory.view Nlattr.layout offset).nlaLen.toNat = attr.length := by
    rw [header]
    exact Nat.mod_eq_of_lt small
  have type : (memory.view Nlattr.layout offset).nlaType = attr.type := by
    rw [header]
    rfl
  by_cases typed : attr.type = wanted
  · rw [if_pos typed, attrWalk_here left (type.trans typed)]
  · rw [if_neg typed, attrWalk_skip left (type ▸ typed), length]

/-- A walk ended as it should on a list of attributes: at the first one of the
wanted type, with its payload behind the header, or with nothing. -/
structure Finds (memory : Memory) (wanted : BitVec 16) (attributes : List Attribute)
    (walk : Walk) : Prop where
  found : ∀ attr, attributes.find? (·.type == wanted) = some attr →
    ∃ position, walk = .found position ∧ memory.Holds (position + nlaHdrlen) attr.payload
  absent : attributes.find? (·.type == wanted) = none → walk = .absent

theorem finds_nil (spent : ¬0 < attrlen) (fuel : Nat) :
    Finds memory wanted [] (attrWalk memory wanted fuel attrlen offset) where
  found _ impossible := by cases impossible
  absent _ := attrWalk_spent spent fuel

theorem finds_cons {attr : Attribute} {rest : List Attribute}
    (holds : memory.Holds offset attr.bytes) (small : attr.length < 2 ^ 16)
    (left : 0 < attrlen)
    (finds : Finds memory wanted rest
      (attrWalk memory wanted fuel (attrlen - nlaAlign attr.length)
        (offset + nlaAlign attr.length))) :
    Finds memory wanted (attr :: rest)
      (attrWalk memory wanted (fuel + 1) attrlen offset) := by
  rw [attrWalk_attribute holds small left]
  by_cases typed : attr.type = wanted
  · have first : (attr :: rest).find? (·.type == wanted) = some attr :=
      List.find?_cons_of_pos (beq_iff_eq.mpr typed)
    rw [if_pos typed]
    constructor
    · intro other found
      rw [first] at found
      cases found
      refine ⟨offset, rfl, ?_⟩
      have payload := (Memory.holds_append_iff.mp holds).2
      rwa [Layout.length_encode] at payload
    · intro absent
      rw [first] at absent
      cases absent
  · have later : (attr :: rest).find? (·.type == wanted) = rest.find? (·.type == wanted) :=
      List.find?_cons_of_neg (mt beq_iff_eq.mp typed)
    rw [if_neg typed]
    constructor
    · rw [later]
      exact finds.found
    · rw [later]
      exact finds.absent

theorem le_nlaAlign (len : Nat) : len ≤ nlaAlign len := by
  rw [nlaAlign]
  omega

theorem Attribute.length_pos (attr : Attribute) : 0 < attr.length :=
  Nat.lt_of_lt_of_le (by decide) (Nat.le_add_right nlaHdrlen _)

/-- The walk over an encoding finds what is in the list.  The length left is always
that of the bytes still to come, or negative behind a last attribute without
padding. -/
theorem attrWalk_encodes {attributes : List Attribute} {body : List Byte}
    (encodes : Encodes attributes body) (holds : memory.Holds offset body)
    (small : body.length < 2 ^ 16) (enough : body.length ≤ fuel) :
    Finds memory wanted attributes (attrWalk memory wanted fuel body.length offset) := by
  induction encodes generalizing offset fuel with
  | nil => exact finds_nil (Int.lt_irrefl 0) fuel
  | last attr =>
      rw [Attribute.length_bytes] at small enough ⊢
      have positive := attr.length_pos
      cases fuel with
      | zero => omega
      | succ fuel =>
          have aligned := le_nlaAlign attr.length
          exact finds_cons holds small (by omega) (finds_nil (by omega) fuel)
  | @cons attr padding body rest aligned encodes ih =>
      rcases Memory.holds_append_iff.mp holds with ⟨first, behind⟩
      rcases Memory.holds_append_iff.mp behind with ⟨-, later⟩
      have positive := attr.length_pos
      have length : (attr.bytes ++ (padding ++ body)).length =
          nlaAlign attr.length + body.length := by
        rw [List.length_append, List.length_append, attr.length_bytes, ← aligned,
          Nat.add_assoc]
      rw [length] at small enough ⊢
      rw [attr.length_bytes, Nat.add_assoc, aligned] at later
      cases fuel with
      | zero => omega
      | succ fuel =>
          apply finds_cons first (by omega) (by omega)
          rw [Int.natCast_add, add_sub_cancel_left]
          exact ih later (by omega) (by omega)

/-! ## Parsing an encoding -/

namespace Message

variable (message : Message) (behind : Memory)

theorem length_bytes : message.bytes.length = attrStart + message.body.length := by
  rw [bytes, List.length_append, List.length_append, Layout.length_encode,
    Layout.length_encode, ← Nat.add_assoc]
  rfl

/-- A message that fits the receive buffer is short for every field that counts its
bytes. -/
theorem length_body_lt : message.body.length < 2 ^ 16 :=
  Nat.lt_of_le_of_lt (Nat.le_trans (Nat.le_add_left _ attrStart) message.fits) (by decide)

/-- Where the three parts of a received message lie. -/
theorem holds_parts :
    (Datagram.ofBytes message.bytes behind).nlh = message.nlh ∧
      (Datagram.ofBytes message.bytes behind).genl = message.genl ∧
      (Datagram.ofBytes message.bytes behind).memory.Holds attrStart message.body := by
  have whole := Memory.holds_ofBytes message.bytes behind
  rcases Memory.holds_append_iff.mp whole with ⟨nlh, rest⟩
  rcases Memory.holds_append_iff.mp rest with ⟨genl, body⟩
  rw [Layout.length_encode, Nat.zero_add] at genl body
  rw [Layout.length_encode] at body
  exact ⟨nlh.view, genl.view, body⟩

theorem attrlen_ofBytes :
    (Datagram.ofBytes message.bytes behind).attrlen = message.body.length := by
  have small : message.body.length < 2 ^ 32 := Nat.lt_trans message.length_body_lt (by decide)
  rw [Datagram.attrlen, (message.holds_parts behind).1, message.nlmsgLen,
    Nat.add_comm attrStart, BitVec.ofNat_add, BitVec.add_sub_cancel,
    BitVec.toInt_eq_toNat_of_lt, BitVec.toNat_ofNat, Nat.mod_eq_of_lt small]
  have short := message.length_body_lt
  rw [BitVec.toNat_ofNat, Nat.mod_eq_of_lt small]
  omega

theorem commands_ofBytes : (Datagram.ofBytes message.bytes behind).commands = true := by
  have received : 0 < (Datagram.ofBytes message.bytes behind).len := by
    change (0 : Int) < message.bytes.length
    rw [length_bytes]
    exact Int.natCast_pos.mpr (Nat.lt_of_lt_of_le (by decide) (Nat.le_add_right attrStart _))
  rw [Datagram.commands, (message.holds_parts behind).2.1, message.cmd]
  simp [received]

theorem req_ofBytes : (Datagram.ofBytes message.bytes behind).req = message.req := by
  rw [Datagram.req, (message.holds_parts behind).1]
  rfl

/-- The parser's loop on a received message. -/
theorem walk_ofBytes :
    Finds (Datagram.ofBytes message.bytes behind).memory averyAttrOp message.attributes
      (Datagram.ofBytes message.bytes behind).walk := by
  rw [Datagram.walk, attrlen_ofBytes]
  exact attrWalk_encodes message.encodes (message.holds_parts behind).2.2 message.length_body_lt
    (Nat.le_refl _)

/-- An operation in the list is returned with the identifiers of the header. -/
theorem parse_of_op (locals : Locals) {attr : Attribute}
    (first : message.attributes.find? Attribute.isOp = some attr) :
    ∃ op, nlRecvRequest locals (.ofBytes message.bytes behind) =
        .request { req := message.req, op } ∧
      op.toList = attr.payload.take ConfigOp.layout.size := by
  rcases (message.walk_ofBytes behind).found attr first with ⟨position, walked, payload⟩
  refine ⟨(Datagram.ofBytes message.bytes behind).op position, ?_, ?_⟩
  · rw [← message.req_ofBytes behind]
    exact nlRecvRequest_eq_request_iff.mpr
      ⟨message.commands_ofBytes behind, position, walked, rfl⟩
  · rw [Datagram.toList_op]
    exact payload.read
      (message.sized attr (List.mem_of_find?_eq_some first) (List.find?_some first))

/-- Without one the message is refused, after its identifiers were taken. -/
theorem parse_of_no_op (locals : Locals)
    (none : message.attributes.find? Attribute.isOp = none) :
    nlRecvRequest locals (.ofBytes message.bytes behind) =
      .refused { locals with req := message.req } := by
  rw [nlRecvRequest_of_commands locals (message.commands_ofBytes behind),
    (message.walk_ofBytes behind).absent none, req_ofBytes]

end Message

/-- The message of `nl_send_response`, its command replaced by that of a request. -/
def Response.asRequest (response : Response) : Response :=
  { response with genl := { response.genl with cmd := averyCmdRequest } }

/-- The one attribute of a response. -/
def opAttribute (op : OpBytes) : Attribute where
  type := averyAttrOp
  payload := op.toList

theorem length_opAttribute (op : OpBytes) :
    (opAttribute op).length = nlaHdrlen + ConfigOp.layout.size :=
  congrArg (nlaHdrlen + ·) op.length_toList

/-- A response with its command replaced is a request with one attribute. -/
def responseMessage (self : Identity) (req : PendingReq) (op : OpBytes) : Message where
  nlh := (nlSendResponse self req op).asRequest.nlh
  genl := (nlSendResponse self req op).asRequest.genl
  attributes := [opAttribute op]
  body := (opAttribute op).bytes
  encodes := .last (opAttribute op)
  nlmsgLen := by
    rw [Attribute.length_bytes, length_opAttribute]
    rfl
  cmd := rfl
  fits := by
    rw [Attribute.length_bytes, length_opAttribute]
    decide
  sized := by
    intro attr membership _
    rw [List.mem_singleton.mp membership]
    exact Nat.le_of_eq op.length_toList.symm

theorem encode_response (self : Identity) (req : PendingReq) (op : OpBytes) :
    Response.layout.encode (nlSendResponse self req op).asRequest =
      (responseMessage self req op).bytes := by
  have header : (opAttribute op).header = (nlSendResponse self req op).na := by
    rw [Attribute.header, length_opAttribute]
    rfl
  change _ = Nlmsghdr.layout.encode _ ++ (Genlmsghdr.layout.encode _ ++
    (Nlattr.layout.encode (opAttribute op).header ++ op.toList))
  rw [header]
  rfl

/-- On every encoded list of attributes the parser returns 0 exactly when there is an
operation, with the first 16 bytes of the first one and the identifiers of the
header; and it reads back what `nl_send_response` writes. -/
theorem parser_inverts_encoding (locals : Locals) (behind : Memory) :
    (∀ message : Message,
      ((∃ next, nlRecvRequest locals (.ofBytes message.bytes behind) = .request next) ↔
        ∃ attr ∈ message.attributes, attr.type = averyAttrOp) ∧
      (∀ attr, message.attributes.find? Attribute.isOp = some attr →
        ∃ op, nlRecvRequest locals (.ofBytes message.bytes behind) =
            .request
              { req := { portid := message.nlh.nlmsgPid, seq := message.nlh.nlmsgSeq }, op } ∧
          op.toList = attr.payload.take 16) ∧
      (message.attributes.find? Attribute.isOp = none →
        nlRecvRequest locals (.ofBytes message.bytes behind) =
          .refused { locals with
            req := { portid := message.nlh.nlmsgPid, seq := message.nlh.nlmsgSeq } })) ∧
    (∀ (self : Identity) (req : PendingReq) (op : OpBytes),
      nlRecvRequest locals
          (.ofBytes (Response.layout.encode (nlSendResponse self req op).asRequest) behind) =
        .request { req := { portid := self.pid, seq := req.seq }, op }) := by
  constructor
  · intro message
    refine ⟨?_, fun attr => message.parse_of_op behind locals,
      message.parse_of_no_op behind locals⟩
    cases first : message.attributes.find? Attribute.isOp with
    | none =>
        rw [message.parse_of_no_op behind locals first]
        apply iff_of_false
        · intro returned
          rcases returned with ⟨next, impossible⟩
          cases impossible
        · intro present
          rcases present with ⟨attr, membership, typed⟩
          exact List.find?_eq_none.mp first attr membership (beq_iff_eq.mpr typed)
    | some attr =>
        rcases message.parse_of_op behind locals first with ⟨op, returned, -⟩
        have typed : attr.isOp = true := List.find?_some first
        apply iff_of_true
        · exact ⟨_, returned⟩
        · exact ⟨attr, List.mem_of_find?_eq_some first, eq_of_beq typed⟩
  · intro self req op
    have first : (responseMessage self req op).attributes.find? Attribute.isOp =
        some (opAttribute op) := rfl
    rcases (responseMessage self req op).parse_of_op behind locals first with
      ⟨parsed, returned, bytes⟩
    have same : parsed = op := by
      apply Vector.toList_inj.mp
      rw [bytes]
      exact List.take_of_length_le (Nat.le_of_eq op.length_toList)
    rw [encode_response, returned, same]
    rfl

/-- A request with an attribute of three bytes and its padding before the operation. -/
def mixedMessage : Message where
  nlh := { nlmsgLen := 50, nlmsgType := 0, nlmsgFlags := 0, nlmsgSeq := 7, nlmsgPid := 9 }
  genl := { cmd := averyCmdRequest, version := 1, reserved := 0 }
  attributes := [⟨3, [1, 2, 3]⟩, ⟨averyAttrOp, List.replicate 18 5⟩]
  body := Attribute.bytes ⟨3, [1, 2, 3]⟩ ++
    ([170] ++ Attribute.bytes ⟨averyAttrOp, List.replicate 18 5⟩)
  encodes := .cons _ rfl (.last _)
  nlmsgLen := by decide
  cmd := rfl
  fits := by decide
  sized := by decide

theorem mixedMessage_parsed :
    ∃ op, nlRecvRequest ⟨⟨0, 0⟩, Vector.replicate 16 0⟩
        (.ofBytes mixedMessage.bytes fun _ => 0) = .request { req := ⟨9, 7⟩, op } ∧
      op.toList = List.replicate 16 5 :=
  ((parser_inverts_encoding _ fun _ => 0).1 mixedMessage).2.1 _ rfl

/-! ## The family request -/

/-- `GENL_ID_CTRL`. -/
def genlIdCtrl : BitVec 16 := 0x10

/-- `CTRL_CMD_GETFAMILY`. -/
def ctrlCmdGetfamily : Byte := 3

/-- `CTRL_ATTR_FAMILY_NAME`. -/
def ctrlAttrFamilyName : BitVec 16 := 2

/-- `AVERY_FAMILY_NAME` with its terminating zero. -/
def averyFamilyName : List Byte :=
  "AVERY_DOE".toList.map (fun char => BitVec.ofNat 8 char.toNat) ++ [0]

/-- The name attribute of the request and the zeroes that align it. -/
def familyBody : List Byte :=
  let length := nlaHdrlen + averyFamilyName.length
  Nlattr.layout.encode { nlaLen := BitVec.ofNat 16 length, nlaType := ctrlAttrFamilyName } ++
    averyFamilyName ++ List.replicate (nlaAlign length - length) 0

/-- What `nl_get_family_id` sends: the zeroed buffer with its fields filled in, as
far as `nlmsg_len` reaches. -/
def familyRequest (pid : Dword) : List Byte :=
  Nlmsghdr.layout.encode
      { nlmsgLen :=
          BitVec.ofNat 32 (attrStart + nlaAlign (nlaHdrlen + averyFamilyName.length))
        nlmsgType := genlIdCtrl
        nlmsgFlags := nlmFRequest
        nlmsgSeq := 1
        nlmsgPid := pid } ++
    (Genlmsghdr.layout.encode { cmd := ctrlCmdGetfamily, version := 1, reserved := 0 } ++
      familyBody)

/-- The request is a well-formed message with the family name as its only
attribute. -/
theorem familyRequest_encodes (pid : Dword) :
    Encodes [⟨ctrlAttrFamilyName, averyFamilyName⟩] familyBody ∧
      (familyRequest pid).length =
        attrStart + nlaAlign (nlaHdrlen + averyFamilyName.length) := by
  constructor
  · have parts : familyBody = Attribute.bytes ⟨ctrlAttrFamilyName, averyFamilyName⟩ ++
        ([0, 0] ++ []) := by decide
    rw [parts]
    exact .cons _ (by decide) .nil
  · rw [familyRequest, List.length_append, List.length_append, Layout.length_encode,
      Layout.length_encode]
    decide

end RemoteRootport.Netlink
