import RemoteRootport.Netlink.Bounds
import RemoteRootport.Netlink.Encoding

/-!
# Starting the netlink daemon

`main` of `daemon-doe-netlink` connects to the remote, asks the kernel for the id of
its family, registers under that id and enters its loop.  The lookup takes the
kernel's word for the layout of the reply, so two kinds of reply matter: a list of
attributes, and an error that echoes the request.  Error messages may also arrive
later, since the daemon looks at the result of no `sendto` in its loop.
-/

namespace RemoteRootport.Netlink

open RemoteRootport.Bytes
open RemoteRootport.Relay
open RemoteRootport.Wire

/-! ## Messages -/

/-- Both headers and what follows them. -/
def frame (nlh : Nlmsghdr) (genl : Genlmsghdr) (body : List Byte) : List Byte :=
  Nlmsghdr.layout.encode nlh ++ (Genlmsghdr.layout.encode genl ++ body)

theorem length_frame (nlh : Nlmsghdr) (genl : Genlmsghdr) (body : List Byte) :
    (frame nlh genl body).length = attrStart + body.length := by
  rw [frame, List.length_append, List.length_append, Layout.length_encode, Layout.length_encode,
    ← Nat.add_assoc]
  rfl

section Received

variable (nlh : Nlmsghdr) (genl : Genlmsghdr) (body : List Byte) (behind : Memory)

/-- Where the parts of a received message lie. -/
theorem parts_ofBytes :
    (Datagram.ofBytes (frame nlh genl body) behind).nlh = nlh ∧
      (Datagram.ofBytes (frame nlh genl body) behind).genl = genl ∧
      (Datagram.ofBytes (frame nlh genl body) behind).memory.Holds attrStart body := by
  have whole := Memory.holds_ofBytes (frame nlh genl body) behind
  rcases Memory.holds_append_iff.mp whole with ⟨first, rest⟩
  rcases Memory.holds_append_iff.mp rest with ⟨second, third⟩
  rw [Layout.length_encode, Nat.zero_add] at second third
  rw [Layout.length_encode] at third
  exact ⟨first.view, second.view, third⟩

variable {nlh body}

/-- The attributes of a message whose length field is right are all of its body. -/
theorem attrlen_frame (nlmsgLen : nlh.nlmsgLen = BitVec.ofNat 32 (attrStart + body.length))
    (small : body.length < 2 ^ 16) :
    (Datagram.ofBytes (frame nlh genl body) behind).attrlen = body.length := by
  have fits : body.length < 2 ^ 32 := Nat.lt_trans small (by decide)
  rw [Datagram.attrlen, (parts_ofBytes nlh genl body behind).1, nlmsgLen, Nat.add_comm attrStart,
    BitVec.ofNat_add, BitVec.add_sub_cancel, BitVec.toInt_eq_toNat_of_lt, BitVec.toNat_ofNat,
    Nat.mod_eq_of_lt fits]
  rw [BitVec.toNat_ofNat, Nat.mod_eq_of_lt fits]
  omega

end Received

/-! ## Looking up the family -/

/-- The size of the buffer `nl_get_family_id` receives into. -/
def replyBufferSize : Nat := 8192

/-- A reply of the controller with any attributes, as long as it fits the buffer and
an id in it is whole. -/
structure FamilyReply where
  nlh : Nlmsghdr
  genl : Genlmsghdr
  attributes : List Attribute
  body : List Byte
  encodes : Encodes attributes body
  nlmsgLen : nlh.nlmsgLen = BitVec.ofNat 32 (attrStart + body.length)
  fits : attrStart + body.length ≤ replyBufferSize
  sized : ∀ attr ∈ attributes, (attr.type == ctrlAttrFamilyId) = true →
    half.size ≤ attr.payload.length

namespace FamilyReply

def bytes (reply : FamilyReply) : List Byte :=
  frame reply.nlh reply.genl reply.body

/-- What the lookup is to return: the first id in the list. -/
def lookup (reply : FamilyReply) : Lookup :=
  match reply.attributes.find? (·.type == ctrlAttrFamilyId) with
  | some attr => .family (half.decode (attr.payload.take half.size))
  | none => .exits "family id not found"

end FamilyReply

/-- The lookup on a reply that was received. -/
theorem nlGetFamilyId_received (bytes : List Byte) (behind : Memory) {sent : Int} (ok : 0 ≤ sent) :
    nlGetFamilyId sent (.ofBytes bytes behind) =
      match attrWalk (Datagram.ofBytes bytes behind).memory ctrlAttrFamilyId
          (Datagram.ofBytes bytes behind).attrlen.toNat (Datagram.ofBytes bytes behind).attrlen
          attrStart with
      | .found offset =>
          .family ((Datagram.ofBytes bytes behind).memory.view half (offset + nlaHdrlen))
      | .absent => .exits "family id not found"
      | .running => .hangs := by
  have received : ¬((Datagram.ofBytes bytes behind).len < 0) :=
    Int.not_lt.mpr (Int.natCast_nonneg bytes.length)
  exact (if_neg (Int.not_lt.mpr ok)).trans (if_neg received)

/-- On every reply of the controller the lookup returns the first id in it, or exits
if there is none. -/
theorem nlGetFamilyId_reply (reply : FamilyReply) (behind : Memory) {sent : Int} (ok : 0 ≤ sent) :
    nlGetFamilyId sent (.ofBytes reply.bytes behind) = reply.lookup := by
  have small : reply.body.length < 2 ^ 16 :=
    Nat.lt_of_le_of_lt (Nat.le_trans (Nat.le_add_left _ attrStart) reply.fits) (by decide)
  have finds : Finds (Datagram.ofBytes reply.bytes behind).memory ctrlAttrFamilyId reply.attributes
      (attrWalk (Datagram.ofBytes reply.bytes behind).memory ctrlAttrFamilyId reply.body.length
        reply.body.length attrStart) :=
    attrWalk_encodes reply.encodes (parts_ofBytes reply.nlh reply.genl reply.body behind).2.2 small
      (Nat.le_refl _)
  have attrlen : (Datagram.ofBytes reply.bytes behind).attrlen = reply.body.length :=
    attrlen_frame reply.genl behind reply.nlmsgLen small
  rw [nlGetFamilyId_received _ _ ok, attrlen, Int.toNat_natCast, FamilyReply.lookup]
  cases first : reply.attributes.find? (·.type == ctrlAttrFamilyId) with
  | none => rw [finds.absent first]
  | some attr =>
      rcases finds.found attr first with ⟨position, walked, payload⟩
      have typed : (attr.type == ctrlAttrFamilyId) = true :=
        List.find?_eq_some_iff_append.mp first |>.1
      have whole := reply.sized attr (List.mem_of_find?_eq_some first) typed
      rw [walked]
      change Lookup.family (half.decode (Memory.read _ _ _)) = _
      rw [payload.read whole]

/-! ## Error messages -/

/-- `NLMSG_ERROR`. -/
def nlmsgError : BitVec 16 := 2

/-- An error code, zero for an acknowledgement, and what it is about. -/
structure ErrorMessage where
  flags : BitVec 16
  seq : Dword
  pid : Dword
  error : Dword
  echo : List Byte

namespace ErrorMessage

def nlh (message : ErrorMessage) : Nlmsghdr where
  nlmsgLen := BitVec.ofNat 32 (attrStart + message.echo.length)
  nlmsgType := nlmsgError
  nlmsgFlags := message.flags
  nlmsgSeq := message.seq
  nlmsgPid := message.pid

def bytes (message : ErrorMessage) : List Byte :=
  Nlmsghdr.layout.encode message.nlh ++ (dword.encode message.error ++ message.echo)

/-- The error code, taken for a generic netlink header. -/
def genl (message : ErrorMessage) : Genlmsghdr :=
  Genlmsghdr.layout.decode (dword.encode message.error)

theorem bytes_eq (message : ErrorMessage) :
    message.bytes = frame message.nlh message.genl message.echo := by
  have exact_layout : Genlmsghdr.layout.Exact :=
    ((Layout.exact_word rfl).pair ((Layout.exact_word rfl).pair (Layout.exact_word rfl))).via
      fun _ => rfl
  rw [bytes, frame, genl, exact_layout _ (dword.length_encode message.error)]

theorem cmd_eq (message : ErrorMessage) : message.genl.cmd = message.error.setWidth 8 := by
  change wordOf 8 [BitVec.ofNat 8 message.error.toNat] = _
  apply BitVec.eq_of_toNat_eq
  simp [wordOf, leNat]

end ErrorMessage

/-- The request that an error message echoes begins with its own length, which the
lookup takes for an attribute of type zero that ends behind the message. -/
theorem attrWalk_echo {memory : Memory} {wanted : BitVec 16} {offset length : Nat}
    {attr : Nlattr} {rest : List Byte}
    (holds : memory.Holds offset (Nlattr.layout.encode attr ++ rest)) (other : attr.nlaType ≠ wanted)
    (positive : 0 < length) (past : length ≤ nlaAlign attr.nlaLen.toNat) :
    attrWalk memory wanted length length offset = .absent := by
  have header := (Memory.holds_append_iff.mp holds).1.view
  cases length with
  | zero => omega
  | succ fuel =>
      rw [attrWalk_skip (by omega) (by rw [header]; exact other), header]
      exact attrWalk_spent (by omega) fuel

/-- The kernel echoes the whole request, or only its header. -/
def Echoes (pid : Dword) (echo : List Byte) : Prop :=
  echo = familyRequest pid ∨ echo = (familyRequest pid).take nlmsgHdrlen

theorem Echoes.begins {pid : Dword} {echo : List Byte} (echoes : Echoes pid echo) :
    ∃ rest, echo = Nlattr.layout.encode ⟨36, 0⟩ ++ rest ∧ rest.length ≤ 32 := by
  have length : (familyRequest pid).length = 36 := (familyRequest_encodes pid).2
  have first : (familyRequest pid).take 4 = Nlattr.layout.encode ⟨36, 0⟩ := by
    change List.take dword.size ((dword.encode _ ++ _) ++ _) = _
    rw [List.append_assoc, List.take_left' (dword.length_encode _)]
    change dword.encode (BitVec.ofNat 32 (attrStart + nlaAlign (nlaHdrlen +
      averyFamilyName.length))) = _
    decide
  rcases echoes with rfl | rfl
  · refine ⟨(familyRequest pid).drop 4, ?_, ?_⟩
    · rw [← first, List.take_append_drop]
    · rw [List.length_drop, length]
  · refine ⟨((familyRequest pid).take nlmsgHdrlen).drop 4, ?_, ?_⟩
    · rw [← first, ← List.take_append_drop 4 (List.take nlmsgHdrlen _), List.take_take]
      rfl
    · rw [List.length_drop, List.length_take, length]
      decide

/-- If the kernel does not know the family, the daemon says so and exits. -/
theorem nlGetFamilyId_error (message : ErrorMessage) (pid : Dword)
    (echoes : Echoes pid message.echo) (behind : Memory) {sent : Int} (ok : 0 ≤ sent) :
    nlGetFamilyId sent (.ofBytes message.bytes behind) = .exits "family id not found" := by
  rcases echoes.begins with ⟨rest, begins, short⟩
  have length : message.echo.length = 4 + rest.length := by
    rw [begins, List.length_append, Layout.length_encode]
    rfl
  have holds := (parts_ofBytes message.nlh message.genl message.echo behind).2.2
  rw [begins] at holds
  have walked := attrWalk_echo holds (by decide : (0 : BitVec 16) ≠ ctrlAttrFamilyId)
    (by omega : 0 < message.echo.length) (by rw [length]; exact Nat.add_le_add_left short 4)
  rw [nlGetFamilyId_received _ _ ok, message.bytes_eq,
    attrlen_frame message.genl behind rfl (by omega), Int.toNat_natCast]
  rw [← begins] at walked
  rw [walked]

/-- The lookup reads what the kernel writes: from a list of attributes the first id, or
a message if there is none; from an error about the request that message as well. -/
theorem family_lookup (behind : Memory) (sent : Int) (ok : 0 ≤ sent) :
    (∀ reply : FamilyReply, nlGetFamilyId sent (.ofBytes reply.bytes behind) = reply.lookup) ∧
    (∀ (message : ErrorMessage) (pid : Dword), Echoes pid message.echo →
      nlGetFamilyId sent (.ofBytes message.bytes behind) = .exits "family id not found") :=
  ⟨fun reply => nlGetFamilyId_reply reply behind ok,
    fun message pid echoes => nlGetFamilyId_error message pid echoes behind ok⟩

/-- A reply with the name, padded, and the id. -/
def namedReply : FamilyReply where
  nlh := { nlmsgLen := 44, nlmsgType := genlIdCtrl, nlmsgFlags := 0, nlmsgSeq := 1, nlmsgPid := 9 }
  genl := { cmd := 1, version := 2, reserved := 0 }
  attributes := [⟨ctrlAttrFamilyName, averyFamilyName⟩, ⟨ctrlAttrFamilyId, [29, 0]⟩]
  body := Attribute.bytes ⟨ctrlAttrFamilyName, averyFamilyName⟩ ++
    ([0, 0] ++ (Attribute.bytes ⟨ctrlAttrFamilyId, [29, 0]⟩ ++ ([0, 0] ++ [])))
  encodes := .cons _ (by decide) (.cons _ rfl .nil)
  nlmsgLen := by decide
  fits := by decide
  sized := by decide

/-- `ENOENT` about the request of process 9. -/
def unknownFamily : ErrorMessage where
  flags := 0
  seq := 1
  pid := 9
  error := -2
  echo := familyRequest 9

theorem family_lookup_named :
    nlGetFamilyId 36 (.ofBytes namedReply.bytes fun _ => 0) = .family 29 ∧
      nlGetFamilyId 36 (.ofBytes unknownFamily.bytes fun _ => 0) =
        .exits "family id not found" := by
  rcases family_lookup (fun _ => 0) 36 (by decide) with ⟨replies, errors⟩
  refine ⟨?_, errors unknownFamily 9 (Or.inl rfl)⟩
  rw [replies namedReply]
  decide

/-- An error code as the kernel reports it. -/
def errno (code : Nat) : Dword :=
  -BitVec.ofNat 32 code

theorem errno_setWidth_ne {code : Nat} (bound : code < 255) :
    (errno code).setWidth 8 ≠ averyCmdRequest := by
  intro same
  have value := congrArg BitVec.toNat same
  rw [BitVec.toNat_setWidth, errno, BitVec.toNat_neg, BitVec.toNat_ofNat] at value
  change _ = 1 at value
  omega

/-- An acknowledgement or an error is never taken for a request. -/
theorem nlRecvRequest_error (message : ErrorMessage) {code : Nat} (bound : code < 255)
    (error : message.error = errno code) (behind : Memory) (locals : Locals) :
    nlRecvRequest locals (.ofBytes message.bytes behind) = .refused locals ∧
      (Datagram.ofBytes message.bytes behind).request = none ∧
      (Datagram.ofBytes message.bytes behind).hangs = false := by
  have other : (Datagram.ofBytes message.bytes behind).commands = false := by
    have cmd : (Datagram.ofBytes message.bytes behind).genl.cmd ≠ averyCmdRequest := by
      rw [message.bytes_eq, (parts_ofBytes message.nlh message.genl message.echo behind).2.1,
        message.cmd_eq, error]
      exact errno_setWidth_ne bound
    rw [Datagram.commands, beq_eq_false_iff_ne.mpr cmd, Bool.and_false]
  refine ⟨nlRecvRequest_of_not_commands locals other, ?_, ?_⟩
  · rw [Datagram.request, other]
    rfl
  · rw [Datagram.hangs, other, Bool.false_and]

/-- `AVERY_CMD_REGISTER`. -/
def averyCmdRegister : Byte := 3

/-- What `nl_register_daemon` sends: the two headers and no attribute. -/
def nlRegisterDaemon (self : Identity) : List Byte :=
  frame
    { nlmsgLen := BitVec.ofNat 32 attrStart
      nlmsgType := self.familyId
      nlmsgFlags := nlmFRequest
      nlmsgSeq := 1
      nlmsgPid := self.pid }
    { cmd := averyCmdRegister, version := 1, reserved := 0 } []

/-- What the calls before the loop report. -/
structure Startup where
  connected : Bool
  sent : Int
  reply : Datagram

/-- The messages `main` hands to `sendto`, in order. -/
def daemonMain (pid : Dword) (startup : Startup) (locals : Locals) (turns : List Turn) :
    List (List Byte) :=
  if startup.connected then
    familyRequest pid ::
      match nlGetFamilyId startup.sent startup.reply with
      | .family familyId =>
          nlRegisterDaemon { familyId, pid } ::
            (mainLoop { familyId, pid } locals turns).map fun answer =>
              Response.layout.encode answer.response
      | _ => []
  else
    []

/-- A request of a process to a family, with its length, a command and attributes. -/
structure WellFormed (pid : Dword) (familyId : BitVec 16) (cmd : Byte)
    (attributes : List Attribute) (message : List Byte) : Prop where
  framed : ∃ seq body, Encodes attributes body ∧
    message = frame
      { nlmsgLen := BitVec.ofNat 32 message.length
        nlmsgType := familyId
        nlmsgFlags := nlmFRequest
        nlmsgSeq := seq
        nlmsgPid := pid }
      { cmd, version := 1, reserved := 0 } body

theorem wellFormed_familyRequest (pid : Dword) :
    WellFormed pid genlIdCtrl ctrlCmdGetfamily [⟨ctrlAttrFamilyName, averyFamilyName⟩]
      (familyRequest pid) := by
  rcases familyRequest_encodes pid with ⟨encodes, length⟩
  refine ⟨1, familyBody, encodes, ?_⟩
  rw [length]
  rfl

theorem wellFormed_register (self : Identity) :
    WellFormed self.pid self.familyId averyCmdRegister [] (nlRegisterDaemon self) := by
  refine ⟨1, [], .nil, ?_⟩
  have length : (nlRegisterDaemon self).length = attrStart := length_frame _ _ []
  rw [length]
  rfl

theorem wellFormed_response (self : Identity) (req : PendingReq) (op : OpBytes) :
    WellFormed self.pid self.familyId averyCmdResponse [opAttribute op]
      (Response.layout.encode (nlSendResponse self req op)) := by
  refine ⟨req.seq, (opAttribute op).bytes, .last _, ?_⟩
  have header : (opAttribute op).header = (nlSendResponse self req op).na := by
    rw [Attribute.header, length_opAttribute]
    rfl
  rw [Layout.length_encode, Attribute.bytes, header]
  rfl

/-- The headers of a message are those it was framed with. -/
theorem frame_injective {nlh other : Nlmsghdr} {genl second : Genlmsghdr} {body rest : List Byte}
    (same : frame nlh genl body = frame other second rest) : nlh = other ∧ genl = second := by
  rcases List.append_inj same (by rw [Layout.length_encode, Layout.length_encode]) with
    ⟨first, behind⟩
  rcases List.append_inj behind (by rw [Layout.length_encode, Layout.length_encode]) with
    ⟨generic, -⟩
  have nlhs := congrArg Nlmsghdr.layout.decode first
  have genls := congrArg Genlmsghdr.layout.decode generic
  rw [Layout.decode_encode, Layout.decode_encode] at nlhs genls
  exact ⟨nlhs, genls⟩

theorem WellFormed.unique {pid other : Dword} {familyId second : BitVec 16} {cmd third : Byte}
    {attributes more : List Attribute} {message : List Byte}
    (wellFormed : WellFormed pid familyId cmd attributes message)
    (again : WellFormed other second third more message) : familyId = second ∧ cmd = third := by
  rcases wellFormed with ⟨_, _, -, once⟩
  rcases again with ⟨_, _, -, twice⟩
  rcases frame_injective (once.symm.trans twice) with ⟨nlh, genl⟩
  exact ⟨congrArg Nlmsghdr.nlmsgType nlh, congrArg Genlmsghdr.cmd genl⟩

/-- What the loop sends are responses under its own identity. -/
theorem wellFormed_mainLoop (self : Identity) (locals : Locals) (turns : List Turn) :
    ∀ message ∈ (mainLoop self locals turns).map fun answer =>
        Response.layout.encode answer.response,
      ∃ attributes, WellFormed self.pid self.familyId averyCmdResponse attributes message := by
  intro message member
  rcases List.mem_map.mp member with ⟨answer, answered, rfl⟩
  rw [mainLoop_eq] at answered
  rcases List.mem_filterMap.mp answered with ⟨turn, -, made⟩
  rcases Option.map_eq_some_iff.mp made with ⟨request, -, rfl⟩
  exact ⟨_, wellFormed_response self _ _⟩

/-- Whatever the kernel and the remote do: every message the daemon sends is
well-formed and carries its process id, and a response is sent only after the daemon
has registered, under the id it looked up and registered with. -/
theorem daemonMain_registers_first (pid : Dword) (startup : Startup) (locals : Locals)
    (turns : List Turn) :
    (∀ message ∈ daemonMain pid startup locals turns,
      ∃ familyId cmd attributes, WellFormed pid familyId cmd attributes message) ∧
    (∀ index message familyId attributes,
      (daemonMain pid startup locals turns)[index]? = some message →
      WellFormed pid familyId averyCmdResponse attributes message →
        1 < index ∧ nlGetFamilyId startup.sent startup.reply = .family familyId ∧
          (daemonMain pid startup locals turns)[1]? = some (nlRegisterDaemon { familyId, pid })) := by
  have asked := wellFormed_familyRequest pid
  rw [daemonMain]
  split
  case isFalse => exact ⟨List.forall_mem_nil _, fun _ _ _ _ impossible => by cases impossible⟩
  case isTrue =>
      split
      case h_1 familyId found =>
          have registered := wellFormed_register { familyId, pid }
          have responses := wellFormed_mainLoop { familyId, pid } locals turns
          constructor
          · intro message member
            rcases List.mem_cons.mp member with rfl | later
            · exact ⟨_, _, _, asked⟩
            · rcases List.mem_cons.mp later with rfl | response
              · exact ⟨_, _, _, registered⟩
              · rcases responses message response with ⟨attributes, wellFormed⟩
                exact ⟨_, _, attributes, wellFormed⟩
          · intro index message other attributes sent response
            match index with
            | 0 =>
                cases sent
                exact absurd (asked.unique response).2 (by decide)
            | 1 =>
                cases sent
                exact absurd (registered.unique response).2 (by decide)
            | index + 2 =>
                rcases responses message (List.mem_of_getElem? sent) with ⟨_, wellFormed⟩
                rw [← (wellFormed.unique response).1]
                exact ⟨by omega, found, rfl⟩
      case h_2 =>
          constructor
          · intro message member
            rw [List.mem_singleton.mp member]
            exact ⟨_, _, _, asked⟩
          · intro index message other attributes sent response
            match index with
            | 0 =>
                cases sent
                exact absurd (asked.unique response).2 (by decide)
            | index + 1 => cases sent

/-- A daemon that finds its family and gets one request. -/
def servedOnce : List (List Byte) :=
  daemonMain 9 ⟨true, 36, .ofBytes namedReply.bytes fun _ => 0⟩ ⟨⟨0, 0⟩, Vector.replicate 16 0⟩
    [⟨.ofBytes mixedMessage.bytes fun _ => 0, .accepted 16, .received (List.replicate 16 7)⟩]

theorem servedOnce_registers_first :
    servedOnce[2]? = some (Response.layout.encode
        (nlSendResponse ⟨29, 9⟩ ⟨9, 7⟩ (Vector.replicate 16 7))) ∧
      servedOnce[1]? = some (nlRegisterDaemon ⟨29, 9⟩) := by
  have third : servedOnce[2]? = some (Response.layout.encode
      (nlSendResponse ⟨29, 9⟩ ⟨9, 7⟩ (Vector.replicate 16 7))) := by
    decide +kernel
  exact ⟨third, ((daemonMain_registers_first 9 _ _ _).2 2 _ 29 _ third
    (wellFormed_response ⟨29, 9⟩ _ _)).2.2⟩

end RemoteRootport.Netlink
