import RemoteRootport.Bytes.Buffer
import RemoteRootport.Bytes.Layout
import RemoteRootport.Wire.Records

/-!
# The netlink request parser

Headers of a generic netlink message and `nl_recv_request`.  The parser trusts
the lengths it finds: it walks the attributes from offset 20 until `nlmsg_len` is
used up, whatever the length of the datagram, so it is modelled over all memory
from the start of the receive buffer on.  An attribute whose `nla_len` is zero
leaves the walk where it is, and the loop never ends.
-/

namespace RemoteRootport.Netlink

open RemoteRootport.Bytes
open RemoteRootport.Wire

/-! ## Headers -/

def half : Layout (BitVec 16) :=
  Layout.word 16 2 (by decide)

def octet : Layout Byte :=
  Layout.word 8 1 (by decide)

/-- `struct nlmsghdr`. -/
structure Nlmsghdr where
  nlmsgLen : Dword
  nlmsgType : BitVec 16
  nlmsgFlags : BitVec 16
  nlmsgSeq : Dword
  nlmsgPid : Dword
  deriving DecidableEq, Repr

def Nlmsghdr.layout : Layout Nlmsghdr :=
  (dword.pair (half.pair (half.pair (dword.pair dword)))).via
    (fun nlh => (nlh.nlmsgLen, nlh.nlmsgType, nlh.nlmsgFlags, nlh.nlmsgSeq, nlh.nlmsgPid))
    (fun (nlmsgLen, nlmsgType, nlmsgFlags, nlmsgSeq, nlmsgPid) =>
      { nlmsgLen, nlmsgType, nlmsgFlags, nlmsgSeq, nlmsgPid })
    (fun _ => rfl)

/-- `struct genlmsghdr`. -/
structure Genlmsghdr where
  cmd : Byte
  version : Byte
  reserved : BitVec 16
  deriving DecidableEq, Repr

def Genlmsghdr.layout : Layout Genlmsghdr :=
  (octet.pair (octet.pair half)).via
    (fun genl => (genl.cmd, genl.version, genl.reserved))
    (fun (cmd, version, reserved) => { cmd, version, reserved })
    (fun _ => rfl)

/-- `struct nlattr`. -/
structure Nlattr where
  nlaLen : BitVec 16
  nlaType : BitVec 16
  deriving DecidableEq, Repr

def Nlattr.layout : Layout Nlattr :=
  (half.pair half).via (fun attr => (attr.nlaLen, attr.nlaType))
    (fun (nlaLen, nlaType) => { nlaLen, nlaType }) (fun _ => rfl)

/-- `NLMSG_HDRLEN`. -/
def nlmsgHdrlen : Nat := Nlmsghdr.layout.size

/-- `NLMSG_LENGTH(GENL_HDRLEN)`: where the first attribute starts. -/
def attrStart : Nat := nlmsgHdrlen + Genlmsghdr.layout.size

/-- `NLA_HDRLEN`. -/
def nlaHdrlen : Nat := Nlattr.layout.size

/-- `NLA_ALIGN`: clear the two low bits of `len + 3`. -/
def nlaAlign (len : Nat) : Nat := (len + 3) / 4 * 4

/-- `AVERY_CMD_REQUEST`. -/
def averyCmdRequest : Byte := 1

/-- `AVERY_CMD_RESPONSE`. -/
def averyCmdResponse : Byte := 2

/-- `AVERY_ATTR_OP`. -/
def averyAttrOp : BitVec 16 := 1

/-! ## The attribute walk -/

/-- Memory from the start of the receive buffer on. -/
abbrev Memory := Nat → Byte

def Memory.read (memory : Memory) (offset count : Nat) : List Byte :=
  (List.range count).map fun index => memory (offset + index)

/-- The object of a layout at an offset. -/
def Memory.view {α : Type} (memory : Memory) (layout : Layout α) (offset : Nat) : α :=
  layout.decode (memory.read offset layout.size)

namespace Memory

variable {α β : Type}

@[simp] theorem length_read (memory : Memory) (offset count : Nat) :
    (memory.read offset count).length = count := by
  rw [read, List.length_map, List.length_range]

theorem read_add (memory : Memory) (offset first second : Nat) :
    memory.read offset (first + second) =
      memory.read offset first ++ memory.read (offset + first) second := by
  rw [read, List.range_add, List.map_append, List.map_map]
  simp only [read, Function.comp_def, Nat.add_assoc]

/-- The members of a pair lie one behind the other. -/
theorem view_pair (memory : Memory) (first : Layout α) (second : Layout β) (offset : Nat) :
    memory.view (first.pair second) offset =
      (memory.view first offset, memory.view second (offset + first.size)) := by
  have parts := memory.read_add offset first.size second.size
  have length := memory.length_read offset first.size
  change (first.decode ((memory.read offset (first.size + second.size)).take first.size),
    second.decode ((memory.read offset (first.size + second.size)).drop first.size)) = _
  rw [parts, List.take_left' length, List.drop_left' length]
  rfl

theorem read_congr {memory other : Memory} {offset count : Nat}
    (agree : ∀ position, offset ≤ position → position < offset + count →
      memory position = other position) :
    memory.read offset count = other.read offset count := by
  apply List.map_congr_left
  intro index bound
  rw [List.mem_range] at bound
  exact agree (offset + index) (Nat.le_add_right _ _) (Nat.add_lt_add_left bound _)

/-- A view depends on the bytes of its own size only. -/
theorem view_congr {memory other : Memory} {layout : Layout α} {offset : Nat}
    (agree : ∀ position, offset ≤ position → position < offset + layout.size →
      memory position = other position) :
    memory.view layout offset = other.view layout offset :=
  congrArg layout.decode (read_congr agree)

theorem view_nlaLen (memory : Memory) (offset : Nat) :
    (memory.view Nlattr.layout offset).nlaLen = memory.view half offset :=
  congrArg Prod.fst (memory.view_pair half half offset)

theorem view_nlaType (memory : Memory) (offset : Nat) :
    (memory.view Nlattr.layout offset).nlaType = memory.view half (offset + 2) :=
  congrArg Prod.snd (memory.view_pair half half offset)

end Memory

/-- How far a bounded number of iterations gets. -/
inductive Walk where
  | found (offset : Nat)
  | absent
  | running
  deriving DecidableEq, Repr

/-- `fuel` iterations of the loop over the attributes. -/
def attrWalk (memory : Memory) (wanted : BitVec 16) (fuel : Nat) (attrlen : Int)
    (offset : Nat) : Walk :=
  if attrlen ≤ 0 then
    .absent
  else
    match fuel with
    | 0 => .running
    | fuel + 1 =>
        let attr := memory.view Nlattr.layout offset
        if attr.nlaType = wanted then
          .found offset
        else
          let length := nlaAlign attr.nlaLen.toNat
          attrWalk memory wanted fuel (attrlen - length) (offset + length)

variable {memory : Memory} {wanted : BitVec 16}

theorem attrWalk_zero {attrlen : Int} (left : 0 < attrlen) (offset : Nat) :
    attrWalk memory wanted 0 attrlen offset = .running := by
  rw [attrWalk, if_neg (Int.not_le.mpr left)]

theorem attrWalk_spent {attrlen : Int} {offset : Nat} (spent : ¬0 < attrlen) (fuel : Nat) :
    attrWalk memory wanted fuel attrlen offset = .absent := by
  rw [attrWalk.eq_def, if_pos (Int.not_lt.mp spent)]

theorem attrWalk_here {attrlen : Int} {offset : Nat} (left : 0 < attrlen)
    (typed : (memory.view Nlattr.layout offset).nlaType = wanted) (fuel : Nat) :
    attrWalk memory wanted (fuel + 1) attrlen offset = .found offset := by
  rw [attrWalk, if_neg (Int.not_le.mpr left)]
  exact if_pos typed

theorem attrWalk_skip {attrlen : Int} {offset : Nat} (left : 0 < attrlen)
    (other : (memory.view Nlattr.layout offset).nlaType ≠ wanted) (fuel : Nat) :
    attrWalk memory wanted (fuel + 1) attrlen offset =
      attrWalk memory wanted fuel
        (attrlen - nlaAlign (memory.view Nlattr.layout offset).nlaLen.toNat)
        (offset + nlaAlign (memory.view Nlattr.layout offset).nlaLen.toNat) := by
  rw [attrWalk, if_neg (Int.not_le.mpr left)]
  exact if_neg other

/-- What a walk that is still running has seen. -/
theorem attrWalk_running {attrlen : Int} {offset fuel : Nat}
    (running : attrWalk memory wanted (fuel + 1) attrlen offset = .running) :
    0 < attrlen ∧ (memory.view Nlattr.layout offset).nlaType ≠ wanted := by
  by_cases left : 0 < attrlen
  · refine ⟨left, ?_⟩
    intro typed
    rw [attrWalk_here left typed] at running
    cases running
  · rw [attrWalk_spent left] at running
    cases running

/-- An attribute of length zero that is not the wanted one stops the walk from
getting anywhere. -/
theorem attrWalk_stuck {attrlen : Int} {offset : Nat} (left : 0 < attrlen)
    (other : (memory.view Nlattr.layout offset).nlaType ≠ wanted)
    (empty : nlaAlign (memory.view Nlattr.layout offset).nlaLen.toNat = 0) (fuel : Nat) :
    attrWalk memory wanted fuel attrlen offset = .running := by
  induction fuel with
  | zero => exact attrWalk_zero left offset
  | succ fuel ih =>
      rw [attrWalk_skip left other, empty, Int.natCast_zero, Int.sub_zero, Nat.add_zero]
      exact ih

/-! ## `nl_recv_request` -/

/-- `struct pending_req`. -/
structure PendingReq where
  portid : Dword
  seq : Dword
  deriving DecidableEq, Repr

/-- The variables of `main` that the parser fills in. -/
structure Locals where
  req : PendingReq
  op : Block ConfigOp.layout.size
  deriving DecidableEq, Repr

/-- What `recv` reports, and the memory it leaves behind. -/
structure Datagram where
  len : Int
  memory : Memory

namespace Datagram

/-- A datagram of given bytes; what lies behind them in memory is arbitrary. -/
def ofBytes (bytes : List Byte) (behind : Memory) : Datagram where
  len := bytes.length
  memory position := bytes.getD position (behind position)

def nlh (datagram : Datagram) : Nlmsghdr :=
  datagram.memory.view Nlmsghdr.layout 0

def genl (datagram : Datagram) : Genlmsghdr :=
  datagram.memory.view Genlmsghdr.layout nlmsgHdrlen

/-- The unsigned difference of `nlmsg_len` and 20, converted to `int`. -/
def attrlen (datagram : Datagram) : Int :=
  (datagram.nlh.nlmsgLen - BitVec.ofNat 32 attrStart).toInt

def req (datagram : Datagram) : PendingReq where
  portid := datagram.nlh.nlmsgPid
  seq := datagram.nlh.nlmsgSeq

/-- The loop of the parser; by `attrWalk_never_ends` it is `running` only if the
loop never ends. -/
def walk (datagram : Datagram) : Walk :=
  attrWalk datagram.memory averyAttrOp datagram.attrlen.toNat datagram.attrlen attrStart

/-- The bytes copied from behind the header of the attribute at an offset. -/
def op (datagram : Datagram) (offset : Nat) : Block ConfigOp.layout.size :=
  datagram.memory.view (Block.layout ConfigOp.layout.size) (offset + nlaHdrlen)

theorem toList_op (datagram : Datagram) (offset : Nat) :
    (datagram.op offset).toList =
      datagram.memory.read (offset + nlaHdrlen) ConfigOp.layout.size :=
  Block.toList_decode (datagram.memory.length_read _ _)

end Datagram

/-- How `nl_recv_request` ends: with -1, with 0, or not at all. -/
inductive Parsed where
  | refused (locals : Locals)
  | request (locals : Locals)
  | hangs
  deriving DecidableEq, Repr

def nlRecvRequest (locals : Locals) (datagram : Datagram) : Parsed :=
  if datagram.len ≤ 0 then
    .refused locals
  else if datagram.genl.cmd ≠ averyCmdRequest then
    .refused locals
  else
    match datagram.walk with
    | .found offset => .request { req := datagram.req, op := datagram.op offset }
    | .absent => .refused { locals with req := datagram.req }
    | .running => .hangs

/-! ## What the parser makes of a datagram -/

/-- The datagram has the command of a request. -/
def Datagram.commands (datagram : Datagram) : Bool :=
  0 < datagram.len && datagram.genl.cmd == averyCmdRequest

/-- The parser never comes back from the datagram. -/
def Datagram.hangs (datagram : Datagram) : Bool :=
  datagram.commands && datagram.walk == .running

/-- The request in the datagram, if there is one. -/
def Datagram.request (datagram : Datagram) : Option Locals :=
  if datagram.commands then
    match datagram.walk with
    | .found offset => some { req := datagram.req, op := datagram.op offset }
    | _ => none
  else
    none

theorem nlRecvRequest_of_not_commands (locals : Locals) {datagram : Datagram}
    (other : datagram.commands = false) : nlRecvRequest locals datagram = .refused locals := by
  rw [Datagram.commands, Bool.and_eq_false_iff, decide_eq_false_iff_not, Int.not_lt,
    beq_eq_false_iff_ne] at other
  rw [nlRecvRequest]
  split
  case isTrue => rfl
  case isFalse received => exact if_pos (other.resolve_left received)

theorem nlRecvRequest_of_commands (locals : Locals) {datagram : Datagram}
    (commands : datagram.commands = true) :
    nlRecvRequest locals datagram =
      match datagram.walk with
      | .found offset => .request { req := datagram.req, op := datagram.op offset }
      | .absent => .refused { locals with req := datagram.req }
      | .running => .hangs := by
  rw [Datagram.commands, Bool.and_eq_true, decide_eq_true_eq, beq_iff_eq] at commands
  rw [nlRecvRequest, if_neg (Int.not_le.mpr commands.1), if_neg (not_not_intro commands.2)]

/-- How the parser ends is decided by the datagram alone; what it refuses may still
have changed `req`. -/
theorem nlRecvRequest_cases (locals : Locals) (datagram : Datagram) :
    (∃ next, nlRecvRequest locals datagram = .refused next ∧
      datagram.hangs = false ∧ datagram.request = none) ∨
    (∃ next, nlRecvRequest locals datagram = .request next ∧
      datagram.hangs = false ∧ datagram.request = some next) ∨
    (nlRecvRequest locals datagram = .hangs ∧ datagram.hangs = true) := by
  rw [Datagram.hangs, Datagram.request]
  cases commands : datagram.commands with
  | false =>
      rw [nlRecvRequest_of_not_commands locals commands]
      exact Or.inl ⟨locals, rfl, rfl, rfl⟩
  | true =>
      rw [nlRecvRequest_of_commands locals commands]
      cases datagram.walk with
      | found offset => exact Or.inr (Or.inl ⟨_, rfl, rfl, rfl⟩)
      | absent => exact Or.inl ⟨_, rfl, rfl, rfl⟩
      | running => exact Or.inr (Or.inr ⟨rfl, rfl⟩)

/-- The parser returns 0 exactly with the operation its loop finds. -/
theorem nlRecvRequest_eq_request_iff {locals next : Locals} {datagram : Datagram} :
    nlRecvRequest locals datagram = .request next ↔
      datagram.commands = true ∧ ∃ offset, datagram.walk = .found offset ∧
        next = { req := datagram.req, op := datagram.op offset } := by
  cases commands : datagram.commands with
  | false => simp [nlRecvRequest_of_not_commands locals commands]
  | true =>
      rw [nlRecvRequest_of_commands locals commands]
      cases datagram.walk with
      | found offset => simp [eq_comm]
      | absent => simp
      | running => simp

/-- A request carries the identifiers of its datagram. -/
theorem Datagram.req_of_request {datagram : Datagram} {found : Locals}
    (request : datagram.request = some found) : found.req = datagram.req := by
  rw [Datagram.request] at request
  rcases Option.ite_none_right_eq_some.mp request with ⟨-, walked⟩
  split at walked
  case h_1 =>
      cases walked
      rfl
  case h_2 => cases walked

end RemoteRootport.Netlink
