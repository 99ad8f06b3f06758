import Mathlib.Data.List.Forall2
import RemoteRootport.DoeEmu.Run

/-!
# Translation in the thin server

`serve` turns each configuration operation into a transaction and writes the
outcome of the reply back into the operation.  The emulator reads neither the
packet fields nor anything else the thin server adds, so a reply is that of the
bare access with the packet fields repeated.
-/

namespace RemoteRootport.Relay

open RemoteRootport.Bytes
open RemoteRootport.Wire
open RemoteRootport.DoeEmu

/-- `AVERY_OP_WRITE`. -/
def averyOpWrite : Dword := 0x10

/-- The transaction `serve` builds for an operation. -/
def translate (seq : Dword) (op : ConfigOp) : Transaction :=
  ({ Transaction.zero with
    packetNumber := seq
    packetType := 1
    simType := 1
    physicalAddress := op.offset.setWidth 64
    r0w1 := if op.type = averyOpWrite then 1 else 0
    dataSize := 4 }).setFirstDword op.value

/-- The operation after the reply has been copied into it. -/
def complete (op : ConfigOp) (rsp : Transaction) : ConfigOp :=
  { op with
    status := rsp.cmpStatus
    value := rsp.firstDword }

/-! ## The access without its packet -/

/-- The bare access an operation stands for. -/
def directly (op : ConfigOp) : Transaction :=
  ({ Transaction.zero with
    physicalAddress := op.offset.setWidth 64
    r0w1 := if op.type = averyOpWrite then 1 else 0
    dataSize := 4 }).setFirstDword op.value

/-- Put other packet fields on a transaction. -/
def relabel (packetNumber packetType simType : Dword) (record : Transaction) : Transaction :=
  { record with packetNumber, packetType, simType }

theorem translate_eq (seq : Dword) (op : ConfigOp) :
    translate seq op = relabel seq 1 1 (directly op) := rfl

theorem quits_directly (op : ConfigOp) : quits (directly op) = false := by
  change ((0 : Dword) &&& quitSimMask != 0) = false
  decide

variable (table : List Protocol)

theorem accessStep_relabel (packetNumber packetType simType : Dword) (doe : Doe)
    (req : Transaction) :
    accessStep table doe (relabel packetNumber packetType simType req) =
      (accessStep table doe req).map
        (Prod.map id (relabel packetNumber packetType simType)) := by
  have unfolded : accessStep table doe (relabel packetNumber packetType simType req) =
      if req.r0w1 = 0 then
        regRead doe (offsetOf req - doe.capBase) >>= fun val => .ok (doe,
          relabel packetNumber packetType simType ((accessReply req).setFirstDword val))
      else
        regWrite table doe (offsetOf req - doe.capBase) req.firstDword >>= fun next => .ok (next,
          relabel packetNumber packetType simType (accessReply req)) := rfl
  rw [unfolded, accessStep]
  by_cases read : req.r0w1 = 0
  · rw [if_pos read, if_pos read]
    cases regRead doe (offsetOf req - doe.capBase) <;> rfl
  · rw [if_neg read, if_neg read]
    cases regWrite table doe (offsetOf req - doe.capBase) req.firstDword <;> rfl

/-- The emulator passes packet fields through and does not look at them. -/
theorem runStep_relabel (packetNumber packetType simType : Dword) {doe next : Doe}
    {req rsp : Transaction} (stepped : runStep table doe req = .ok (some (next, rsp))) :
    runStep table doe (relabel packetNumber packetType simType req) =
      .ok (some (next, relabel packetNumber packetType simType rsp)) := by
  rcases runStep_cases stepped with
    ⟨running, undetected, write, rfl, rfl⟩ | ⟨running, served, accessed⟩
  · exact runStep_skip table running undetected write
  · have relabelled := accessStep_relabel table packetNumber packetType simType
      (doe.locate (offsetOf req)) req
    rw [accessed] at relabelled
    exact runStep_access table running served relabelled

/-! ## Operations answered by bare accesses -/

/-- A reply reports success, and value zero for a write. -/
structure Succeeds (op : ConfigOp) (rsp : Transaction) : Prop where
  status : rsp.cmpStatus = 0
  write : op.type = averyOpWrite → rsp.firstDword = 0

/-- The replies of a fresh emulator to the bare accesses of some operations. -/
structure Settled (ops : List ConfigOp) (doe : Doe) (replies : List Transaction) : Prop where
  ran : run table Doe.zero (ops.map directly) = .ok (doe, replies)
  succeeds : List.Forall₂ Succeeds ops replies

variable {table} {ops : List ConfigOp} {doe : Doe} {replies : List Transaction}

theorem Settled.length_eq (settled : Settled table ops doe replies) :
    replies.length = ops.length :=
  settled.succeeds.length_eq.symm

theorem runStep_succeeds {next : Doe} {op : ConfigOp} {rsp : Transaction}
    (stepped : runStep table doe (directly op) = .ok (some (next, rsp))) : Succeeds op rsp := by
  rcases runStep_reply stepped with ⟨output, rfl, unread⟩
  constructor
  · cases output with
    | none => rfl
    | some val => rfl
  · intro write
    have silent : output = none := by
      apply unread
      change (if op.type = averyOpWrite then (1 : Dword) else 0) ≠ 0
      rw [if_pos write]
      decide
    rw [silent]
    exact Transaction.firstDword_zero

/-- A further operation is always answered. -/
theorem Settled.next (settled : Settled table ops doe replies) (op : ConfigOp) :
    ∃ next rsp, runStep table doe (directly op) = .ok (some (next, rsp)) ∧
      Settled table (ops ++ [op]) next (replies ++ [rsp]) := by
  rcases run_represents_stream table represents_zero (ops.map directly) with
    ⟨reached, _, mailbox, ran, represents⟩
  rw [settled.ran] at ran
  cases ran
  rcases runStep_represents table represents (directly op) with
    ⟨quit, _⟩ | ⟨next, rsp, _, stepped, _⟩
  · rw [quits_directly] at quit
    cases quit
  · refine ⟨next, rsp, stepped, ?_, ?_⟩
    · rw [List.map_append]
      exact run_snoc table settled.ran (by rw [settled.length_eq, List.length_map]) stepped
    · exact List.rel_append settled.succeeds (.cons (runStep_succeeds stepped) .nil)

/-- The replies to further operations come behind those there are. -/
theorem Settled.extend (settled : Settled table ops doe replies) (rest : List ConfigOp) :
    ∃ final more, Settled table (ops ++ rest) final (replies ++ more) := by
  induction rest generalizing ops doe replies with
  | nil => exact ⟨doe, [], by rwa [List.append_nil, List.append_nil]⟩
  | cons op rest ih =>
      rcases settled.next op with ⟨next, rsp, _, nextSettled⟩
      rcases ih nextSettled with ⟨final, more, finalSettled⟩
      refine ⟨final, rsp :: more, ?_⟩
      rw [List.append_assoc, List.append_assoc] at finalSettled
      exact finalSettled

variable (table)

theorem settled_nil : Settled table [] Doe.zero [] :=
  ⟨rfl, .nil⟩

/-- What the device is to get back for an operation and the reply to it. -/
def expected (op : ConfigOp) (rsp : Transaction) : ConfigOp :=
  { op with
    status := 0
    value := rsp.firstDword }

theorem complete_eq_expected {op : ConfigOp} {rsp : Transaction} (succeeds : Succeeds op rsp) :
    complete op rsp = expected op rsp := by
  rw [complete, expected, succeeds.status]

end RemoteRootport.Relay
