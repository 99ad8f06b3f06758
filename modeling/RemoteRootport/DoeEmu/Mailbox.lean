import RemoteRootport.DoeEmu.Registers

/-!
# What a DOE mailbox is for

The abstract mailbox: a request being written, a response being drained and a
status.  It has no buffers and therefore nothing stale; a request is answered by
a function of its dwords alone.  The concrete emulator is shown to refine this
machine, and the properties of whole access sequences are proved here.
-/

namespace RemoteRootport.DoeEmu

open RemoteRootport.Bytes
open RemoteRootport.Machine

/-! ## Responses -/

/-- A response data object before its two header dwords are put in front. -/
structure Response where
  type : Byte
  payload : List Dword
  deriving DecidableEq, Repr

/-- The dwords of a response: vendor and type, total length, payload. -/
def Response.dwords (response : Response) : List Dword :=
  header doeVidPcisig response.type ::
    BitVec.ofNat 32 (2 + response.payload.length) :: response.payload

@[simp] theorem Response.length_dwords (response : Response) :
    response.dwords.length = 2 + response.payload.length := by
  simp only [dwords, List.length_cons]
  omega

theorem Response.dwords_ne_nil (response : Response) : response.dwords ≠ [] :=
  List.cons_ne_nil _ _

/-- The length word of a response that fits the buffer. -/
theorem Response.toNat_lengthWord (response : Response)
    (fits : response.dwords.length ≤ doeBufDwords) :
    (BitVec.ofNat 32 (2 + response.payload.length)).toNat = response.dwords.length := by
  rw [length_dwords] at fits ⊢
  rw [BitVec.toNat_ofNat]
  rw [doeBufDwords] at fits
  omega

/-- The row at an index, as far as `NUM_PROTOCOLS` reaches. -/
def rowAt (table : List Protocol) (index : Dword) : Option Protocol :=
  if index < numProtocols table then table[index.toNat]? else none

/-- The index discovery continues with, zero after the last row. -/
def nextIndex (table : List Protocol) (index : Dword) : Dword :=
  if index + 1 < numProtocols table then index + 1 else 0

/-- Payload of a discovery response. -/
def discoveryPayload (table : List Protocol) (index : Dword) : List Dword :=
  match rowAt table index with
  | some row => [header row.vid row.type, nextIndex table index]
  | none => [0, 0]

def versionBytes : List Byte :=
  [0x10, spdmRspVersion, 0, 0, 0, 0, 2, 0, 0x00, 0x10, 0x00, 0x12]

def capsBytes (ver : Byte) : List Byte :=
  [ver, spdmRspCaps, 0, 0, 0, 12, 0, 0, 0x2C, 0, 0, 0]

def algosBytes (ver : Byte) : List Byte :=
  [ver, spdmRspAlgos, 0, 0, 36, 0, spdmMeasDmtf, 0, 2, 0, 0, 0, 1, 0, 0, 0] ++
    List.replicate 20 0

def errorBytes : List Byte :=
  [0x10, spdmRspError, spdmErrUnsup, 0]

/-- SPDM message answering a version and a request code. -/
def spdmBytes (ver code : Byte) : List Byte :=
  if code = spdmGetVersion then versionBytes
  else if code = spdmGetCaps then capsBytes ver
  else if code = spdmNegAlgos then algosBytes ver
  else errorBytes

/-- The response to a discovery request for an index. -/
def discoveryResponse (table : List Protocol) (index : Dword) : Response where
  type := doeTypeDisc
  payload := discoveryPayload table index

/-- The response to an SPDM request over one of the two SPDM types. -/
def spdmResponse (type ver code : Byte) : Response where
  type := type
  payload := packWords (spdmBytes ver code)

/-- The response to a served type and the third dword of its request. -/
def respond (table : List Protocol) (type : Byte) (third : Dword) : Response :=
  if type = doeTypeDisc then discoveryResponse table (third &&& 0xFF)
  else spdmResponse type (laneOf third 0) (laneOf third 1)

/-- The protocols that are served. -/
def Served (vid : BitVec 16) (type : Byte) : Prop :=
  vid = doeVidPcisig ∧
    (type = doeTypeDisc ∨ type = doeTypeCmaSpdm ∨ type = doeTypeSecuredCmaSpdm)

instance (vid : BitVec 16) (type : Byte) : Decidable (Served vid type) :=
  inferInstanceAs (Decidable (_ ∧ _))

/-- The answer to a request, `none` standing for an error. -/
def answer (table : List Protocol) : List Dword → Option Response
  | first :: _ :: third :: _ =>
      if Served (headerVid first) (headerType first) then
        some (respond table (headerType first) third)
      else
        none
  | _ => none

theorem answer_of_served (table : List Protocol) {first second third : Dword}
    {rest : List Dword} (served : Served (headerVid first) (headerType first)) :
    answer table (first :: second :: third :: rest) =
      some (respond table (headerType first) third) :=
  if_pos served

/-- A request is refused exactly when it is too short or not served. -/
theorem answer_eq_none_iff (table : List Protocol) (request : List Dword) :
    answer table request = none ↔
      request.length < 2 ∨
      (∃ first rest, request = first :: rest ∧ ¬Served (headerVid first) (headerType first)) ∨
      request.length < 3 := by
  match request with
  | [] | [_] | [_, _] => simp [answer]
  | first :: second :: third :: rest =>
      by_cases served : Served (headerVid first) (headerType first)
      · simp [answer_of_served table served, served]
      · simp [answer, served]

theorem answer_eq_some {table : List Protocol} {request : List Dword} {response : Response}
    (answered : answer table request = some response) :
    ∃ first second third rest, request = first :: second :: third :: rest ∧
      Served (headerVid first) (headerType first) ∧
      response = respond table (headerType first) third := by
  match request with
  | [] | [_] | [_, _] => cases answered
  | first :: second :: third :: rest =>
      by_cases served : Served (headerVid first) (headerType first)
      · rw [answer_of_served table served] at answered
        cases answered
        exact ⟨first, second, third, rest, rfl, served, rfl⟩
      · have refused : answer table (first :: second :: third :: rest) = none := if_neg served
        rw [refused] at answered
        cases answered

theorem respond_type (table : List Protocol) (type : Byte) (third : Dword) :
    (respond table type third).type = type := by
  rw [respond]
  by_cases discovery : type = doeTypeDisc
  · rw [if_pos discovery, discovery]
    rfl
  · rw [if_neg discovery]
    rfl

theorem respond_discovery (table : List Protocol) (third : Dword) :
    respond table doeTypeDisc third = discoveryResponse table (third &&& 0xFF) :=
  if_pos rfl

theorem respond_spdm (table : List Protocol) {type : Byte} (third : Dword)
    (spdm : type = doeTypeCmaSpdm ∨ type = doeTypeSecuredCmaSpdm) :
    respond table type third = spdmResponse type (laneOf third 0) (laneOf third 1) := by
  apply if_neg
  rcases spdm with equal | equal <;> rw [equal] <;> decide

/-! ## The abstract machine -/

inductive Status where
  | idle
  | error
  | ready
  deriving DecidableEq, Repr

/-- Encoding of the status register. -/
def Status.code : Status → Dword
  | .idle => 0
  | .error => doeStatusError
  | .ready => doeStatusDataObjectReady

theorem Status.code_injective : Function.Injective Status.code := by
  intro left right equality
  cases left <;> cases right <;> first | rfl | (exact absurd equality (by decide))

theorem error_ne_ready : doeStatusError ≠ doeStatusDataObjectReady := by
  decide

/-- Request under construction, response dwords not yet acknowledged, status. -/
structure Mailbox where
  status : Status
  request : List Dword
  response : List Dword
  fits : request.length ≤ doeBufDwords
  ready_pending : status = .ready → response ≠ []
  idle_drained : status = .idle → response = []

namespace Mailbox

/-- The mailbox after initialisation or an abort. -/
def empty : Mailbox where
  status := .idle
  request := []
  response := []
  fits := Nat.zero_le _
  ready_pending := by intro impossible; cases impossible
  idle_drained := fun _ => rfl

/-- Append a request dword; a full mailbox drops it. -/
def push (mailbox : Mailbox) (word : Dword) : Mailbox :=
  if room : mailbox.request.length < doeBufDwords then
    { mailbox with
      request := mailbox.request ++ [word]
      fits := by rw [List.length_append, List.length_singleton]; exact room }
  else
    mailbox

/-- Acknowledge one response dword. -/
def ack (mailbox : Mailbox) : Mailbox :=
  if last : mailbox.response.tail = [] then
    { mailbox with
      status := .idle
      response := []
      ready_pending := by intro impossible; cases impossible
      idle_drained := fun _ => rfl }
  else
    { mailbox with
      response := mailbox.response.tail
      ready_pending := fun _ => last
      idle_drained := fun idle => by rw [mailbox.idle_drained idle, List.tail_nil] }

/-- Process the request.  A failed request leaves the response side alone. -/
def go (table : List Protocol) (mailbox : Mailbox) : Mailbox :=
  match answer table mailbox.request with
  | some response =>
      { status := .ready
        request := []
        response := response.dwords
        fits := Nat.zero_le _
        ready_pending := fun _ => response.dwords_ne_nil
        idle_drained := by intro impossible; cases impossible }
  | none =>
      { mailbox with
        status := .error
        request := []
        fits := Nat.zero_le _
        ready_pending := by intro impossible; cases impossible
        idle_drained := by intro impossible; cases impossible }

/-- Value of a register. -/
def read (mailbox : Mailbox) (reg : Dword) : Dword :=
  if reg = doeRegStatus then mailbox.status.code
  else if reg = doeRegRead then mailbox.response.head?.getD 0xFFFFFFFF
  else 0

/-- Effect of a control value: abort first, then start. -/
def control (table : List Protocol) (mailbox : Mailbox) (val : Dword) : Mailbox :=
  let mailbox := if hasAbort val then empty else mailbox
  if hasGo val then mailbox.go table else mailbox

/-- Effect of a register write. -/
def write (table : List Protocol) (mailbox : Mailbox) (reg val : Dword) : Mailbox :=
  if reg = doeRegCtrl then mailbox.control table val
  else if reg = doeRegWrite then mailbox.push val
  else if reg = doeRegRead then (if val = 0 then mailbox.ack else mailbox)
  else mailbox

/-- One access. -/
def step (table : List Protocol) (mailbox : Mailbox) : Access → Mailbox × Option Dword
  | .read reg => (mailbox, some (mailbox.read reg))
  | .write reg val => (mailbox.write table reg val, none)

/-- State after a sequence of accesses. -/
def after (table : List Protocol) (mailbox : Mailbox) (accesses : List Access) : Mailbox :=
  (Transducer.specRun (step table) mailbox accesses).1

/-- What one access can do to the abstract mailbox.  Everything that is not a
control write with a bit set, a request dword or an acknowledgement is inert. -/
theorem step_cases (table : List Protocol) (mailbox : Mailbox) (access : Access) :
    (∃ val, access = .write doeRegCtrl val ∧ (hasGo val || hasAbort val) = true ∧
      (mailbox.step table access).1 = mailbox.control table val) ∨
    (∃ val, access = .write doeRegWrite val ∧
      (mailbox.step table access).1 = mailbox.push val) ∨
    (access = .write doeRegRead 0 ∧ (mailbox.step table access).1 = mailbox.ack) ∨
    (access.isControl = false ∧ access.isPush = false ∧ access.isAck = false ∧
      (mailbox.step table access).1 = mailbox) := by
  cases access with
  | read reg => exact Or.inr (Or.inr (Or.inr ⟨rfl, rfl, rfl, rfl⟩))
  | write reg val =>
      by_cases ctrl : reg = doeRegCtrl
      · subst ctrl
        cases bits : (hasGo val || hasAbort val) with
        | true => exact Or.inl ⟨val, rfl, bits, rfl⟩
        | false =>
            have clear := Bool.or_eq_false_iff.mp bits
            refine Or.inr (Or.inr (Or.inr ⟨?_, rfl, rfl, ?_⟩))
            · rw [Access.isControl, bits, Bool.and_false]
            · change mailbox.control table val = mailbox
              rw [control, clear.1, clear.2]
              rfl
      by_cases push : reg = doeRegWrite
      · subst push
        exact Or.inr (Or.inl ⟨val, rfl, rfl⟩)
      by_cases data : reg = doeRegRead
      · subst data
        by_cases zero : val = 0
        · subst zero
          exact Or.inr (Or.inr (Or.inl ⟨rfl, rfl⟩))
        · refine Or.inr (Or.inr (Or.inr ⟨rfl, rfl, ?_, ?_⟩))
          · rw [Access.isAck, beq_false_of_ne zero, Bool.and_false]
          · exact if_neg zero
      · refine Or.inr (Or.inr (Or.inr ⟨?_, ?_, ?_, ?_⟩))
        · rw [Access.isControl, beq_false_of_ne ctrl, Bool.false_and]
        · rw [Access.isPush, beq_false_of_ne push]
        · rw [Access.isAck, beq_false_of_ne data, Bool.false_and]
        · change mailbox.write table reg val = mailbox
          rw [write, if_neg ctrl, if_neg push, if_neg data]

@[ext] theorem ext {left right : Mailbox} (status : left.status = right.status)
    (request : left.request = right.request) (response : left.response = right.response) :
    left = right := by
  cases left
  cases right
  cases status
  cases request
  cases response
  rfl

@[simp] theorem after_nil (table : List Protocol) (mailbox : Mailbox) :
    mailbox.after table [] = mailbox := rfl

@[simp] theorem after_cons (table : List Protocol) (mailbox : Mailbox) (first : Access)
    (rest : List Access) :
    mailbox.after table (first :: rest) = (mailbox.step table first).1.after table rest := rfl

theorem after_append (table : List Protocol) (mailbox : Mailbox)
    (first second : List Access) :
    mailbox.after table (first ++ second) =
      (mailbox.after table first).after table second := by
  rw [after, Transducer.specRun_append]
  rfl

end Mailbox

end RemoteRootport.DoeEmu
