import RemoteRootport.DoeEmu.Device
import RemoteRootport.Log.Entry

/-!
# The log of the emulator

What `doe-emu` logs while it answers transactions.  Every access but a non-zero write
to the read mailbox begins with a line of its own, from which the access and its
result can be read off; the other lines say what became of a control write or an
acknowledgement.  The text of a log therefore determines what the host did as far as
it matters to the device, and the device itself.
-/

namespace RemoteRootport.DoeEmu

open RemoteRootport.Bytes
open RemoteRootport.Log
open RemoteRootport.Machine
open RemoteRootport.Text
open RemoteRootport.Wire

/-! ## Messages -/

/-- The `LOG` calls of `run` and of what it calls. -/
inductive LogKind where
  | discovery
  | protocol
  | endOfList
  | spdmError
  | spdm
  | spdmVersion
  | spdmCaps
  | spdmAlgos
  | malformed
  | processing
  | unsupported
  | status
  | readOverrun
  | readDword
  | unhandledRead
  | ctrl
  | abort
  | go
  | write
  | ack
  | consumed
  | unhandledWrite
  | quit
  | capBase
  deriving DecidableEq, Repr

/-- The format strings of the calls. -/
def LogKind.format : LogKind → Format
  | .discovery => [.text "doe-emu: discovery index=", .unsigned 0, .text "\n"]
  | .protocol =>
      [.text "doe-emu: → VID=0x", .hex 4, .text " Type=0x", .hex 2, .text " next=", .unsigned 0,
        .text "\n"]
  | .endOfList => [.text "doe-emu: → end of list\n"]
  | .spdmError => [.text "doe-emu: SPDM error 0x", .hex 2, .text "\n"]
  | .spdm => [.text "doe-emu: SPDM ver=0x", .hex 2, .text " code=0x", .hex 2, .text "\n"]
  | .spdmVersion => [.text "doe-emu: SPDM → VERSION (1.0, 1.2)\n"]
  | .spdmCaps => [.text "doe-emu: SPDM → CAPABILITIES flags=0x", .hex 8, .text "\n"]
  | .spdmAlgos => [.text "doe-emu: SPDM → ALGORITHMS asym=RSA2048 hash=SHA256\n"]
  | .malformed => [.text "doe-emu: malformed request (len=", .signed, .text ")\n"]
  | .processing =>
      [.text "doe-emu: processing VID=0x", .hex 4, .text " Type=0x", .hex 2, .text "\n"]
  | .unsupported => [.text "doe-emu: unsupported protocol\n"]
  | .status => [.text "doe-emu: STATUS → 0x", .hex 8, .text "\n"]
  | .readOverrun => [.text "doe-emu: READ overrun\n"]
  | .readDword => [.text "doe-emu: READ[", .signed, .text "] → 0x", .hex 8, .text "\n"]
  | .unhandledRead => [.text "doe-emu: unhandled read reg=0x", .hex 2, .text "\n"]
  | .ctrl => [.text "doe-emu: CTRL ← 0x", .hex 8, .text "\n"]
  | .abort => [.text "doe-emu: ABORT\n"]
  | .go => [.text "doe-emu: GO\n"]
  | .write => [.text "doe-emu: WRITE[", .signed, .text "] ← 0x", .hex 8, .text "\n"]
  | .ack => [.text "doe-emu: READ ack → ", .signed, .text "/", .signed, .text "\n"]
  | .consumed => [.text "doe-emu: response consumed\n"]
  | .unhandledWrite =>
      [.text "doe-emu: unhandled write reg=0x", .hex 2, .text " val=0x", .hex 8, .text "\n"]
  | .quit => [.text "doe-emu: quit received\n"]
  | .capBase => [.text "doe-emu: cap_base=0x", .hex 0, .text " (auto-detected)\n"]

def logKinds : List LogKind :=
  [.discovery, .protocol, .endOfList, .spdmError, .spdm, .spdmVersion, .spdmCaps, .spdmAlgos,
    .malformed, .processing, .unsupported, .status, .readOverrun, .readDword, .unhandledRead,
    .ctrl, .abort, .go, .write, .ack, .consumed, .unhandledWrite, .quit, .capBase]

theorem apart_leads :
    logKinds.Pairwise fun kind other => Apart (lead kind.format) (lead other.format) := by
  have leads : (logKinds.map fun kind => lead kind.format).Pairwise Apart := by
    simp only [logKinds, List.map_cons, List.map_nil, LogKind.format, lead, String.reduceToList]
    decide +kernel
  exact List.pairwise_map.mp leads

/-- No two calls begin with the same words. -/
def doeLog : Catalogue LogKind where
  format := LogKind.format
  kinds := logKinds
  complete kind := by cases kind <;> decide
  delimited kind := by cases kind <;> decide
  apart := apart_leads

abbrev LogLine := doeLog.Message

/-- One call of `LOG`. -/
def log (kind : LogKind) (args : Args kind.format) : LogLine :=
  ⟨kind, args⟩

/-! ## What each function logs -/

/-- The calls of `doe_handle_discovery`. -/
def doeHandleDiscoveryLog (table : List Protocol) (doe : Doe) : Except Fault (List LogLine) :=
  if doe.reqLen < 3 then
    .ok []
  else do
    let payload ← doe.reqBuf.load 2
    let index := payload &&& 0xFF
    let next := if index + 1 < numProtocols table then index + 1 else 0
    if index < numProtocols table then do
      let row ← protocolAt table index
      .ok [log .discovery (index.toNat, ()),
        log .protocol (row.vid.toNat, row.type.toNat, next.toNat, ())]
    else
      .ok [log .discovery (index.toNat, ()), log .endOfList ()]

/-- The calls of `spdm_handle` and `spdm_error`. -/
def spdmHandleLog (doe : Doe) : Except Fault (List LogLine) :=
  if doe.reqLen < 3 then
    .ok []
  else do
    let ver ← doe.reqBuf.loadByte 8
    let code ← doe.reqBuf.loadByte 9
    let outcome :=
      if code = spdmGetVersion then log .spdmVersion ()
      else if code = spdmGetCaps then
        log .spdmCaps ((spdmCapCert ||| spdmCapChal ||| spdmCapMeas).toNat, ())
      else if code = spdmNegAlgos then log .spdmAlgos ()
      else log .spdmError (spdmErrUnsup.toNat, ())
    .ok [log .spdm (ver.toNat, code.toNat, ()), outcome]

/-- The calls of `doe_process`. -/
def doeProcessLog (table : List Protocol) (doe : Doe) : Except Fault (List LogLine) :=
  if doe.reqLen < 2 then
    .ok [log .malformed (doe.reqLen, ())]
  else do
    let first ← doe.reqBuf.load 0
    let vid := headerVid first
    let type := headerType first
    let lines ←
      if vid = doeVidPcisig ∧ type = doeTypeDisc then
        doeHandleDiscoveryLog table doe
      else if vid = doeVidPcisig ∧ (type = doeTypeCmaSpdm ∨ type = doeTypeSecuredCmaSpdm) then
        spdmHandleLog doe
      else
        .ok [log .unsupported ()]
    .ok (log .processing (vid.toNat, type.toNat, ()) :: lines)

/-- The calls of `reg_read`. -/
def regReadLog (doe : Doe) (reg : Dword) : Except Fault (List LogLine) :=
  if reg = doeRegStatus then
    .ok [log .status (doe.status.toNat, ())]
  else if reg = doeRegRead then
    if doe.rspIdx ≥ doe.rspLen then
      .ok [log .readOverrun ()]
    else do
      let dword ← doe.rspBuf.load doe.rspIdx
      .ok [log .readDword (doe.rspIdx, dword.toNat, ())]
  else
    .ok [log .unhandledRead (reg.toNat, ())]

/-- The calls of `reg_write`. -/
def regWriteLog (table : List Protocol) (doe : Doe) (reg val : Dword) :
    Except Fault (List LogLine) :=
  if reg = doeRegCtrl then do
    let aborted := if hasAbort val then [log .abort ()] else []
    let started ←
      if hasGo val then do
        let lines ← doeProcessLog table (if hasAbort val then doe.abort else doe)
        .ok (log .go () :: lines)
      else
        .ok []
    .ok (log .ctrl (val.toNat, ()) :: (aborted ++ started))
  else if reg = doeRegWrite then
    .ok [log .write (doe.reqLen, val.toNat, ())]
  else if reg = doeRegRead then
    if val = 0 then do
      let rspIdx ← intSucc doe.rspIdx
      if rspIdx ≥ doe.rspLen then
        .ok [log .ack (rspIdx, doe.rspLen, ()), log .consumed ()]
      else
        .ok [log .ack (rspIdx, doe.rspLen, ())]
    else
      .ok []
  else
    .ok [log .unhandledWrite (reg.toNat, val.toNat, ())]

def accessLog (table : List Protocol) (doe : Doe) : Access → Except Fault (List LogLine)
  | .read reg => regReadLog doe reg
  | .write reg val => regWriteLog table doe reg val

/-- The calls of one iteration of `run`. -/
def runStepLog (table : List Protocol) (doe : Doe) (req : Transaction) :
    Except Fault (List LogLine) :=
  if quits req then
    .ok [log .quit ()]
  else if doe.capDetected = false ∧ req.r0w1 = 1 then
    .ok []
  else do
    let located := doe.locate (offsetOf req)
    let detected := if doe.capDetected then [] else [log .capBase (located.capBase.toNat, ())]
    let lines ← accessLog table located (accessOf located.capBase req)
    .ok (detected ++ lines)

/-- The calls of `run` on a stream of transactions. -/
def runLog (table : List Protocol) : Doe → List Transaction → Except Fault (List LogLine)
  | _, [] => .ok []
  | doe, req :: rest => do
      let lines ← runStepLog table doe req
      match ← runStep table doe req with
      | none => .ok lines
      | some (next, _) =>
          let later ← runLog table next rest
          .ok (lines ++ later)

/-! ## Reading the log -/

/-- What a line can tell of the host: where it found the device, an access and the
value it read, or that it quit. -/
inductive Event where
  | located (base : Dword)
  | accessed (access : Access) (output : Option Dword)
  | quit
  deriving DecidableEq, Repr

/-- A read of a register that gave a value. -/
def Event.read (reg : Dword) (value : Nat) : Event :=
  .accessed (.read reg) (some (BitVec.ofNat 32 value))

def Event.write (reg : Dword) (val : Nat) : Event :=
  .accessed (.write reg (BitVec.ofNat 32 val)) none

def eventOf : (kind : LogKind) → Args kind.format → Option Event
  | .status, (value, _) => some (.read doeRegStatus value)
  | .readOverrun, _ => some (.accessed (.read doeRegRead) (some 0xFFFFFFFF))
  | .readDword, (_, value, _) => some (.read doeRegRead value)
  | .unhandledRead, (reg, _) => some (.read (BitVec.ofNat 32 reg) 0)
  | .ctrl, (val, _) => some (.write doeRegCtrl val)
  | .write, (_, val, _) => some (.write doeRegWrite val)
  | .ack, _ => some (.write doeRegRead 0)
  | .unhandledWrite, (reg, val, _) => some (.write (BitVec.ofNat 32 reg) val)
  | .capBase, (base, _) => some (.located (BitVec.ofNat 32 base))
  | .quit, _ => some .quit
  | _, _ => none

/-- The events in some lines. -/
def eventsIn (lines : List LogLine) : List Event :=
  lines.filterMap fun line => eventOf line.1 line.2

theorem ofNat_toNat (word : Dword) : BitVec.ofNat 32 word.toNat = word := by
  rw [BitVec.ofNat_toNat, BitVec.setWidth_eq]

theorem eventsIn_append (first second : List LogLine) :
    eventsIn (first ++ second) = eventsIn first ++ eventsIn second :=
  List.filterMap_append

section Lines

variable (table : List Protocol)

/-! ### The handlers -/

theorem doeHandleDiscoveryLog_silent (doe : Doe) :
    ∃ lines, doeHandleDiscoveryLog table doe = .ok lines ∧ eventsIn lines = [] := by
  have third : doe.reqBuf.load 2 = .ok doe.reqBuf[2] := doe.reqBuf.load_natCast (by decide)
  rw [doeHandleDiscoveryLog]
  by_cases short : doe.reqLen < 3
  · exact ⟨[], if_pos short, rfl⟩
  · rw [if_neg short, third]
    simp only [bind, Except.bind]
    by_cases bound : doe.reqBuf[2] &&& 0xFF < numProtocols table
    · rcases rowAt_of_lt bound with ⟨row, read, -⟩
      rw [if_pos bound, read]
      exact ⟨_, rfl, rfl⟩
    · rw [if_neg bound]
      exact ⟨_, rfl, rfl⟩

theorem spdmHandleLog_silent (doe : Doe) :
    ∃ lines, spdmHandleLog doe = .ok lines ∧ eventsIn lines = [] := by
  have verByte : doe.reqBuf.loadByte 8 = .ok (laneOf doe.reqBuf[2] 0) :=
    doe.reqBuf.loadByte_of_lt (by decide)
  have codeByte : doe.reqBuf.loadByte 9 = .ok (laneOf doe.reqBuf[2] 1) :=
    doe.reqBuf.loadByte_of_lt (by decide)
  rw [spdmHandleLog]
  by_cases short : doe.reqLen < 3
  · exact ⟨[], if_pos short, rfl⟩
  · rw [if_neg short, verByte, codeByte]
    refine ⟨_, rfl, ?_⟩
    split
    case isTrue => rfl
    case isFalse =>
        split
        case isTrue => rfl
        case isFalse =>
            split
            case isTrue => rfl
            case isFalse => rfl

theorem doeProcessLog_silent (doe : Doe) :
    ∃ lines, doeProcessLog table doe = .ok lines ∧ eventsIn lines = [] := by
  have first : doe.reqBuf.load 0 = .ok doe.reqBuf[0] := doe.reqBuf.load_natCast (by decide)
  rw [doeProcessLog]
  by_cases short : doe.reqLen < 2
  · exact ⟨_, if_pos short, rfl⟩
  · rw [if_neg short, first]
    simp only [bind, Except.bind]
    split
    case isTrue =>
        rcases doeHandleDiscoveryLog_silent table doe with ⟨lines, logged, silent⟩
        rw [logged]
        exact ⟨_, rfl, silent⟩
    case isFalse =>
        split
        case isTrue =>
            rcases spdmHandleLog_silent doe with ⟨lines, logged, silent⟩
            rw [logged]
            exact ⟨_, rfl, silent⟩
        case isFalse => exact ⟨_, rfl, rfl⟩

/-! ### Accesses -/

/-- An access that is logged: all but a non-zero write to the read mailbox. -/
def audible : Access → Bool
  | .read _ => true
  | .write reg val => !(reg == doeRegRead && val != 0)

/-- What the log tells of an access. -/
def heard (access : Access) (output : Option Dword) : List Event :=
  if audible access then [.accessed access output] else []

theorem heard_read (reg value : Dword) :
    heard (.read reg) (some value) = [.read reg value.toNat] := by
  rw [Event.read, ofNat_toNat]
  rfl

theorem heard_write {reg val : Dword} (logged : audible (.write reg val) = true) :
    heard (.write reg val) none = [.write reg val.toNat] := by
  rw [Event.write, ofNat_toNat, heard, if_pos logged]

variable {table} {doe : Doe} {mailbox : Mailbox}

theorem regReadLog_heard (represents : Represents doe mailbox) (reg : Dword) :
    ∃ lines, regReadLog doe reg = .ok lines ∧
      eventsIn lines = heard (.read reg) (some (mailbox.read reg)) := by
  have result := regRead_refines represents reg
  rw [heard_read]
  rw [regRead] at result
  rw [regReadLog]
  by_cases status : reg = doeRegStatus
  · rw [if_pos status] at result ⊢
    rw [← Except.ok.inj result, status]
    exact ⟨_, rfl, rfl⟩
  rw [if_neg status] at result ⊢
  by_cases data : reg = doeRegRead
  · rw [if_pos data] at result ⊢
    by_cases overrun : doe.rspIdx ≥ doe.rspLen
    · rw [if_pos overrun] at result ⊢
      rw [← Except.ok.inj result, data]
      exact ⟨_, rfl, rfl⟩
    · rw [if_neg overrun] at result ⊢
      rw [result, data]
      exact ⟨_, rfl, rfl⟩
  · rw [if_neg data] at result ⊢
    rw [← Except.ok.inj result]
    refine ⟨_, rfl, ?_⟩
    change [Event.read (BitVec.ofNat 32 reg.toNat) 0] = _
    rw [ofNat_toNat]
    rfl

theorem regWriteLog_heard (represents : Represents doe mailbox) (reg val : Dword) :
    ∃ lines, regWriteLog table doe reg val = .ok lines ∧
      eventsIn lines = heard (.write reg val) none := by
  rw [regWriteLog]
  by_cases ctrl : reg = doeRegCtrl
  · have logged : audible (.write reg val) = true := by
      rw [ctrl]
      rfl
    have aborted : eventsIn (if hasAbort val then [log .abort ()] else []) = [] := by
      split
      case isTrue => rfl
      case isFalse => rfl
    rw [if_pos ctrl, heard_write logged, ctrl]
    simp only [bind, Except.bind]
    split
    case isTrue =>
        rcases doeProcessLog_silent table (if hasAbort val then doe.abort else doe) with
          ⟨lines, processed, silent⟩
        have started : eventsIn (log .go () :: lines) = [] := silent
        rw [processed]
        refine ⟨_, rfl, ?_⟩
        change Event.write doeRegCtrl val.toNat :: eventsIn (_ ++ _) = _
        rw [eventsIn_append, aborted, started]
        rfl
    case isFalse =>
        refine ⟨_, rfl, ?_⟩
        change Event.write doeRegCtrl val.toNat :: eventsIn (_ ++ _) = _
        rw [eventsIn_append, aborted]
        rfl
  rw [if_neg ctrl]
  by_cases push : reg = doeRegWrite
  · have logged : audible (.write reg val) = true := by
      rw [push]
      rfl
    rw [if_pos push, heard_write logged, push]
    exact ⟨_, rfl, rfl⟩
  rw [if_neg push]
  by_cases data : reg = doeRegRead
  · rw [if_pos data]
    by_cases zero : val = 0
    · have small : doe.rspIdx < 2147483647 := by
        have bounded := represents.response.length_le
        have counters := represents.response.counters
        rw [doeBufDwords] at bounded
        omega
      rw [if_pos zero, intSucc_of_lt small, data, zero, heard_write rfl]
      simp only [bind, Except.bind]
      split
      case isTrue => exact ⟨_, rfl, rfl⟩
      case isFalse => exact ⟨_, rfl, rfl⟩
    · have silent : audible (.write reg val) = false := by
        rw [audible, data, bne_iff_ne.mpr zero]
        rfl
      rw [if_neg zero, heard, silent]
      exact ⟨[], rfl, rfl⟩
  · have logged : audible (.write reg val) = true := by
      rw [audible, beq_false_of_ne data]
      rfl
    rw [if_neg data, heard_write logged]
    refine ⟨_, rfl, ?_⟩
    change [Event.write (BitVec.ofNat 32 reg.toNat) val.toNat] = _
    rw [ofNat_toNat]

variable (table) in
/-- Every access is logged without a fault, and the log tells of it what `heard` says. -/
theorem accessLog_heard (represents : Represents doe mailbox) (access : Access) :
    ∃ lines, accessLog table doe access = .ok lines ∧
      eventsIn lines = heard access (mailbox.step table access).2 := by
  cases access with
  | read reg => exact regReadLog_heard represents reg
  | write reg val => exact regWriteLog_heard represents reg val

end Lines

/-! ## What the host does and what the log tells of it -/

namespace Device

variable (table : List Protocol)

/-- An access of the device at its base, as the log tells it. -/
def hears (base : Dword) (mailbox : Mailbox) (req : Transaction) : List Event :=
  heard (accessOf base req) (mailbox.step table (accessOf base req)).2

/-- One transaction, as the log tells it. -/
def tells (device : Device) (req : Transaction) : List Event :=
  match device with
  | .unlocated =>
      if req.r0w1 = 1 then []
      else
        .located (offsetOf req - doeRegStatus) ::
          hears table (offsetOf req - doeRegStatus) .empty req
  | .located base mailbox => hears table base mailbox req

/-- A stream of transactions, as the log tells it. -/
def events : Device → List Transaction → List Event
  | _, [] => []
  | device, req :: rest =>
      if quits req then [.quit]
      else device.tells table req ++ events (device.serve table req).1 rest

/-- Do again what an event tells. -/
def replay (device : Device) : Event → Device
  | .located base => .located base .empty
  | .accessed access _ =>
      match device with
      | .unlocated => .unlocated
      | .located base mailbox => .located base (mailbox.step table access).1
  | .quit => device

/-- What is not heard does nothing. -/
theorem inaudible_step {access : Access} (silent : audible access = false) (mailbox : Mailbox) :
    (mailbox.step table access).1 = mailbox := by
  cases access with
  | read reg => cases silent
  | write reg val =>
      rw [audible, Bool.not_eq_false', Bool.and_eq_true_iff, beq_iff_eq, bne_iff_ne] at silent
      rw [silent.1]
      exact if_neg silent.2

theorem replay_hears (base : Dword) (mailbox : Mailbox) (req : Transaction) :
    (hears table base mailbox req).foldl (replay table) (.located base mailbox) =
      (perform table base mailbox req).1 := by
  rw [hears, heard]
  split
  case isTrue => rfl
  case isFalse silent =>
      rw [perform, inaudible_step table (Bool.eq_false_iff.mpr silent)]
      rfl

theorem replay_tells (device : Device) (req : Transaction) :
    (device.tells table req).foldl (replay table) device = (device.serve table req).1 := by
  cases device with
  | unlocated =>
      rw [tells, serve]
      split
      case isTrue => rfl
      case isFalse => exact replay_hears table _ .empty req
  | located base mailbox => exact replay_hears table base mailbox req

/-- The events lead to the device the stream leads to. -/
theorem replay_events (device : Device) (stream : List Transaction) :
    (device.events table stream).foldl (replay table) device =
      device.after table (served stream) := by
  induction stream generalizing device with
  | nil => rfl
  | cons req rest ih =>
      rw [events]
      cases quit : quits req with
      | true =>
          rw [served_quit rest quit]
          rfl
      | false =>
          rw [if_neg Bool.false_ne_true, served_running rest quit, List.foldl_append, replay_tells,
            ih]
          rfl

end Device

section Runs

variable {table : List Protocol} {doe : Doe} {device : Device}

theorem runStepLog_access {req : Transaction} {lines : List LogLine}
    (running : quits req = false) (served : ¬(doe.capDetected = false ∧ req.r0w1 = 1))
    (logged : accessLog table (doe.locate (offsetOf req))
      (accessOf (doe.locate (offsetOf req)).capBase req) = .ok lines) :
    runStepLog table doe req =
      .ok ((if doe.capDetected then []
        else [log .capBase ((doe.locate (offsetOf req)).capBase.toNat, ())]) ++ lines) := by
  rw [runStepLog, running, if_neg Bool.false_ne_true, if_neg served]
  change (accessLog table _ _ >>= fun lines => Except.ok (_ ++ lines)) = _
  rw [logged]
  rfl

variable (table) in
/-- The lines of an iteration tell what the device does. -/
theorem runStepLog_tells (embodies : Embodies doe device) {req : Transaction}
    (running : quits req = false) :
    ∃ lines, runStepLog table doe req = .ok lines ∧ eventsIn lines = device.tells table req := by
  cases embodies with
  | unlocated represents undetected =>
      rw [Device.tells]
      by_cases write : req.r0w1 = 1
      · rw [if_pos write, runStepLog, running, if_neg Bool.false_ne_true,
          if_pos ⟨undetected, write⟩]
        exact ⟨[], rfl, rfl⟩
      · have detect : doe.locate (offsetOf req) = doe.detect (offsetOf req) := by
          rw [Doe.locate, undetected]
          rfl
        have place : (doe.locate (offsetOf req)).capBase = offsetOf req - doeRegStatus := by
          rw [detect]
          rfl
        rcases accessLog_heard table (represents.locate (offsetOf req))
          (accessOf (doe.locate (offsetOf req)).capBase req) with ⟨lines, logged, tells⟩
        refine ⟨_, runStepLog_access running (fun both => write both.2) logged, ?_⟩
        rw [if_neg write, undetected]
        change Event.located (BitVec.ofNat 32 (doe.locate (offsetOf req)).capBase.toNat) ::
          eventsIn lines = _
        rw [ofNat_toNat, tells, place]
        rfl
  | located represents detected place =>
      have known : ¬(doe.capDetected = false ∧ req.r0w1 = 1) := by
        rw [detected]
        intro both
        cases both.1
      have same : doe.locate (offsetOf req) = doe := by
        rw [Doe.locate, detected]
        rfl
      rcases accessLog_heard table (represents.locate (offsetOf req))
        (accessOf (doe.locate (offsetOf req)).capBase req) with ⟨lines, logged, tells⟩
      refine ⟨_, runStepLog_access running known logged, ?_⟩
      rw [same, place] at tells
      rw [detected]
      exact tells

/-- The whole log tells the events of the device. -/
theorem runLog_tells (embodies : Embodies doe device) (stream : List Transaction) :
    ∃ lines, runLog table doe stream = .ok lines ∧
      eventsIn lines = device.events table stream := by
  induction stream generalizing doe device with
  | nil => exact ⟨[], rfl, rfl⟩
  | cons req rest ih =>
      rw [runLog, Device.events]
      cases quit : quits req with
      | true =>
          rw [runStepLog, quit, if_pos rfl, if_pos rfl, runStep_quit table quit]
          exact ⟨_, rfl, rfl⟩
      | false =>
          rcases runStepLog_tells table embodies quit with ⟨lines, logged, tells⟩
          rcases runStep_embodies table embodies quit with ⟨next, stepped, nextEmbodies⟩
          rcases ih nextEmbodies with ⟨later, continued, laterTells⟩
          rw [logged, stepped, if_neg Bool.false_ne_true]
          refine ⟨lines ++ later, ?_, ?_⟩
          · change (runLog table next rest >>= fun later => Except.ok (lines ++ later)) = _
            rw [continued]
            rfl
          · rw [eventsIn_append, tells, laterTells]

end Runs

/-- The text of a log of `doe-emu`, whatever its time stamps, determines where the host
found the device, all its accesses and what they read, except for those that had no
effect on anything: writes before the device was found, and non-zero writes to the read
mailbox.  With that it determines the device. -/
theorem log_determines_device {table : List Protocol} {stream other : List Transaction}
    {entries others : List (Stamp × LogLine)}
    (logged : runLog table Doe.zero stream = .ok (entries.map Prod.snd))
    (otherLogged : runLog table Doe.zero other = .ok (others.map Prod.snd))
    (same : logText doeLog "doe-emu.c" entries = logText doeLog "doe-emu.c" others) :
    Device.unlocated.events table stream = Device.unlocated.events table other ∧
      Device.unlocated.after table (served stream) =
        Device.unlocated.after table (served other) := by
  have lines := logText_inj doeLog (by decide) same
  rcases runLog_tells embodies_zero stream with ⟨_, first, tells⟩
  rcases runLog_tells embodies_zero other with ⟨_, second, otherTells⟩
  rw [logged] at first
  rw [otherLogged, ← lines] at second
  cases first
  cases second
  have events := tells.symm.trans otherTells
  refine ⟨events, ?_⟩
  rw [← Device.replay_events, ← Device.replay_events, events]

/-- The lines of a first status read at `0x19c`, so many days after the epoch. -/
def foundOn (day : Nat) : List (Stamp × LogLine) :=
  [(⟨86400 * day, 0, 418, by decide, by decide⟩, log .capBase (0x190, ())),
    (⟨86400 * day, 0, 285, by decide, by decide⟩, log .status (0, ()))]

/-- An abort before the device is found cannot be told from the log, nor can the day. -/
theorem log_determines_device_lostAbort :
    ∃ read abort : Transaction,
      runLog protocols Doe.zero [read] = .ok ((foundOn 0).map Prod.snd) ∧
      runLog protocols Doe.zero [abort, read] = .ok ((foundOn 1).map Prod.snd) ∧
      Device.unlocated.events protocols [read] =
        Device.unlocated.events protocols [abort, read] := by
  have logged : runLog protocols Doe.zero [{ Transaction.zero with physicalAddress := 0x19c }] =
      .ok ((foundOn 0).map Prod.snd) := rfl
  have otherLogged : runLog protocols Doe.zero
      [{ Transaction.zero with physicalAddress := 0x198, r0w1 := 1 },
        { Transaction.zero with physicalAddress := 0x19c }] =
      .ok ((foundOn 1).map Prod.snd) := rfl
  exact ⟨_, _, logged, otherLogged, (log_determines_device logged otherLogged rfl).1⟩

end RemoteRootport.DoeEmu
