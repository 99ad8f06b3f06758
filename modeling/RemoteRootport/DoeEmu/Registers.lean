import RemoteRootport.DoeEmu.Handlers
import RemoteRootport.Machine.Transducer

/-!
# Register file

`reg_read` and `reg_write`, the only entry points of the mailbox, and the
machine they form when a host performs an arbitrary sequence of accesses.
-/

namespace RemoteRootport.DoeEmu

open RemoteRootport.Bytes
open RemoteRootport.Machine

def regRead (doe : Doe) (reg : Dword) : Except Fault Dword :=
  if reg = doeRegStatus then
    .ok doe.status
  else if reg = doeRegRead then
    if doe.rspIdx ≥ doe.rspLen then
      .ok 0xFFFFFFFF
    else
      doe.rspBuf.load doe.rspIdx
  else
    .ok 0

/-- The `DOE_CTRL_ABORT` branch. -/
def Doe.abort (doe : Doe) : Doe :=
  { doe with reqLen := 0, rspLen := 0, rspIdx := 0, status := 0 }

/-- The `DOE_CTRL_GO` branch. -/
def Doe.go (table : List Protocol) (doe : Doe) : Except Fault Doe := do
  let doe ← doeProcess table doe
  .ok { doe with reqLen := 0 }

/-- Does a control value ask for an abort? -/
def hasAbort (val : Dword) : Bool :=
  val &&& doeCtrlAbort != 0

/-- Does a control value start a request? -/
def hasGo (val : Dword) : Bool :=
  val &&& doeCtrlGo != 0

def regWrite (table : List Protocol) (doe : Doe) (reg val : Dword) : Except Fault Doe :=
  if reg = doeRegCtrl then
    let doe := if hasAbort val then doe.abort else doe
    if hasGo val then doe.go table else .ok doe
  else if reg = doeRegWrite then
    if doe.reqLen < doeBufDwords then do
      let reqBuf ← doe.reqBuf.store doe.reqLen val
      let reqLen ← intSucc doe.reqLen
      .ok { doe with reqBuf, reqLen }
    else
      .ok doe
  else if reg = doeRegRead then
    -- the host writes 0 to acknowledge a dword and advance the pointer
    if val = 0 then do
      let rspIdx ← intSucc doe.rspIdx
      if rspIdx ≥ doe.rspLen then
        .ok { doe with status := 0, rspIdx := 0, rspLen := 0 }
      else
        .ok { doe with rspIdx }
    else
      .ok doe
  else
    .ok doe

/-! ## Accesses -/

/-- One register access of the host. -/
inductive Access where
  | read (reg : Dword)
  | write (reg val : Dword)
  deriving DecidableEq, Repr

namespace Access

/-- A control write that starts a request or aborts. -/
def isControl : Access → Bool
  | .read _ => false
  | .write reg val => reg == doeRegCtrl && (hasGo val || hasAbort val)

/-- A write to the write mailbox, which adds a request dword. -/
def isPush : Access → Bool
  | .read _ => false
  | .write reg _ => reg == doeRegWrite

/-- A zero write to the read mailbox, which acknowledges one dword. -/
def isAck : Access → Bool
  | .read _ => false
  | .write reg val => reg == doeRegRead && val == 0

end Access

/-- Perform one access; a read produces a value. -/
def access (table : List Protocol) (doe : Doe) :
    Access → Except Fault (Doe × Option Dword)
  | .read reg => do
      let val ← regRead doe reg
      .ok (doe, some val)
  | .write reg val => do
      let doe ← regWrite table doe reg val
      .ok (doe, none)

/-- The mailbox as a machine over register accesses. -/
def mailbox (table : List Protocol) : Transducer Doe Access (Option Dword) Fault where
  step := access table

/-- States some sequence of accesses of the zero-initialised mailbox leads to. -/
def Reachable (table : List Protocol) (doe : Doe) : Prop :=
  (mailbox table).Reachable Doe.zero doe

end RemoteRootport.DoeEmu
