import RemoteRootport.Bytes.Buffer

/-!
# State of the DOE mailbox emulator

Register map, protocol identifiers and the static `doe` record of `doe-emu.c`.
Machine words keep their width, `int` counters are integers with a checked
increment, and the two mailboxes are checked dword buffers, so that every
undefined behaviour of the source is a `Fault` of the model.
-/

namespace RemoteRootport.DoeEmu

open RemoteRootport.Bytes

/-! ## Registers and bits -/

def doeRegCtrl : Dword := 0x08
def doeRegStatus : Dword := 0x0c
def doeRegWrite : Dword := 0x10
def doeRegRead : Dword := 0x14

def doeStatusError : Dword := 0x00000004
def doeStatusDataObjectReady : Dword := 0x80000000

def doeCtrlAbort : Dword := 0x00000001
def doeCtrlGo : Dword := 0x80000000

/-! ## Protocol identifiers -/

def doeVidPcisig : BitVec 16 := 0x0001
def doeTypeDisc : Byte := 0x00
def doeTypeCmaSpdm : Byte := 0x01
def doeTypeSecuredCmaSpdm : Byte := 0x02

def doeVidCxl : BitVec 16 := 0x1E98
def doeTypeCxlTableAccess : Byte := 0x02

/-! ## SPDM codes -/

def spdmGetVersion : Byte := 0x84
def spdmGetCaps : Byte := 0xE1
def spdmNegAlgos : Byte := 0xE3
def spdmRspVersion : Byte := 0x04
def spdmRspCaps : Byte := 0x61
def spdmRspAlgos : Byte := 0x63
def spdmRspError : Byte := 0x7F
def spdmErrUnsup : Byte := 0x07

def spdmCapCert : Dword := 1 <<< 2
def spdmCapChal : Dword := 1 <<< 3
def spdmCapMeas : Dword := 2 <<< 4

def spdmAsymRsa2048 : Dword := 1 <<< 1
def spdmHashSha256 : Dword := 1 <<< 0
def spdmMeasDmtf : Byte := 1 <<< 0

/-! ## The protocol table -/

/-- One row of `protocols[]`. -/
@[ext]
structure Protocol where
  vid : BitVec 16
  type : Byte
  deriving DecidableEq, Repr

/-- The rows advertised by DOE Discovery.  The handlers take the table as a
parameter; this is the one the emulator is built with. -/
def protocols : List Protocol :=
  [ { vid := doeVidPcisig, type := doeTypeDisc },
    { vid := doeVidPcisig, type := doeTypeCmaSpdm },
    { vid := doeVidPcisig, type := doeTypeSecuredCmaSpdm },
    { vid := doeVidCxl, type := doeTypeCxlTableAccess } ]

/-- `NUM_PROTOCOLS` as the unsigned comparisons see it. -/
def numProtocols (table : List Protocol) : Dword :=
  BitVec.ofNat 32 table.length

/-- Checked read of `protocols[index]`. -/
def protocolAt (table : List Protocol) (index : Dword) : Except Fault Protocol :=
  match table[index.toNat]? with
  | some row => .ok row
  | none => .error .outOfBounds

/-- A data object header: vendor in the low half, type above it. -/
def header (vid : BitVec 16) (type : Byte) : Dword :=
  vid.setWidth 32 ||| (type.setWidth 32 <<< 16)

/-- Vendor field of a header dword. -/
def headerVid (word : Dword) : BitVec 16 :=
  (word &&& 0xFFFF).setWidth 16

/-- Type field of a header dword. -/
def headerType (word : Dword) : Byte :=
  ((word >>> 16) &&& 0xFF).setWidth 8

theorem headerVid_header (vid : BitVec 16) (type : Byte) :
    headerVid (header vid type) = vid := by
  apply BitVec.eq_of_getLsbD_eq
  intro index bound
  simp only [headerVid, header, BitVec.getLsbD_setWidth, BitVec.getLsbD_and,
    BitVec.getLsbD_or, BitVec.getLsbD_shiftLeft]
  have mask : (0xFFFF : Dword).getLsbD index = true := by
    interval_cases index <;> rfl
  rw [mask]
  simp [bound, show index < 32 by omega]

theorem headerType_header (vid : BitVec 16) (type : Byte) :
    headerType (header vid type) = type := by
  apply BitVec.eq_of_getLsbD_eq
  intro index bound
  simp only [headerType, header, BitVec.getLsbD_setWidth, BitVec.getLsbD_and,
    BitVec.getLsbD_ushiftRight, BitVec.getLsbD_or, BitVec.getLsbD_shiftLeft]
  have mask : (0xFF : Dword).getLsbD index = true := by
    interval_cases index <;> rfl
  rw [mask]
  simp [bound, show index < 32 by omega, show 16 + index < 32 by omega]

/-! ## The mailbox record -/

/-- `DOE_BUF_DWORDS`: two header dwords and 256 payload bytes. -/
def doeBufDwords : Nat := 68

/-- The static `doe` record. -/
structure Doe where
  status : Dword
  reqBuf : Buffer doeBufDwords
  reqLen : Int
  rspBuf : Buffer doeBufDwords
  rspLen : Int
  rspIdx : Int
  capBase : Dword
  capDetected : Bool
  deriving DecidableEq, Repr

/-- `memset(&doe, 0, sizeof(doe))`. -/
def Doe.zero : Doe where
  status := 0
  reqBuf := Vector.replicate doeBufDwords 0
  reqLen := 0
  rspBuf := Vector.replicate doeBufDwords 0
  rspLen := 0
  rspIdx := 0
  capBase := 0
  capDetected := false

end RemoteRootport.DoeEmu
