import RemoteRootport.DoeEmu.Core

/-!
# Protocol handlers

`doe_process` and the handlers it dispatches to.  A handler reads the request
mailbox, fills the response mailbox and sets the counters and the status; the
error returns touch the status only.  SPDM payloads are written through a byte
pointer to `rsp_buf[2]`, which is byte `8` of the buffer.
-/

namespace RemoteRootport.DoeEmu

open RemoteRootport.Bytes

/-- `doe.status = DOE_STATUS_ERROR; return;` -/
def Doe.fail (doe : Doe) : Doe :=
  { doe with status := doeStatusError }

/-- DOE Discovery: look up one row of the table and name the next index. -/
def doeHandleDiscovery (table : List Protocol) (doe : Doe) : Except Fault Doe :=
  if doe.reqLen < 3 then
    .ok doe.fail
  else do
    let payload ← doe.reqBuf.load 2
    let index := payload &&& 0xFF
    let next := if index + 1 < numProtocols table then index + 1 else 0
    let rspBuf ← doe.rspBuf.store 0 (header doeVidPcisig doeTypeDisc)
    let rspBuf ← rspBuf.store 1 4
    if index < numProtocols table then do
      let row ← protocolAt table index
      let rspBuf ← rspBuf.store 2 (header row.vid row.type)
      let rspBuf ← rspBuf.store 3 next
      .ok { doe with rspBuf, rspLen := 4, rspIdx := 0, status := doeStatusDataObjectReady }
    else do
      let rspBuf ← rspBuf.store 2 0
      let rspBuf ← rspBuf.store 3 0
      .ok { doe with rspBuf, rspLen := 4, rspIdx := 0, status := doeStatusDataObjectReady }

/-! ## SPDM -/

/-- Store through `uint8_t *rsp = (uint8_t *)&doe.rsp_buf[2]`. -/
def rspStore (rspBuf : Buffer doeBufDwords) (index : Nat) (bytes : List Byte) :
    Except Fault (Buffer doeBufDwords) :=
  rspBuf.storeBytes (8 + index) bytes

/-- `while (spdm_bytes & 3) rsp[spdm_bytes++] = 0;` -/
def spdmPad (rspBuf : Buffer doeBufDwords) (spdmBytes : Nat) :
    Except Fault (Buffer doeBufDwords × Nat) :=
  if spdmBytes % 4 = 0 then
    .ok (rspBuf, spdmBytes)
  else do
    let rspBuf ← rspStore rspBuf spdmBytes [0]
    spdmPad rspBuf (spdmBytes + 1)
termination_by (4 - spdmBytes % 4) % 4

/-- Pad the payload to whole dwords and publish the response. -/
def spdmFinish (doe : Doe) (doeType : Byte) (spdmBytes : Nat) : Except Fault Doe := do
  let (rspBuf, spdmBytes) ← spdmPad doe.rspBuf spdmBytes
  let dwords := spdmBytes / 4
  let rspBuf ← rspBuf.store 0 (header doeVidPcisig doeType)
  let rspBuf ← rspBuf.store 1 (BitVec.ofNat 32 (2 + dwords))
  .ok { doe with
    rspBuf
    rspLen := 2 + dwords
    rspIdx := 0
    status := doeStatusDataObjectReady }

def spdmError (doe : Doe) (doeType errcode : Byte) : Except Fault Doe := do
  let rsp ← rspStore doe.rspBuf 0 [0x10]
  let rsp ← rspStore rsp 1 [spdmRspError]
  let rsp ← rspStore rsp 2 [errcode]
  let rsp ← rspStore rsp 3 [0]
  spdmFinish { doe with rspBuf := rsp } doeType 4

/-- The `SPDM_GET_VERSION` case of `spdm_handle`. -/
def spdmVersion (doe : Doe) (doeType : Byte) : Except Fault Doe := do
  let rsp ← rspStore doe.rspBuf 0 [0x10]
  let rsp ← rspStore rsp 1 [spdmRspVersion]
  let rsp ← rspStore rsp 2 [0]
  let rsp ← rspStore rsp 3 [0]
  let rsp ← rspStore rsp 4 [0]
  let rsp ← rspStore rsp 5 [0]
  let rsp ← rspStore rsp 6 [2]
  let rsp ← rspStore rsp 7 [0]
  let rsp ← rspStore rsp 8 (wordBytes 2 (0x1000 : BitVec 16))
  let rsp ← rspStore rsp 10 (wordBytes 2 (0x1200 : BitVec 16))
  spdmFinish { doe with rspBuf := rsp } doeType 12

/-- The `SPDM_GET_CAPS` case of `spdm_handle`. -/
def spdmCaps (doe : Doe) (doeType ver : Byte) : Except Fault Doe := do
  let flags := spdmCapCert ||| spdmCapChal ||| spdmCapMeas
  let rsp ← rspStore doe.rspBuf 0 [ver]
  let rsp ← rspStore rsp 1 [spdmRspCaps]
  let rsp ← rspStore rsp 2 [0]
  let rsp ← rspStore rsp 3 [0]
  let rsp ← rspStore rsp 4 [0]
  let rsp ← rspStore rsp 5 [12]
  let rsp ← rspStore rsp 6 [0]
  let rsp ← rspStore rsp 7 [0]
  let rsp ← rspStore rsp 8 (wordBytes 4 flags)
  spdmFinish { doe with rspBuf := rsp } doeType 12

/-- The `SPDM_NEG_ALGOS` case of `spdm_handle`: clear the 36 bytes first, then
fill in the selected fields. -/
def spdmAlgos (doe : Doe) (doeType ver : Byte) : Except Fault Doe := do
  let rsp ← rspStore doe.rspBuf 0 (List.replicate 36 0)
  let rsp ← rspStore rsp 0 [ver]
  let rsp ← rspStore rsp 1 [spdmRspAlgos]
  let rsp ← rspStore rsp 2 [0]
  let rsp ← rspStore rsp 3 [0]
  let rsp ← rspStore rsp 4 (wordBytes 2 (36 : BitVec 16))
  let rsp ← rspStore rsp 6 [spdmMeasDmtf]
  let rsp ← rspStore rsp 8 (wordBytes 4 spdmAsymRsa2048)
  let rsp ← rspStore rsp 12 (wordBytes 4 spdmHashSha256)
  spdmFinish { doe with rspBuf := rsp } doeType 36

/-- SPDM over the CMA and secured CMA types.  The request is read through a byte
pointer to `req_buf[2]`. -/
def spdmHandle (doe : Doe) (doeType : Byte) : Except Fault Doe :=
  if doe.reqLen < 3 then
    .ok doe.fail
  else do
    let ver ← doe.reqBuf.loadByte 8
    let code ← doe.reqBuf.loadByte 9
    if code = spdmGetVersion then
      spdmVersion doe doeType
    else if code = spdmGetCaps then
      spdmCaps doe doeType ver
    else if code = spdmNegAlgos then
      spdmAlgos doe doeType ver
    else
      spdmError doe doeType spdmErrUnsup

/-- Dispatch a request on the vendor and type of its first dword. -/
def doeProcess (table : List Protocol) (doe : Doe) : Except Fault Doe :=
  if doe.reqLen < 2 then
    .ok doe.fail
  else do
    let first ← doe.reqBuf.load 0
    let vid := headerVid first
    let type := headerType first
    if vid = doeVidPcisig ∧ type = doeTypeDisc then
      doeHandleDiscovery table doe
    else if vid = doeVidPcisig ∧ (type = doeTypeCmaSpdm ∨ type = doeTypeSecuredCmaSpdm) then
      spdmHandle doe type
    else
      .ok doe.fail

end RemoteRootport.DoeEmu
