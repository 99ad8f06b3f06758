import RemoteRootport.Bytes.Buffer
import RemoteRootport.Bytes.Layout

/-!
# Records on the wire

The two structures the processes exchange: `struct avery_pci_config_op` between
the kernel, the daemons and the thin server, and `simics_transaction_t` between
the thin server and the emulator.  Both are sent as their object representation
on a little-endian host.
-/

namespace RemoteRootport.Wire

open RemoteRootport.Bytes

/-- A member of type `uint32_t`. -/
def dword : Layout Dword :=
  Layout.word 32 4 (by decide)

/-! ## Configuration operations -/

/-- `struct avery_pci_config_op`; the signed `status` is kept as its bits. -/
structure ConfigOp where
  type : Dword
  offset : Dword
  value : Dword
  status : Dword
  deriving DecidableEq, Repr

/-- The packed structure: four dwords, 16 bytes. -/
def ConfigOp.layout : Layout ConfigOp :=
  (dword.pair (dword.pair (dword.pair dword))).via
    (fun op => (op.type, op.offset, op.value, op.status))
    (fun (type, offset, value, status) => { type, offset, value, status })
    (fun _ => rfl)

example : ConfigOp.layout.size = 16 := rfl

theorem exact_dword : dword.Exact :=
  Layout.exact_word rfl

/-- The structure is packed: every 16 bytes are an operation. -/
theorem ConfigOp.exact_layout : ConfigOp.layout.Exact :=
  (exact_dword.pair (exact_dword.pair (exact_dword.pair exact_dword))).via fun _ => rfl

/-! ## Transactions -/

/-- `MAX_PAYLOAD`. -/
def maxPayload : Nat := 256

/-- `simics_transaction_t`. -/
structure Transaction where
  packetNumber : Dword
  packetType : Dword
  simType : Dword
  busNo : Dword
  devNo : Dword
  funNo : Dword
  cfgType : Dword
  controlStatus : Dword
  physicalAddress : BitVec 64
  r0w1 : Dword
  dataSize : Dword
  data : Block maxPayload
  regValue : Dword
  fixedFirstSize : Dword
  unalignedValue : Dword
  fbe : Dword
  fixedLastSize : Dword
  lbe : Dword
  cmpStatus : Dword
  response1 : Dword
  response2 : Dword
  deriving DecidableEq, Repr

namespace Transaction

/-- `memset(&record, 0, sizeof(record))`. -/
def zero : Transaction where
  packetNumber := 0
  packetType := 0
  simType := 0
  busNo := 0
  devNo := 0
  funNo := 0
  cfgType := 0
  controlStatus := 0
  physicalAddress := 0
  r0w1 := 0
  dataSize := 0
  data := Vector.replicate maxPayload 0
  regValue := 0
  fixedFirstSize := 0
  unalignedValue := 0
  fbe := 0
  fixedLastSize := 0
  lbe := 0
  cmpStatus := 0
  response1 := 0
  response2 := 0

/-- The members in declaration order; the 64-bit address falls on offset 32, so
the only padding is the four bytes that round the size up to 344. -/
def layout : Layout Transaction :=
  ((dword.pair <| dword.pair <| dword.pair <| dword.pair <| dword.pair <| dword.pair <|
    dword.pair <| dword.pair <| (Layout.word 64 8 (by decide)).pair <| dword.pair <|
    dword.pair <| (Block.layout maxPayload).pair <| dword.pair <| dword.pair <| dword.pair <|
    dword.pair <| dword.pair <| dword.pair <| dword.pair <| dword.pair dword).padded 4).via
    (fun record => (record.packetNumber, record.packetType, record.simType, record.busNo,
      record.devNo, record.funNo, record.cfgType, record.controlStatus,
      record.physicalAddress, record.r0w1, record.dataSize, record.data, record.regValue,
      record.fixedFirstSize, record.unalignedValue, record.fbe, record.fixedLastSize,
      record.lbe, record.cmpStatus, record.response1, record.response2))
    (fun (packetNumber, packetType, simType, busNo, devNo, funNo, cfgType, controlStatus,
        physicalAddress, r0w1, dataSize, data, regValue, fixedFirstSize, unalignedValue, fbe,
        fixedLastSize, lbe, cmpStatus, response1, response2) =>
      { packetNumber, packetType, simType, busNo, devNo, funNo, cfgType, controlStatus,
        physicalAddress, r0w1, dataSize, data, regValue, fixedFirstSize, unalignedValue, fbe,
        fixedLastSize, lbe, cmpStatus, response1, response2 })
    (fun _ => rfl)

example : layout.size = 344 := rfl

/-- `memcpy(&value, record.data, 4)`. -/
def firstDword (record : Transaction) : Dword :=
  wordOf 32 (record.data.load 4)

/-- `memcpy(record.data, &value, 4)`. -/
def setFirstDword (record : Transaction) (value : Dword) : Transaction :=
  { record with data := record.data.store (wordBytes 4 value) }

@[simp] theorem firstDword_setFirstDword (record : Transaction) (value : Dword) :
    (record.setFirstDword value).firstDword = value := by
  have loaded := record.data.load_store (wordBytes 4 value)
    (by rw [length_wordBytes]; decide)
  rw [length_wordBytes] at loaded
  rw [firstDword, setFirstDword, loaded, wordOf_wordBytes 4 (by decide)]

@[simp] theorem firstDword_zero : zero.firstDword = 0 := by
  decide

end Transaction

end RemoteRootport.Wire
