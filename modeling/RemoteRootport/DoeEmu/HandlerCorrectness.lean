import RemoteRootport.DoeEmu.Mailbox

/-!
# Handler correctness

Every handler that succeeds publishes a response that is a function of the
request dwords it reads: each byte below `rsp_len` is freshly written, so the
earlier contents of the response buffer drop out.  The byte stores of an SPDM
message are first merged into one store, whose packed dwords are then read back.
-/

namespace RemoteRootport.DoeEmu

open RemoteRootport.Bytes

/-- The record after a response of `length` dwords has been published. -/
def Doe.publish (doe : Doe) (rspBuf : Buffer doeBufDwords) (length : Nat) : Doe :=
  { doe with
    rspBuf
    rspLen := length
    rspIdx := 0
    status := doeStatusDataObjectReady }

/-- A handler's result publishes exactly the given response. -/
def Publishes (doe : Doe) (response : Response) (result : Except Fault Doe) : Prop :=
  ∃ rspBuf, result = .ok (doe.publish rspBuf response.dwords.length) ∧
    rspBuf.toList.take response.dwords.length = response.dwords

theorem store_zero (buffer : Buffer doeBufDwords) (word : Dword) :
    buffer.store 0 word = .ok (buffer.set 0 word) :=
  buffer.store_natCast (by decide) word

theorem store_one (buffer : Buffer doeBufDwords) (word : Dword) :
    buffer.store 1 word = .ok (buffer.set 1 word) :=
  buffer.store_natCast (by decide) word

/-! ## Discovery -/

/-- A guarded index finds a row, and the checked read cannot fault. -/
theorem rowAt_of_lt {table : List Protocol} {index : Dword}
    (bound : index < numProtocols table) :
    ∃ row, protocolAt table index = .ok row ∧ rowAt table index = some row := by
  have inTable : index.toNat < table.length := by
    have below : index.toNat < (numProtocols table).toNat := bound
    rw [numProtocols, BitVec.toNat_ofNat] at below
    exact Nat.lt_of_lt_of_le below (Nat.mod_le _ _)
  have found : table[index.toNat]? = some table[index.toNat] :=
    List.getElem?_eq_getElem inTable
  exact ⟨table[index.toNat], by rw [protocolAt, found], by rw [rowAt, if_pos bound, found]⟩

theorem take_four (buffer : Buffer doeBufDwords) (w₀ w₁ w₂ w₃ : Dword) :
    (Vector.set (Vector.set (Vector.set (Vector.set buffer 0 w₀) 1 w₁) 2 w₂) 3 w₃).toList.take 4 =
      [w₀, w₁, w₂, w₃] := by
  simp only [Vector.toList_set]
  have length : buffer.toList.length = 68 := Vector.length_toList
  match buffer.toList, length with
  | _ :: _ :: _ :: _ :: _, _ => rfl

theorem doeHandleDiscovery_publishes (table : List Protocol) (doe : Doe)
    (long : ¬doe.reqLen < 3) :
    Publishes doe (discoveryResponse table (doe.reqBuf[2] &&& 0xFF))
      (doeHandleDiscovery table doe) := by
  have third : doe.reqBuf.load 2 = .ok doe.reqBuf[2] := doe.reqBuf.load_natCast (by decide)
  have storeTwo (buffer : Buffer doeBufDwords) (word : Dword) :
      buffer.store 2 word = .ok (buffer.set 2 word) := buffer.store_natCast (by decide) word
  have storeThree (buffer : Buffer doeBufDwords) (word : Dword) :
      buffer.store 3 word = .ok (buffer.set 3 word) := buffer.store_natCast (by decide) word
  rw [doeHandleDiscovery, if_neg long, third]
  simp only [bind, Except.bind, store_zero, store_one, storeTwo, storeThree]
  by_cases bound : doe.reqBuf[2] &&& 0xFF < numProtocols table
  · rcases rowAt_of_lt bound with ⟨row, read, found⟩
    rw [if_pos bound, read, discoveryResponse, discoveryPayload, found]
    exact ⟨_, rfl, take_four _ _ _ _ _⟩
  · have absent : rowAt table (doe.reqBuf[2] &&& 0xFF) = none := by
      rw [rowAt, if_neg bound]
    rw [if_neg bound, discoveryResponse, discoveryPayload, absent]
    exact ⟨_, rfl, take_four _ _ _ _ _⟩

/-! ## SPDM -/

/-- The two header dwords in front of what the buffer holds from dword 2 on. -/
theorem take_headers (buffer : Buffer doeBufDwords) (first second : Dword) (count : Nat) :
    (Vector.set (Vector.set buffer 0 first) 1 second).toList.take (2 + count) =
      first :: second :: (buffer.toList.drop 2).take count := by
  rw [Vector.toList_set, Vector.toList_set, Nat.add_comm]
  have length : buffer.toList.length = 68 := Vector.length_toList
  match buffer.toList, length with
  | _ :: _ :: _, _ => rfl

/-- A store that fits the payload area goes through. -/
theorem rspStore_bind {α : Type} (rspBuf : Buffer doeBufDwords) {index : Nat}
    {bytes : List Byte} (fits : index + bytes.length ≤ 264)
    (rest : Buffer doeBufDwords → Except Fault α) :
    rspStore rspBuf index bytes >>= rest = rest (rspBuf.putBytes (8 + index) bytes) := by
  rw [rspStore, Buffer.storeBytes_of_le rspBuf (by rw [doeBufDwords]; omega)]
  rfl

/-- On a whole number of dwords the padding loop does not run. -/
theorem spdmPad_aligned (rspBuf : Buffer doeBufDwords) {spdmBytes : Nat}
    (aligned : spdmBytes % 4 = 0) : spdmPad rspBuf spdmBytes = .ok (rspBuf, spdmBytes) := by
  rw [spdmPad, if_pos aligned]

/-- The record with an SPDM message stored behind the response header. -/
def Doe.withMessage (doe : Doe) (bytes : List Byte) : Doe :=
  { doe with rspBuf := doe.rspBuf.putBytes 8 bytes }

theorem spdmFinish_publishes (doe : Doe) (doeType : Byte) {bytes : List Byte} (count : Nat)
    (length : bytes.length = 4 * count) (fits : count ≤ 66) :
    Publishes doe { type := doeType, payload := packWords bytes }
      (spdmFinish (doe.withMessage bytes) doeType bytes.length) := by
  have dwords : bytes.length / 4 = count := by omega
  have packed : (packWords bytes).length = count := length_packWords length
  rw [spdmFinish, Doe.withMessage, spdmPad_aligned _ (by omega)]
  simp only [bind, Except.bind, store_zero, store_one, dwords]
  refine ⟨Vector.set (Vector.set (doe.rspBuf.putBytes 8 bytes) 0
    (header doeVidPcisig doeType)) 1 (BitVec.ofNat 32 (2 + count)), ?_, ?_⟩
  · rw [Response.length_dwords, packed, Doe.publish, Int.natCast_add]
    rfl
  · rw [Response.length_dwords, Response.dwords, packed, take_headers]
    rw [Buffer.drop_take_putBytes doe.rspBuf 2 count bytes length
      (by rw [doeBufDwords]; omega)]

theorem putBytes_next (buffer : Buffer doeBufDwords) {offset next : Nat}
    {first second : List Byte} (adjacent : next = offset + first.length) :
    (buffer.putBytes offset first).putBytes next second =
      buffer.putBytes offset (first ++ second) := by
  rw [adjacent, Buffer.putBytes_append]

theorem spdmError_eq (doe : Doe) (doeType : Byte) :
    spdmError doe doeType spdmErrUnsup = spdmFinish (doe.withMessage errorBytes) doeType 4 := by
  rw [spdmError, Doe.withMessage, errorBytes]
  simp (disch := simp) only [rspStore_bind, putBytes_next, Nat.add_zero,
    List.cons_append, List.nil_append]

theorem spdmVersion_eq (doe : Doe) (doeType : Byte) :
    spdmVersion doe doeType = spdmFinish (doe.withMessage versionBytes) doeType 12 := by
  have first : wordBytes 2 (0x1000 : BitVec 16) = [0x00, 0x10] := by decide
  have second : wordBytes 2 (0x1200 : BitVec 16) = [0x00, 0x12] := by decide
  rw [spdmVersion, Doe.withMessage, versionBytes, first, second]
  simp (disch := simp) only [rspStore_bind, putBytes_next, Nat.add_zero,
    List.cons_append, List.nil_append]

theorem spdmCaps_eq (doe : Doe) (doeType ver : Byte) :
    spdmCaps doe doeType ver = spdmFinish (doe.withMessage (capsBytes ver)) doeType 12 := by
  have flags : wordBytes 4 (spdmCapCert ||| spdmCapChal ||| spdmCapMeas) =
      [0x2C, 0, 0, 0] := by decide
  rw [spdmCaps, Doe.withMessage, capsBytes]
  simp (disch := simp) only [flags, rspStore_bind, putBytes_next, Nat.add_zero,
    List.cons_append, List.nil_append]

/-- The fields of an ALGORITHMS message, by offset. -/
def algosFields (ver : Byte) : List (Nat × List Byte) :=
  [(0, [ver]), (1, [spdmRspAlgos]), (2, [0]), (3, [0]), (4, [36, 0]), (6, [spdmMeasDmtf]),
    (8, [2, 0, 0, 0]), (12, [1, 0, 0, 0])]

theorem overlay_algosFields (ver : Byte) :
    (algosFields ver).foldl (fun bytes field => Buffer.overlay bytes field.1 field.2)
      (List.replicate 36 0) = algosBytes ver := by
  simp [algosFields, Buffer.overlay, algosBytes, List.replicate]

theorem spdmAlgos_eq (doe : Doe) (doeType ver : Byte) :
    spdmAlgos doe doeType ver = spdmFinish (doe.withMessage (algosBytes ver)) doeType 36 := by
  have length : wordBytes 2 (36 : BitVec 16) = [36, 0] := by decide
  have asym : wordBytes 4 spdmAsymRsa2048 = [2, 0, 0, 0] := by decide
  have hash : wordBytes 4 spdmHashSha256 = [1, 0, 0, 0] := by decide
  have stored := Buffer.putBytes_patches doe.rspBuf (algosFields ver)
    (show ∀ field ∈ algosFields ver, field.1 + field.2.length ≤ (List.replicate 36 0).length by
      simp [algosFields])
    (show 8 + (List.replicate 36 0).length ≤ 4 * doeBufDwords by decide)
  rw [overlay_algosFields] at stored
  rw [spdmAlgos, Doe.withMessage, length, asym, hash, ← stored]
  simp (disch := simp) only [rspStore_bind]
  rfl

/-! ## Dispatch -/

theorem spdmHandle_publishes (doe : Doe) (doeType : Byte) (long : ¬doe.reqLen < 3) :
    Publishes doe (spdmResponse doeType (laneOf doe.reqBuf[2] 0) (laneOf doe.reqBuf[2] 1))
      (spdmHandle doe doeType) := by
  have verByte : doe.reqBuf.loadByte 8 = .ok (laneOf doe.reqBuf[2] 0) :=
    doe.reqBuf.loadByte_of_lt (by decide)
  have codeByte : doe.reqBuf.loadByte 9 = .ok (laneOf doe.reqBuf[2] 1) :=
    doe.reqBuf.loadByte_of_lt (by decide)
  rw [spdmHandle, if_neg long, verByte, codeByte]
  simp only [bind, Except.bind, spdmResponse, spdmBytes]
  by_cases version : laneOf doe.reqBuf[2] 1 = spdmGetVersion
  · rw [if_pos version, if_pos version, spdmVersion_eq]
    exact spdmFinish_publishes doe doeType 3 rfl (by decide)
  rw [if_neg version, if_neg version]
  by_cases caps : laneOf doe.reqBuf[2] 1 = spdmGetCaps
  · rw [if_pos caps, if_pos caps, spdmCaps_eq]
    exact spdmFinish_publishes doe doeType 3 rfl (by decide)
  rw [if_neg caps, if_neg caps]
  by_cases algos : laneOf doe.reqBuf[2] 1 = spdmNegAlgos
  · rw [if_pos algos, if_pos algos, spdmAlgos_eq]
    exact spdmFinish_publishes doe doeType 9 rfl (by decide)
  · rw [if_neg algos, if_neg algos, spdmError_eq]
    exact spdmFinish_publishes doe doeType 1 rfl (by decide)

/-- The request buffer holds exactly the given dwords. -/
structure HoldsRequest (doe : Doe) (request : List Dword) : Prop where
  length : doe.reqLen = request.length
  fits : request.length ≤ doeBufDwords
  dwords : doe.reqBuf.toList.take request.length = request

theorem HoldsRequest.getElem {doe : Doe} {request : List Dword}
    (holds : HoldsRequest doe request) {index : Nat} (bound : index < request.length)
    (inBuffer : index < doeBufDwords) : doe.reqBuf[index] = request[index] := by
  have selected := congrArg (fun words => words[index]?) holds.dwords
  simp only [List.getElem?_take_of_lt bound, List.getElem?_eq_getElem bound] at selected
  rw [List.getElem?_eq_getElem (by simpa using inBuffer)] at selected
  simpa using selected

theorem HoldsRequest.first {doe : Doe} {first : Dword} {rest : List Dword}
    (holds : HoldsRequest doe (first :: rest)) : doe.reqBuf[0] = first :=
  holds.getElem (Nat.zero_lt_succ _) (by decide)

theorem HoldsRequest.eq_nil {doe : Doe} {request : List Dword}
    (holds : HoldsRequest doe request) (unwritten : doe.reqLen = 0) : request = [] := by
  have length := holds.length
  rw [unwritten] at length
  exact List.length_eq_zero_iff.mp (by omega)

/-- A request is answered from its own dwords: either the status becomes an
error and nothing else changes, or the response to them is published. -/
theorem doeProcess_answers (table : List Protocol) {doe : Doe} {request : List Dword}
    (holds : HoldsRequest doe request) :
    match answer table request with
    | some response => Publishes doe response (doeProcess table doe)
    | none => doeProcess table doe = .ok doe.fail := by
  have counted := holds.length
  match request, holds with
  | [], holds | [_], holds =>
      simp only [List.length_cons, List.length_nil] at counted
      exact if_pos (by omega)
  | first :: second :: rest, holds =>
      simp only [List.length_cons] at counted
      have firstWord := holds.first
      have loaded : doe.reqBuf.load 0 = .ok first :=
        firstWord ▸ doe.reqBuf.load_natCast (by decide)
      rw [doeProcess, if_neg (by omega), loaded]
      simp only [bind, Except.bind]
      cases rest with
      | nil =>
          have short : doe.reqLen < 3 := by
            simp only [List.length_nil] at counted
            omega
          simp only [answer, doeHandleDiscovery, spdmHandle, if_pos short, ite_self]
      | cons third tail =>
          have long : ¬doe.reqLen < 3 := by
            simp only [List.length_cons] at counted
            omega
          have thirdWord : doe.reqBuf[2] = third := holds.getElem (by simp) (by decide)
          by_cases served : Served (headerVid first) (headerType first)
          · rw [answer_of_served table served, ← thirdWord]
            rcases served with ⟨vendor, discovery | spdm⟩
            · rw [if_pos ⟨vendor, discovery⟩, discovery, respond_discovery]
              exact doeHandleDiscovery_publishes table doe long
            · have other : headerType first ≠ doeTypeDisc := by
                rcases spdm with equal | equal <;> rw [equal] <;> decide
              rw [if_neg (fun both => other both.2), if_pos ⟨vendor, spdm⟩,
                respond_spdm table _ spdm]
              exact spdmHandle_publishes doe (headerType first) long
          · have refused : answer table (first :: second :: third :: tail) = none :=
              if_neg served
            rw [refused, if_neg (fun both => served ⟨both.1, Or.inl both.2⟩),
              if_neg (fun both => served ⟨both.1, Or.inr both.2⟩)]

end RemoteRootport.DoeEmu
