import Mathlib.Data.List.ReduceOption
import RemoteRootport.DoeEmu.Exchange

/-!
# Walking the discovery chain

A host enumerates the protocols with one discovery exchange per index, each of
them a full register-level transaction.  `pci_regs.h` fixes the layout of the
third response dword the host decodes.  The emulator leaves the field of that
dword which holds the next index zero and puts the next index into a dword of its
own, so a host that follows the header stops after the first row.
-/

namespace RemoteRootport.DoeEmu

open RemoteRootport.Bytes
open RemoteRootport.Machine

variable (table : List Protocol)

/-! ## The host side of the header -/

def pciDoeHeader2Length : Dword := 0x0003ffff
def pciDoeDiscRsp3Vid : Dword := 0x0000ffff
def pciDoeDiscRsp3Protocol : Dword := 0x00ff0000
def pciDoeDiscRsp3NextIndex : Dword := 0xff000000

/-- The row the third dword of a discovery response describes. -/
def decodeRow (third : Dword) : Protocol where
  vid := (third &&& pciDoeDiscRsp3Vid).setWidth 16
  type := ((third &&& pciDoeDiscRsp3Protocol) >>> 16).setWidth 8

/-- The next index the third dword of a discovery response names. -/
def decodeNextIndex (third : Dword) : Dword :=
  (third &&& pciDoeDiscRsp3NextIndex) >>> 24

theorem decodeRow_header (row : Protocol) : decodeRow (header row.vid row.type) = row := by
  have vid : (decodeRow (header row.vid row.type)).vid = row.vid :=
    headerVid_header row.vid row.type
  have type : (decodeRow (header row.vid row.type)).type = row.type := by
    rw [decodeRow, BitVec.ushiftRight_and_distrib]
    exact headerType_header row.vid row.type
  exact Protocol.ext vid type

/-- A header dword has nothing above its type field. -/
theorem decodeNextIndex_header (vid : BitVec 16) (type : Byte) :
    decodeNextIndex (header vid type) = 0 := by
  apply BitVec.eq_of_getLsbD_eq
  intro index bound
  simp only [decodeNextIndex, header, BitVec.getLsbD_ushiftRight, BitVec.getLsbD_and,
    BitVec.getLsbD_or, BitVec.getLsbD_shiftLeft, BitVec.getLsbD_setWidth]
  rw [BitVec.getLsbD_of_ge vid _ (by omega), BitVec.getLsbD_of_ge type _ (by omega)]
  simp

/-! ## One exchange -/

/-- Read and acknowledge the two header dwords, then as many more as the length
field says. -/
def readResponse (doe : Doe) : Except Fault (Doe × List Dword) := do
  let (doe, outputs) ← (mailbox table).run doe (drain 2)
  let heads := outputs.reduceOption
  let length := heads.getD 1 0 &&& pciDoeHeader2Length
  let (doe, outputs) ← (mailbox table).run doe (drain (length.toNat - 2))
  .ok (doe, heads ++ outputs.reduceOption)

/-- Write a discovery request for an index and start it. -/
def discoveryStart (index : Dword) : List Access :=
  [.write doeRegWrite (header doeVidPcisig doeTypeDisc), .write doeRegWrite 3,
    .write doeRegWrite index, .write doeRegCtrl doeCtrlGo]

/-- A discovery exchange: request, start, drain. -/
def discoveryExchange (doe : Doe) (index : Dword) : Except Fault (Doe × List Dword) := do
  let (doe, _) ← (mailbox table).run doe (discoveryStart index)
  readResponse table doe

theorem reduceOption_flatMap (words : List Dword) :
    (words.flatMap fun word => [some word, none]).reduceOption = words := by
  induction words with
  | nil => rfl
  | cons word rest ih =>
      rw [List.flatMap_cons, List.reduceOption_append, ih]
      rfl

/-- Part of a drain, at the registers of the emulator. -/
theorem run_drain {doe : Doe} {abstract : Mailbox} (represents : Represents doe abstract)
    {pending : Status} {response : List Dword} {acks : Nat}
    (draining : Draining pending response acks abstract) (unwritten : abstract.request = [])
    (count : Nat) (within : acks + count ≤ response.length) :
    ∃ next outputs after, (mailbox table).run doe (drain count) = .ok (next, outputs) ∧
      outputs.reduceOption = (response.drop acks).take count ∧
      Represents next after ∧ Draining pending response (acks + count) after ∧
      after.request = [] := by
  rcases (mailbox_refines table).run represents (drain count) with ⟨next, ran, nextRep⟩
  rcases draining.drained table count within with ⟨outputs, drained⟩
  refine ⟨next, _, _, ran, ?_, nextRep, drained, ?_⟩
  · rw [outputs, reduceOption_flatMap]
  · exact Mailbox.request_unchanged table (drain count) abstract (drain_quiet count) unwritten

/-- Reading a response by its length field consumes exactly its dwords. -/
theorem readResponse_delivers {doe : Doe} {abstract : Mailbox}
    (represents : Represents doe abstract) {response : Response}
    (draining : Draining .ready response.dwords 0 abstract) (unwritten : abstract.request = []) :
    ∃ next, readResponse table doe = .ok (next, response.dwords) ∧
      Represents next Mailbox.empty := by
  have total := response.length_dwords
  have small : 2 + response.payload.length < 2 ^ 18 := by
    have length := represents.response.length_eq
    have nonneg := represents.response.index_nonneg
    have bounded := represents.response.length_le
    rw [draining.1, List.drop_zero, total] at length
    rw [doeBufDwords] at bounded
    omega
  have counted : (BitVec.ofNat 32 (2 + response.payload.length) &&& pciDoeHeader2Length).toNat =
      2 + response.payload.length := by
    rw [BitVec.toNat_and, BitVec.toNat_ofNat, Nat.mod_eq_of_lt (by omega)]
    exact Nat.and_two_pow_sub_one_of_lt_two_pow small
  rcases run_drain table represents draining unwritten 2 (by omega) with
    ⟨middle, headOutputs, between, headsRan, heads, middleRep, middleDraining, middleUnwritten⟩
  have headWords : headOutputs.reduceOption = [header doeVidPcisig response.type,
      BitVec.ofNat 32 (2 + response.payload.length)] := heads
  rcases run_drain table middleRep middleDraining middleUnwritten response.payload.length
      (by omega) with
    ⟨next, restOutputs, after, restRan, rest, nextRep, drained, nextUnwritten⟩
  have restWords : restOutputs.reduceOption = response.payload := by
    rw [rest]
    exact List.take_length
  rw [drained.finished (by omega) nextUnwritten] at nextRep
  refine ⟨next, ?_, nextRep⟩
  rw [readResponse, headsRan]
  change ((mailbox table).run middle (drain ((headOutputs.reduceOption.getD 1 0 &&&
    pciDoeHeader2Length).toNat - 2)) >>= _) = _
  rw [headWords]
  change ((mailbox table).run middle (drain ((BitVec.ofNat 32 (2 + response.payload.length) &&&
    pciDoeHeader2Length).toNat - 2)) >>= _) = _
  rw [counted, Nat.add_sub_cancel_left, restRan]
  change Except.ok (next, _ ++ restOutputs.reduceOption) = _
  rw [restWords]
  rfl

/-- Whatever was pending before, the request replaces it by its own response. -/
theorem Mailbox.after_discoveryStart {mailbox : Mailbox} (unwritten : mailbox.request = [])
    (index : Dword) :
    (mailbox.after table (discoveryStart index)).request = [] ∧
      Draining .ready (discoveryResponse table (index &&& 0xFF)).dwords 0
        (mailbox.after table (discoveryStart index)) := by
  let written := ((mailbox.push (header doeVidPcisig doeTypeDisc)).push 3).push index
  have request : written.request = [header doeVidPcisig doeTypeDisc, 3, index] := by
    have initially : mailbox.request = ([] : List Dword).take doeBufDwords := unwritten
    exact Mailbox.request_push _ index (Mailbox.request_push _ 3
      (Mailbox.request_push _ (header doeVidPcisig doeTypeDisc) initially))
  have answered : answer table written.request =
      some (discoveryResponse table (index &&& 0xFF)) := by
    rw [request, answer_of_served table ⟨headerVid_header _ _, Or.inl (headerType_header _ _)⟩,
      headerType_header, respond_discovery]
  have started : mailbox.after table (discoveryStart index) = written.go table := rfl
  rw [started, Mailbox.go, answered]
  refine ⟨rfl, rfl, ?_⟩
  rw [if_pos (List.length_pos_iff.mpr (Response.dwords_ne_nil _))]

/-- An exchange returns the discovery response and leaves the mailbox idle. -/
theorem discoveryExchange_answers {doe : Doe} {mailbox : Mailbox}
    (represents : Represents doe mailbox) (unwritten : mailbox.request = []) (index : Dword) :
    ∃ next, discoveryExchange table doe index =
        .ok (next, (discoveryResponse table (index &&& 0xFF)).dwords) ∧
      Represents next Mailbox.empty := by
  rcases Mailbox.after_discoveryStart table unwritten index with ⟨cleared, draining⟩
  rcases (mailbox_refines table).run represents (discoveryStart index) with
    ⟨started, startRan, startedRep⟩
  rcases readResponse_delivers table startedRep draining cleared with ⟨next, read, nextRep⟩
  refine ⟨next, ?_, nextRep⟩
  rw [discoveryExchange, startRan]
  exact read

/-! ## The walk -/

/-- Follow the chain from an index: one exchange per index, until the next index
is zero.  `none` says that the bound on the number of exchanges was reached. -/
def discoveryWalk (next : List Dword → Dword) :
    Nat → Doe → Dword → Except Fault (Option (Doe × List Protocol))
  | 0, _, _ => .ok none
  | steps + 1, doe, index => do
      let (doe, response) ← discoveryExchange table doe index
      let row := decodeRow (response.getD 2 0)
      if next response = 0 then
        .ok (some (doe, [row]))
      else
        match ← discoveryWalk next steps doe (next response) with
        | none => .ok none
        | some (doe, rows) => .ok (some (doe, row :: rows))

/-- The next index of a host that decodes with `pci_regs.h`. -/
def headerNext (response : List Dword) : Dword :=
  decodeNextIndex (response.getD 2 0)

/-- The walk from index 0 ends, having seen exactly the given rows. -/
def WalkSees (next : List Dword → Dword) (doe : Doe) (rows : List Protocol) : Prop :=
  ∃ steps final, discoveryWalk table next steps doe 0 = .ok (some (final, rows))

/-- The response for the first row. -/
theorem discoveryPayload_first (row : Protocol) (rest : List Protocol)
    (bounded : (row :: rest).length ≤ 255) :
    discoveryPayload (row :: rest) 0 =
      [header row.vid row.type, nextIndex (row :: rest) 0] := by
  have inside : (0 : Dword) < numProtocols (row :: rest) := by
    rw [numProtocols, BitVec.lt_def, BitVec.toNat_ofNat, Nat.mod_eq_of_lt (by omega)]
    exact Nat.zero_lt_succ _
  rw [discoveryPayload, rowAt, if_pos inside]
  rfl

/-- A host that decodes with the header sees the first row and nothing else: the
third dword of the response has no next index in it. -/
theorem walk_first {doe : Doe} {mailbox : Mailbox} (represents : Represents doe mailbox)
    (unwritten : mailbox.request = []) {row : Protocol} {rest : List Protocol}
    (bounded : (row :: rest).length ≤ 255) (steps : Nat) :
    ∃ final, discoveryWalk (row :: rest) headerNext (steps + 1) doe 0 =
      .ok (some (final, [row])) := by
  rcases discoveryExchange_answers (row :: rest) represents unwritten 0 with
    ⟨next, exchanged, _⟩
  have third : (discoveryResponse (row :: rest) (0 &&& 0xFF)).dwords.getD 2 0 =
      header row.vid row.type := by
    change (discoveryPayload (row :: rest) 0).getD 0 0 = _
    rw [discoveryPayload_first row rest bounded]
    rfl
  refine ⟨next, ?_⟩
  rw [discoveryWalk, exchanged]
  change (if decodeNextIndex (List.getD _ 2 0) = 0 then
    Except.ok (some (next, [decodeRow (List.getD _ 2 0)])) else _) = _
  rw [third, decodeNextIndex_header, if_pos rfl, decodeRow_header]

theorem walkSees_iff {doe : Doe} {mailbox : Mailbox} (represents : Represents doe mailbox)
    (unwritten : mailbox.request = []) {row : Protocol} {rest : List Protocol}
    (bounded : (row :: rest).length ≤ 255) (rows : List Protocol) :
    WalkSees (row :: rest) headerNext doe rows ↔ rows = [row] := by
  constructor
  · intro ⟨steps, final, walked⟩
    cases steps with
    | zero => cases walked
    | succ steps =>
        rcases walk_first represents unwritten bounded steps with ⟨_, stopped⟩
        rw [stopped] at walked
        cases walked
        rfl
  · intro single
    rcases walk_first represents unwritten bounded 0 with ⟨final, stopped⟩
    exact ⟨1, final, single ▸ stopped⟩

/-- A host that decodes discovery with the masks of the register header sees the
whole table exactly when the table has a single row. -/
theorem walk_sees_table_iff {doe : Doe} (reached : Reachable table doe)
    (unwritten : doe.reqLen = 0) (nonempty : table ≠ []) (bounded : table.length ≤ 255) :
    WalkSees table headerNext doe table ↔ table.length = 1 := by
  rcases reached.represents with ⟨abstract, represents⟩
  have request := represents.request.eq_nil unwritten
  cases table with
  | nil => exact absurd rfl nonempty
  | cons row rest =>
      rw [walkSees_iff represents request bounded, List.length_cons, Nat.add_eq_right,
        List.length_eq_zero_iff]
      constructor
      · intro whole
        cases whole
        rfl
      · intro alone
        rw [alone]

theorem protocols_walk_iff :
    protocols ≠ [] ∧ protocols.length ≤ 255 ∧
      (WalkSees protocols headerNext Doe.zero protocols ↔ protocols.length = 1) :=
  ⟨List.cons_ne_nil _ _, by decide,
    walk_sees_table_iff protocols (Transducer.Reachable.refl _) rfl (List.cons_ne_nil _ _)
      (by decide)⟩

/-- With the emulator's own four rows the walk of the host ends after the first,
so it never sees the table. -/
theorem protocols_walk_stops :
    WalkSees protocols headerNext Doe.zero [{ vid := doeVidPcisig, type := doeTypeDisc }] ∧
      ¬WalkSees protocols headerNext Doe.zero protocols := by
  have bounded : protocols.length ≤ 255 := by decide
  constructor
  · exact (walkSees_iff represents_zero rfl bounded _).mpr rfl
  · intro whole
    have single := (walkSees_iff represents_zero rfl bounded _).mp whole
    cases single

end RemoteRootport.DoeEmu
