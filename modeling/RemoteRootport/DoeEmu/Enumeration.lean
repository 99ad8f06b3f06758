import RemoteRootport.DoeEmu.Dispatch

/-!
# Following the documented next index

The fourth dword of a discovery response is the index to ask for next.  A host
that follows it makes one exchange for each row of the table and sees the rows in
order, up to the largest table that the masked index can reach.
-/

namespace RemoteRootport.DoeEmu

open RemoteRootport.Bytes
open RemoteRootport.Machine

variable (table : List Protocol)

/-- One exchange for each index, the fourth dword of a response naming the next
one, until it is zero.  `none` says that the bound on the number of exchanges was
reached. -/
def discoveryChain : Nat → Doe → Dword → Except Fault (Option (Doe × List (List Dword)))
  | 0, _, _ => .ok none
  | steps + 1, doe, index => do
      let (doe, response) ← discoveryExchange table doe index
      let next := response.getD 3 0
      if next = 0 then
        .ok (some (doe, [response]))
      else
        match ← discoveryChain steps doe next with
        | none => .ok none
        | some (doe, responses) => .ok (some (doe, response :: responses))

/-- The entry in the third dword of a discovery response. -/
def entryOf (response : List Dword) : Dword :=
  response.getD 2 0

/-- The dwords of a discovery response. -/
def discoveryDwords (entry next : Dword) : List Dword :=
  [header doeVidPcisig doeTypeDisc, 4, entry, next]

/-! ## One row -/

theorem index_masked {index : Nat} (small : index < 256) :
    BitVec.ofNat 32 index &&& 0xFF = BitVec.ofNat 32 index := by
  apply BitVec.eq_of_toNat_eq
  rw [BitVec.toNat_and, BitVec.toNat_ofNat, Nat.mod_eq_of_lt (by omega)]
  exact Nat.and_two_pow_sub_one_of_lt_two_pow (show index < 2 ^ 8 from small)

variable {table}

theorem ofNat_lt_numProtocols (bounded : table.length ≤ 256) {index : Nat} (small : index ≤ 256) :
    BitVec.ofNat 32 index < numProtocols table ↔ index < table.length := by
  rw [numProtocols, BitVec.lt_def, BitVec.toNat_ofNat, BitVec.toNat_ofNat,
    Nat.mod_eq_of_lt (by omega), Nat.mod_eq_of_lt (by omega)]

/-- The response for a row of the table. -/
theorem discoveryResponse_inside (bounded : table.length ≤ 256) {index : Nat}
    (inside : index < table.length) :
    (discoveryResponse table (BitVec.ofNat 32 index &&& 0xFF)).dwords =
      discoveryDwords (header table[index].vid table[index].type)
        (if index + 1 < table.length then BitVec.ofNat 32 (index + 1) else 0) := by
  have row : rowAt table (BitVec.ofNat 32 index) = some table[index] := by
    rw [rowAt, if_pos ((ofNat_lt_numProtocols bounded (by omega)).mpr inside),
      BitVec.toNat_ofNat, Nat.mod_eq_of_lt (by omega), List.getElem?_eq_getElem inside]
  have next : nextIndex table (BitVec.ofNat 32 index) =
      if index + 1 < table.length then BitVec.ofNat 32 (index + 1) else 0 := by
    have succ : BitVec.ofNat 32 index + 1 = BitVec.ofNat 32 (index + 1) :=
      (BitVec.ofNat_add index 1).symm
    rw [nextIndex, succ]
    simp only [ofNat_lt_numProtocols bounded (show index + 1 ≤ 256 by omega)]
  rw [index_masked (by omega), Response.dwords, discoveryResponse]
  change _ :: BitVec.ofNat 32 (2 + (discoveryPayload table _).length) ::
    discoveryPayload table _ = _
  rw [discoveryPayload, row, next]
  rfl

/-- The response for an index behind the table. -/
theorem discoveryResponse_outside (bounded : table.length ≤ 256) {third : Dword}
    (outside : table.length ≤ (third &&& 0xFF).toNat) :
    (discoveryResponse table (third &&& 0xFF)).dwords = discoveryDwords 0 0 := by
  have row : rowAt table (third &&& 0xFF) = none := by
    apply if_neg
    rw [numProtocols, BitVec.lt_def, BitVec.toNat_ofNat, Nat.mod_eq_of_lt (by omega)]
    exact Nat.not_lt.mpr outside
  rw [Response.dwords, discoveryResponse]
  change _ :: BitVec.ofNat 32 (2 + (discoveryPayload table _).length) ::
    discoveryPayload table _ = _
  rw [discoveryPayload, row]
  rfl

/-! ## The chain -/

/-- The exchange for a row, and where the chain goes from there. -/
theorem discoveryChain_succ (bounded : table.length ≤ 256) {doe : Doe} {abstract : Mailbox}
    (represents : Represents doe abstract) (unwritten : abstract.request = []) {index : Nat}
    (inside : index < table.length) (steps : Nat) :
    ∃ next response, Represents next Mailbox.empty ∧
      entryOf response = header table[index].vid table[index].type ∧
      discoveryChain table (steps + 1) doe (BitVec.ofNat 32 index) =
        if index + 1 < table.length then
          discoveryChain table steps next (BitVec.ofNat 32 (index + 1)) >>= fun
            | none => .ok none
            | some (final, responses) => .ok (some (final, response :: responses))
        else
          .ok (some (next, [response])) := by
  rcases discoveryExchange_answers table represents unwritten (BitVec.ofNat 32 index) with
    ⟨next, exchanged, nextRep⟩
  rw [discoveryResponse_inside bounded inside] at exchanged
  refine ⟨next, discoveryDwords (header table[index].vid table[index].type)
    (if index + 1 < table.length then BitVec.ofNat 32 (index + 1) else 0), nextRep, rfl, ?_⟩
  rw [discoveryChain, exchanged]
  change (if (if index + 1 < table.length then BitVec.ofNat 32 (index + 1) else 0) = (0 : Dword)
    then _ else _) = _
  by_cases more : index + 1 < table.length
  · have continues : BitVec.ofNat 32 (index + 1) ≠ 0 := by
      intro zero
      have value := congrArg BitVec.toNat zero
      rw [BitVec.toNat_ofNat, Nat.mod_eq_of_lt (by omega)] at value
      cases value
    simp only [if_pos more, if_neg continues]
    rfl
  · simp only [if_neg more, if_pos]

/-- From a row on, the chain ends after as many exchanges as there are rows left. -/
theorem discoveryChain_covers (bounded : table.length ≤ 256) (steps : Nat) {doe : Doe}
    {abstract : Mailbox} (represents : Represents doe abstract)
    (unwritten : abstract.request = []) {index : Nat}
    (left : index + (steps + 1) = table.length) :
    ∃ final responses,
      discoveryChain table (steps + 1) doe (BitVec.ofNat 32 index) =
        .ok (some (final, responses)) ∧
      responses.map entryOf = (table.drop index).map fun row => header row.vid row.type := by
  induction steps generalizing doe abstract index with
  | zero =>
      have inside : index < table.length := by omega
      rcases discoveryChain_succ bounded represents unwritten inside 0 with
        ⟨next, response, _, entry, chained⟩
      rw [if_neg (by omega)] at chained
      refine ⟨next, [response], chained, ?_⟩
      rw [List.drop_eq_getElem_cons inside, List.drop_of_length_le (by omega), List.map_cons,
        List.map_cons, entry]
      rfl
  | succ steps ih =>
      have inside : index < table.length := by omega
      rcases discoveryChain_succ bounded represents unwritten inside (steps + 1) with
        ⟨next, response, nextRep, entry, chained⟩
      rcases ih nextRep rfl (show index + 1 + (steps + 1) = table.length by omega) with
        ⟨final, responses, continued, entries⟩
      rw [if_pos (by omega), continued] at chained
      refine ⟨final, response :: responses, chained, ?_⟩
      rw [List.drop_eq_getElem_cons inside, List.map_cons, List.map_cons, entry, entries]

/-- Fewer exchanges than there are rows left do not finish the chain. -/
theorem discoveryChain_unfinished (bounded : table.length ≤ 256) (steps : Nat) {doe : Doe}
    {abstract : Mailbox} (represents : Represents doe abstract)
    (unwritten : abstract.request = []) {index : Nat}
    (left : index + steps < table.length) :
    discoveryChain table steps doe (BitVec.ofNat 32 index) = .ok none := by
  induction steps generalizing doe abstract index with
  | zero => rfl
  | succ steps ih =>
      have inside : index < table.length := by omega
      rcases discoveryChain_succ bounded represents unwritten inside steps with
        ⟨next, response, nextRep, _, chained⟩
      rw [chained, if_pos (by omega), ih nextRep rfl (by omega)]
      rfl

variable (table)

/-- A discovery request for an index behind the table is answered with a zero entry
and next index zero, whatever else it carries. -/
theorem outside_answered (bounded : table.length ≤ 256) {doe : Doe} {abstract : Mailbox}
    (represents : Represents doe abstract) (unwritten : abstract.request = [])
    {first third : Dword} (second : Dword) (rest : List Dword) {val : Dword}
    (vid : headerVid first = doeVidPcisig) (type : headerType first = doeTypeDisc)
    (outside : table.length ≤ (third &&& 0xFF).toNat) (go : hasGo val = true)
    (kept : hasAbort val = false) :
    ∃ next outputs final,
      (mailbox table).run doe (submit (first :: second :: third :: rest) val) =
        .ok (next, outputs) ∧
      readResponse table next = .ok (final, discoveryDwords 0 0) := by
  rcases (mailbox_refines table).run represents (submit (first :: second :: third :: rest) val)
    with ⟨next, ran, nextRep⟩
  rcases Mailbox.after_submit table unwritten (first :: second :: third :: rest) go kept with
    ⟨written, request, after⟩
  have answered : answer table written.request =
      some (discoveryResponse table (third &&& 0xFF)) := by
    rw [request]
    change answer table (first :: second :: third :: rest.take 65) = _
    rw [answer_of_served table ⟨vid, Or.inl type⟩, type, respond_discovery]
  have drains : Draining .ready (discoveryResponse table (third &&& 0xFF)).dwords 0
      (written.go table) := by
    rw [Mailbox.go, answered]
    refine ⟨rfl, ?_⟩
    rw [if_pos (List.length_pos_iff.mpr (Response.dwords_ne_nil _))]
  have nextGo : Represents next (written.go table) := by
    rw [← after]
    exact nextRep
  rcases readResponse_delivers table nextGo drains (written.request_go table) with
    ⟨final, delivered, _⟩
  rw [discoveryResponse_outside bounded outside] at delivered
  exact ⟨next, _, final, ran, delivered⟩

/-- Following the documented next index from zero makes exactly one exchange for
each row and returns the rows in table order; an index behind the table is answered
with a zero entry that ends the chain. -/
theorem chain_covers_table {doe : Doe} (reached : Reachable table doe)
    (unwritten : doe.reqLen = 0) (nonempty : 1 ≤ table.length)
    (bounded : table.length ≤ 256) :
    (∃ final responses,
      discoveryChain table table.length doe 0 = .ok (some (final, responses)) ∧
      responses.length = table.length ∧
      responses.map entryOf = table.map fun row => header row.vid row.type) ∧
    (∀ steps < table.length, discoveryChain table steps doe 0 = .ok none) ∧
    (∀ first second third rest val, headerVid first = doeVidPcisig →
      headerType first = doeTypeDisc → table.length ≤ (third &&& 0xFF).toNat →
      hasGo val = true → hasAbort val = false →
      ∃ next outputs final,
        (mailbox table).run doe (submit (first :: second :: third :: rest) val) =
          .ok (next, outputs) ∧
        readResponse table next = .ok (final, discoveryDwords 0 0)) := by
  rcases reached.represents with ⟨abstract, represents⟩
  have request := represents.request.eq_nil unwritten
  refine ⟨?_, ?_, ?_⟩
  · have left : 0 + (table.length - 1 + 1) = table.length := by omega
    rcases discoveryChain_covers bounded (table.length - 1) represents request left with
      ⟨final, responses, chained, entries⟩
    rw [Nat.sub_add_cancel nonempty] at chained
    refine ⟨final, responses, chained, ?_, entries⟩
    have counted := congrArg List.length entries
    rwa [List.length_map, List.drop_zero, List.length_map] at counted
  · intro steps fewer
    exact discoveryChain_unfinished bounded steps represents request
      (show 0 + steps < table.length by omega)
  · intro first second third rest val vid type outside go kept
    exact outside_answered table bounded represents request second rest vid type outside go kept

/-- The chain through the emulator's own four rows. -/
theorem protocols_chain_covers :
    protocols.length = 4 ∧
      ∃ final responses,
        discoveryChain protocols 4 Doe.zero 0 = .ok (some (final, responses)) ∧
        responses.map entryOf = [0x00000001, 0x00010001, 0x00020001, 0x00021E98] := by
  rcases (chain_covers_table protocols (Transducer.Reachable.refl Doe.zero) rfl (by decide)
    (by decide)).1 with ⟨final, responses, chained, _, entries⟩
  exact ⟨rfl, final, responses, chained, entries⟩

end RemoteRootport.DoeEmu
