import RemoteRootport.Netlink.Walk

/-!
# Which bytes the parser looks at

A datagram comes with three lengths: what `recv` reports, `nlmsg_len`, and one
`nla_len` for each attribute.  The parser never compares them.  Its reads are
recorded here position by position, and the record is complete: two memories that
agree on it are parsed alike.  The parser stays inside the datagram exactly when
the lengths agree on the attributes the loop visits.
-/

namespace RemoteRootport.Netlink

open RemoteRootport.Bytes
open RemoteRootport.Wire

/-! ## The positions read -/

/-- What one iteration reads of the attribute at an offset: the type, and then
either the payload that is copied or the length that is stepped over. -/
def attrReads (memory : Memory) (wanted : BitVec 16) (offset : Nat) : List Nat :=
  List.range' (offset + 2) 2 ++
    if (memory.view Nlattr.layout offset).nlaType = wanted then
      List.range' (offset + nlaHdrlen) ConfigOp.layout.size
    else
      List.range' offset 2

/-- What `fuel` iterations of the loop read. -/
def attrInspected (memory : Memory) (wanted : BitVec 16) (fuel : Nat) (attrlen : Int)
    (offset : Nat) : List Nat :=
  if attrlen ≤ 0 then
    []
  else
    match fuel with
    | 0 => []
    | fuel + 1 =>
        let attr := memory.view Nlattr.layout offset
        attrReads memory wanted offset ++
          if attr.nlaType = wanted then
            []
          else
            let length := nlaAlign attr.nlaLen.toNat
            attrInspected memory wanted fuel (attrlen - length) (offset + length)

/-- What `nl_recv_request` reads of the buffer, in order: `cmd`, `nlmsg_pid`,
`nlmsg_seq`, `nlmsg_len` and the attributes of a number of iterations. -/
def Datagram.inspected (datagram : Datagram) (iterations : Nat) : List Nat :=
  if datagram.len ≤ 0 then
    []
  else
    List.range' nlmsgHdrlen 1 ++
      if datagram.genl.cmd ≠ averyCmdRequest then
        []
      else
        List.range' 12 4 ++ List.range' 8 4 ++ List.range' 0 4 ++
          attrInspected datagram.memory averyAttrOp iterations datagram.attrlen attrStart

variable {memory : Memory} {wanted : BitVec 16} {attrlen : Int} {offset : Nat}

theorem attrInspected_here (left : 0 < attrlen)
    (typed : (memory.view Nlattr.layout offset).nlaType = wanted) (fuel : Nat) :
    attrInspected memory wanted (fuel + 1) attrlen offset = attrReads memory wanted offset := by
  rw [attrInspected, if_neg (Int.not_le.mpr left)]
  change _ ++ (if _ = wanted then [] else _) = _
  rw [if_pos typed, List.append_nil]

theorem attrInspected_skip (left : 0 < attrlen)
    (other : (memory.view Nlattr.layout offset).nlaType ≠ wanted) (fuel : Nat) :
    attrInspected memory wanted (fuel + 1) attrlen offset =
      attrReads memory wanted offset ++
        attrInspected memory wanted fuel
          (attrlen - nlaAlign (memory.view Nlattr.layout offset).nlaLen.toNat)
          (offset + nlaAlign (memory.view Nlattr.layout offset).nlaLen.toNat) := by
  rw [attrInspected, if_neg (Int.not_le.mpr left)]
  change _ ++ (if _ = wanted then [] else _) = _
  rw [if_neg other]

/-- The first attribute is read by the first iteration. -/
theorem mem_attrInspected_first {position : Nat} (left : 0 < attrlen)
    (read : position ∈ attrReads memory wanted offset) (fuel : Nat) :
    position ∈ attrInspected memory wanted (fuel + 1) attrlen offset := by
  by_cases typed : (memory.view Nlattr.layout offset).nlaType = wanted
  · rwa [attrInspected_here left typed]
  · rw [attrInspected_skip left typed]
    exact List.mem_append_left _ read

/-- Every visited attribute is read. -/
theorem mem_attrInspected_of_visited {index position : Nat}
    (visited : Visited memory wanted attrlen offset index)
    (read : position ∈ attrReads memory wanted (attrOffset memory offset index)) :
    position ∈ attrInspected memory wanted (index + 1) attrlen offset := by
  induction index generalizing attrlen offset with
  | zero => exact mem_attrInspected_first visited.left read 0
  | succ index ih =>
      rcases visited_succ_iff.mp visited with ⟨other, rest⟩
      rw [attrInspected_skip visited.left other]
      exact List.mem_append_right _ (ih rest read)

/-- And nothing else is. -/
theorem visited_of_mem_attrInspected {fuel position : Nat}
    (inspected : position ∈ attrInspected memory wanted fuel attrlen offset) :
    ∃ index, Visited memory wanted attrlen offset index ∧
      position ∈ attrReads memory wanted (attrOffset memory offset index) := by
  induction fuel generalizing attrlen offset with
  | zero =>
      rw [attrInspected, ite_self] at inspected
      cases inspected
  | succ fuel ih =>
      by_cases left : 0 < attrlen
      · by_cases typed : (memory.view Nlattr.layout offset).nlaType = wanted
        · rw [attrInspected_here left typed] at inspected
          exact ⟨0, visited_zero_iff.mpr left, inspected⟩
        · rw [attrInspected_skip left typed] at inspected
          rcases List.mem_append.mp inspected with here | later
          · exact ⟨0, visited_zero_iff.mpr left, here⟩
          · rcases ih later with ⟨index, visited, read⟩
            exact ⟨index + 1, visited_succ_iff.mpr ⟨typed, visited⟩, read⟩
      · rw [attrInspected, if_pos (Int.not_lt.mp left)] at inspected
        cases inspected

theorem mem_attrReads_typed {position : Nat}
    (typed : (memory.view Nlattr.layout offset).nlaType = wanted) :
    position ∈ attrReads memory wanted offset ↔
      offset + 2 ≤ position ∧ position < offset + (nlaHdrlen + ConfigOp.layout.size) := by
  rw [attrReads, if_pos typed, List.mem_append, List.mem_range'_1, List.mem_range'_1]
  change _ ∨ offset + 4 ≤ position ∧ position < offset + 4 + 16 ↔
    _ ∧ position < offset + 20
  omega

theorem mem_attrReads_other {position : Nat}
    (other : (memory.view Nlattr.layout offset).nlaType ≠ wanted) :
    position ∈ attrReads memory wanted offset ↔
      offset ≤ position ∧ position < offset + nlaHdrlen := by
  rw [attrReads, if_neg other, List.mem_append, List.mem_range'_1, List.mem_range'_1]
  change _ ↔ _ ∧ position < offset + 4
  omega

theorem mem_attrReads_type {position : Nat} (behind : offset + 2 ≤ position)
    (before : position < offset + 4) : position ∈ attrReads memory wanted offset :=
  List.mem_append_left _ (List.mem_range'_1.mpr ⟨behind, before⟩)

namespace Datagram

theorem commands_iff {datagram : Datagram} (received : 0 < datagram.len) :
    datagram.commands = true ↔ datagram.genl.cmd = averyCmdRequest := by
  simp [commands, received]

theorem inspected_of_commands {datagram : Datagram} (commands : datagram.commands = true)
    (iterations : Nat) :
    datagram.inspected iterations =
      List.range' nlmsgHdrlen 1 ++ (List.range' 12 4 ++ List.range' 8 4 ++ List.range' 0 4 ++
        attrInspected datagram.memory averyAttrOp iterations datagram.attrlen attrStart) := by
  rw [Datagram.commands, Bool.and_eq_true, decide_eq_true_eq, beq_iff_eq] at commands
  rw [inspected, if_neg (Int.not_le.mpr commands.1), if_neg (not_not_intro commands.2)]

/-- The command is read of every datagram. -/
theorem cmd_inspected {datagram : Datagram} (received : 0 < datagram.len) (iterations : Nat) :
    nlmsgHdrlen ∈ datagram.inspected iterations := by
  rw [inspected, if_neg (Int.not_le.mpr received)]
  exact List.mem_append_left _ (List.mem_range'_1.mpr ⟨Nat.le_refl _, Nat.lt_succ_self _⟩)

theorem attr_inspected {datagram : Datagram} (commands : datagram.commands = true)
    {iterations position : Nat}
    (read : position ∈
      attrInspected datagram.memory averyAttrOp iterations datagram.attrlen attrStart) :
    position ∈ datagram.inspected iterations := by
  rw [inspected_of_commands commands]
  exact List.mem_append_right _ (List.mem_append_right _ read)

/-- What is not read of an attribute is read of the headers. -/
theorem mem_inspected_cases {datagram : Datagram} {iterations position : Nat}
    (read : position ∈ datagram.inspected iterations) :
    position ≤ nlmsgHdrlen ∨ datagram.commands = true ∧ position ∈
      attrInspected datagram.memory averyAttrOp iterations datagram.attrlen attrStart := by
  cases commands : datagram.commands with
  | true =>
      rw [inspected_of_commands commands] at read
      simp only [List.mem_append, List.mem_range'_1] at read
      rcases read with cmd | ((pid | seq) | len) | attrs
      · exact Or.inl (Nat.le_of_lt_succ cmd.2)
      · exact Or.inl (Nat.le_of_lt pid.2)
      · exact Or.inl (Nat.le_trans (Nat.le_of_lt seq.2) (by decide))
      · exact Or.inl (Nat.le_trans (Nat.le_of_lt len.2) (by decide))
      · exact Or.inr ⟨rfl, attrs⟩
  | false =>
      rw [inspected] at read
      split at read
      case isTrue => cases read
      case isFalse received =>
          have other : datagram.genl.cmd ≠ averyCmdRequest := by
            intro same
            rw [(commands_iff (Int.not_le.mp received)).mpr same] at commands
            cases commands
          rw [if_pos other, List.append_nil, List.mem_range'_1] at read
          exact Or.inl (Nat.le_of_lt_succ read.2)

end Datagram

/-! ## The record is complete -/

theorem attrWalk_congr {other : Memory} {fuel : Nat}
    (agree : ∀ position ∈ attrInspected memory wanted fuel attrlen offset,
      memory position = other position) :
    attrWalk memory wanted fuel attrlen offset = attrWalk other wanted fuel attrlen offset := by
  induction fuel generalizing attrlen offset with
  | zero =>
      by_cases left : 0 < attrlen
      · rw [attrWalk_zero left, attrWalk_zero left]
      · rw [attrWalk_spent left, attrWalk_spent left]
  | succ fuel ih =>
      by_cases left : 0 < attrlen
      · have first : ∀ position ∈ attrReads memory wanted offset,
            memory position = other position := by
          intro position read
          exact agree position (mem_attrInspected_first left read fuel)
        have types : (memory.view Nlattr.layout offset).nlaType =
            (other.view Nlattr.layout offset).nlaType := by
          rw [Memory.view_nlaType, Memory.view_nlaType]
          apply Memory.view_congr
          intro position behind before
          exact first position (mem_attrReads_type behind before)
        by_cases typed : (memory.view Nlattr.layout offset).nlaType = wanted
        · rw [attrWalk_here left typed, attrWalk_here left (types.symm.trans typed)]
        · have lengths : (memory.view Nlattr.layout offset).nlaLen =
              (other.view Nlattr.layout offset).nlaLen := by
            rw [Memory.view_nlaLen, Memory.view_nlaLen]
            apply Memory.view_congr
            intro position behind before
            apply first position
            exact (mem_attrReads_other typed).mpr
              ⟨behind, Nat.lt_trans before (Nat.add_lt_add_left (by decide) _)⟩
          rw [attrWalk_skip left typed, attrWalk_skip left (types ▸ typed), ← lengths]
          apply ih
          intro position read
          apply agree position
          rw [attrInspected_skip left typed]
          exact List.mem_append_right _ read
      · rw [attrWalk_spent left, attrWalk_spent left]

namespace Datagram

theorem view_nlmsgLen (datagram : Datagram) :
    datagram.nlh.nlmsgLen = datagram.memory.view dword 0 :=
  congrArg Prod.fst (datagram.memory.view_pair dword _ 0)

theorem view_nlmsgSeq (datagram : Datagram) :
    datagram.nlh.nlmsgSeq = datagram.memory.view dword 8 := by
  change (datagram.memory.view
    (dword.pair (half.pair (half.pair (dword.pair dword)))) 0).2.2.2.1 = _
  simp only [Memory.view_pair]
  rfl

theorem view_nlmsgPid (datagram : Datagram) :
    datagram.nlh.nlmsgPid = datagram.memory.view dword 12 := by
  change (datagram.memory.view
    (dword.pair (half.pair (half.pair (dword.pair dword)))) 0).2.2.2.2 = _
  simp only [Memory.view_pair]
  rfl

theorem view_cmd (datagram : Datagram) :
    datagram.genl.cmd = datagram.memory.view octet nlmsgHdrlen :=
  congrArg Prod.fst (datagram.memory.view_pair octet _ nlmsgHdrlen)

end Datagram

/-- Two datagrams of one length agree on every position read of the first. -/
structure Datagram.Agree (datagram other : Datagram) : Prop where
  len : datagram.len = other.len
  memory : ∀ iterations, ∀ position ∈ datagram.inspected iterations,
    datagram.memory position = other.memory position

namespace Datagram.Agree

variable {datagram other : Datagram}

theorem commands (agree : Agree datagram other) : datagram.commands = other.commands := by
  by_cases received : 0 < datagram.len
  · have same : datagram.genl.cmd = other.genl.cmd := by
      rw [view_cmd, view_cmd]
      apply Memory.view_congr
      intro position behind before
      have only : position = nlmsgHdrlen := Nat.le_antisymm (Nat.le_of_lt_succ before) behind
      rw [only]
      exact agree.memory 0 _ (cmd_inspected received 0)
    rw [Datagram.commands, Datagram.commands, agree.len, same]
  · simp [Datagram.commands, received, agree.len ▸ received]

theorem view_dword (agree : Agree datagram other) (commands : datagram.commands = true)
    {offset : Nat} (field : offset = 0 ∨ offset = 8 ∨ offset = 12) :
    datagram.memory.view dword offset = other.memory.view dword offset := by
  apply Memory.view_congr
  intro position behind before
  change position < offset + 4 at before
  apply agree.memory 0
  rw [inspected_of_commands commands]
  simp only [List.mem_append, List.mem_range'_1]
  omega

theorem attrlen_eq (agree : Agree datagram other) (commands : datagram.commands = true) :
    datagram.attrlen = other.attrlen := by
  rw [Datagram.attrlen, Datagram.attrlen, view_nlmsgLen, view_nlmsgLen,
    agree.view_dword commands (Or.inl rfl)]

theorem req (agree : Agree datagram other) (commands : datagram.commands = true) :
    datagram.req = other.req := by
  rw [Datagram.req, Datagram.req, view_nlmsgSeq, view_nlmsgSeq, view_nlmsgPid, view_nlmsgPid,
    agree.view_dword commands (Or.inr (Or.inl rfl)),
    agree.view_dword commands (Or.inr (Or.inr rfl))]

theorem walk (agree : Agree datagram other) (commands : datagram.commands = true) :
    datagram.walk = other.walk := by
  rw [Datagram.walk, Datagram.walk, ← agree.attrlen_eq commands]
  apply attrWalk_congr
  intro position read
  exact agree.memory _ position (attr_inspected commands read)

theorem op (agree : Agree datagram other) (commands : datagram.commands = true) {offset : Nat}
    (found : datagram.walk = .found offset) : datagram.op offset = other.op offset := by
  rcases attrWalk_found found with ⟨index, visited, typed, rfl⟩
  apply Memory.view_congr
  intro position behind before
  apply agree.memory (index + 1)
  apply attr_inspected commands
  apply mem_attrInspected_of_visited visited
  apply (mem_attrReads_typed typed).mpr
  change _ + 4 ≤ position at behind
  change position < _ + 4 + 16 at before
  change _ ∧ position < _ + 20
  omega

end Datagram.Agree

/-- Nothing but the recorded positions matters to the parser. -/
theorem nlRecvRequest_congr {datagram other : Datagram} (agree : datagram.Agree other)
    (locals : Locals) : nlRecvRequest locals datagram = nlRecvRequest locals other := by
  cases commands : datagram.commands with
  | false =>
      rw [nlRecvRequest_of_not_commands locals commands,
        nlRecvRequest_of_not_commands locals (agree.commands.symm.trans commands)]
  | true =>
      rw [nlRecvRequest_of_commands locals commands,
        nlRecvRequest_of_commands locals (agree.commands.symm.trans commands),
        ← agree.walk commands, ← agree.req commands]
      cases walked : datagram.walk with
      | found offset =>
          change Parsed.request { req := datagram.req, op := datagram.op offset } = _
          rw [agree.op commands walked]
      | absent => rfl
      | running => rfl

/-! ## Staying inside the datagram -/

namespace Datagram

/-- The parser reads only bytes of the datagram. -/
def StaysInside (datagram : Datagram) : Prop :=
  ∀ iterations, ∀ position ∈ datagram.inspected iterations, (position : Int) < datagram.len

/-- The attribute with a number has the type and the size of an operation, and lies
inside both the datagram and the message. -/
structure HoldsOp (datagram : Datagram) (index : Nat) : Prop where
  typed : (attrAt datagram.memory attrStart index).nlaType = averyAttrOp
  sized : nlaHdrlen + ConfigOp.layout.size ≤
    (attrAt datagram.memory attrStart index).nlaLen.toNat
  inside : ((attrOffset datagram.memory attrStart index +
    (attrAt datagram.memory attrStart index).nlaLen.toNat : Nat) : Int) ≤
      min datagram.len datagram.nlh.nlmsgLen.toNat

/-- What the parser returns is the start of the payload of such an attribute. -/
def ReturnsHeldOp (datagram : Datagram) (locals : Locals) : Prop :=
  ∀ next, nlRecvRequest locals datagram = .request next →
    ∃ index, Visited datagram.memory averyAttrOp datagram.attrlen attrStart index ∧
      datagram.HoldsOp index ∧
      next.op.toList = datagram.memory.read
        (attrOffset datagram.memory attrStart index + nlaHdrlen) ConfigOp.layout.size

/-- The lengths agree as far as the loop gets: the command lies inside, and so does
each attribute visited in a request, an operation with its payload and any other
with its header. -/
def WellBounded (datagram : Datagram) : Prop :=
  nlmsgHdrlen < datagram.len ∧
    (datagram.genl.cmd = averyCmdRequest →
      ∀ index, Visited datagram.memory averyAttrOp datagram.attrlen attrStart index →
        datagram.HoldsOp index ∨
          (attrAt datagram.memory attrStart index).nlaType ≠ averyAttrOp ∧
            ((attrOffset datagram.memory attrStart index + nlaHdrlen : Nat) : Int) ≤
              datagram.len)

variable {datagram : Datagram}

/-- A parser that stays inside and returns only whole operations has met no
attribute that is cut off. -/
theorem attribute_bounded {locals : Locals} {index : Nat}
    (commands : datagram.commands = true) (inside : datagram.StaysInside)
    (returns : datagram.ReturnsHeldOp locals)
    (visited : Visited datagram.memory averyAttrOp datagram.attrlen attrStart index) :
    datagram.HoldsOp index ∨
      (attrAt datagram.memory attrStart index).nlaType ≠ averyAttrOp ∧
        ((attrOffset datagram.memory attrStart index + nlaHdrlen : Nat) : Int) ≤
          datagram.len := by
  by_cases typed : (attrAt datagram.memory attrStart index).nlaType = averyAttrOp
  · rcases returns _ (nlRecvRequest_eq_request_iff.mpr
        ⟨commands, _, walk_of_visited visited typed, rfl⟩) with
      ⟨other, otherVisited, holds, -⟩
    rw [visited_unique visited typed otherVisited holds.typed]
    exact Or.inl holds
  · refine Or.inr ⟨typed, ?_⟩
    -- the last byte of the header is one of those read
    have read : attrOffset datagram.memory attrStart index + 3 ∈
        attrReads datagram.memory averyAttrOp (attrOffset datagram.memory attrStart index) :=
      mem_attrReads_type (by omega) (by omega)
    have bound := inside (index + 1) _
      (attr_inspected commands (mem_attrInspected_of_visited visited read))
    change ((_ + 4 : Nat) : Int) ≤ _
    omega

/-- Each attribute visited in a request is one that lies inside. -/
theorem WellBounded.attribute {index : Nat} (bounded : datagram.WellBounded)
    (commands : datagram.commands = true)
    (visited : Visited datagram.memory averyAttrOp datagram.attrlen attrStart index) :
    datagram.HoldsOp index ∨
      (attrAt datagram.memory attrStart index).nlaType ≠ averyAttrOp ∧
        ((attrOffset datagram.memory attrStart index + nlaHdrlen : Nat) : Int) ≤
          datagram.len := by
  have received : 0 < datagram.len := Int.lt_of_le_of_lt (Int.natCast_nonneg _) bounded.1
  exact bounded.2 ((commands_iff received).mp commands) index visited

theorem WellBounded.staysInside (bounded : datagram.WellBounded) : datagram.StaysInside := by
  intro iterations position read
  rcases mem_inspected_cases read with header | ⟨commands, attrs⟩
  · have cmd := bounded.1
    omega
  · rcases visited_of_mem_attrInspected attrs with ⟨index, visited, attr⟩
    rcases bounded.attribute commands visited with holds | ⟨other, fits⟩
    · have before := ((mem_attrReads_typed holds.typed).mp attr).2
      have sized := holds.sized
      have fits := Int.le_trans holds.inside (Int.min_le_left _ _)
      omega
    · have before := ((mem_attrReads_other other).mp attr).2
      omega

theorem WellBounded.returnsHeldOp (bounded : datagram.WellBounded) (locals : Locals) :
    datagram.ReturnsHeldOp locals := by
  intro next returned
  rcases nlRecvRequest_eq_request_iff.mp returned with ⟨commands, offset, walked, rfl⟩
  rcases attrWalk_found walked with ⟨index, visited, typed, rfl⟩
  rcases bounded.attribute commands visited with holds | ⟨other, -⟩
  · exact ⟨index, visited, holds, datagram.toList_op _⟩
  · exact absurd typed other

end Datagram

/-- The parser stays inside a datagram and returns only whole operations exactly
when the lengths of the datagram, of the message and of the visited attributes
agree. -/
theorem parser_bounded_iff (locals : Locals) {datagram : Datagram}
    (received : 0 < datagram.len) :
    datagram.StaysInside ∧ datagram.ReturnsHeldOp locals ↔ datagram.WellBounded := by
  constructor
  · intro property
    constructor
    · exact property.1 0 nlmsgHdrlen (Datagram.cmd_inspected received 0)
    · intro cmd index visited
      exact Datagram.attribute_bounded ((Datagram.commands_iff received).mpr cmd)
        property.1 property.2 visited
  · intro bounded
    exact ⟨bounded.staysInside, bounded.returnsHeldOp locals⟩

/-- A request of 40 bytes with one operation. -/
def wholeOp : Datagram :=
  .ofBytes ([40, 0, 0, 0, 0, 0, 0, 0, 7, 0, 0, 0, 9, 0, 0, 0, 1, 0, 0, 0, 20, 0, 1, 0] ++
    List.replicate 16 5) fun _ => 170

theorem wholeOp_bounded :
    0 < wholeOp.len ∧ wholeOp.StaysInside ∧
      wholeOp.ReturnsHeldOp ⟨⟨0, 0⟩, Vector.replicate 16 0⟩ := by
  refine ⟨by decide, (parser_bounded_iff _ (by decide)).mpr ⟨by decide, ?_⟩⟩
  intro _ index visited
  cases index with
  | zero => exact Or.inl ⟨by decide, by decide, by decide⟩
  | succ index => exact absurd (by decide) (visited_succ_iff.mp visited).1

/-- A request of 24 bytes whose attribute claims to be an operation but ends with its
header; 170 is what happens to lie behind the datagram. -/
def cutOp : Datagram :=
  .ofBytes [24, 0, 0, 0, 0, 0, 0, 0, 0, 0, 0, 0, 0, 0, 0, 0, 1, 0, 0, 0, 4, 0, 1, 0]
    fun _ => 170

/-- The parser returns 0 with an operation read from behind that datagram, in which
no attribute holds one. -/
theorem cutOp_read_outside :
    ¬cutOp.StaysInside ∧ (∀ index, ¬cutOp.HoldsOp index) ∧
      ∀ locals, nlRecvRequest locals cutOp =
        .request { req := ⟨0, 0⟩, op := Vector.replicate 16 170 } := by
  refine ⟨?_, ?_, ?_⟩
  · intro inside
    exact absurd (inside 1 24 (by decide)) (by decide)
  · intro index holds
    have behind := le_attrOffset cutOp.memory attrStart index
    have sized := holds.sized
    have inside := Int.le_trans holds.inside (Int.min_le_left _ _)
    change 20 ≤ _ at behind
    change 20 ≤ _ at sized
    change _ ≤ (24 : Int) at inside
    omega
  · intro locals
    apply nlRecvRequest_eq_request_iff.mpr
    exact ⟨by decide, 20, by decide, by decide⟩

end RemoteRootport.Netlink
