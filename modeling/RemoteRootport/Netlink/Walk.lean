import RemoteRootport.Netlink.Parser

/-!
# Where the attribute walks lead

`nl_recv_request` and `nl_get_family_id` contain the same loop, looking for a
different attribute.  Each `nla_len` fixes where the next attribute lies, so the
bytes behind the headers determine one chain of attributes before any of them is
looked at.  The walk is described by that chain: which attributes it visits, what
it returns, and when it comes to an end.
-/

namespace RemoteRootport.Netlink

open RemoteRootport.Bytes
open RemoteRootport.Wire

/-! ## The family lookup -/

/-- `CTRL_ATTR_FAMILY_ID`. -/
def ctrlAttrFamilyId : BitVec 16 := 1

/-- How `nl_get_family_id` ends: with an id, with a message and `exit(1)`, or not
at all. -/
inductive Lookup where
  | family (id : BitVec 16)
  | exits (message : String)
  | hangs
  deriving DecidableEq, Repr

/-- `nl_get_family_id`, given what `sendto` returns and the reply `recv` leaves. -/
def nlGetFamilyId (sent : Int) (reply : Datagram) : Lookup :=
  if sent < 0 then
    .exits "sendto"
  else if reply.len < 0 then
    .exits "recv"
  else
    match attrWalk reply.memory ctrlAttrFamilyId reply.attrlen.toNat reply.attrlen attrStart with
    | .found offset => .family (reply.memory.view half (offset + nlaHdrlen))
    | .absent => .exits "family id not found"
    | .running => .hangs

/-! ## The chain of attributes -/

/-- Where the attribute with a number lies, counted from the one at an offset. -/
def attrOffset (memory : Memory) (offset : Nat) : Nat → Nat
  | 0 => offset
  | index + 1 =>
      attrOffset memory
        (offset + nlaAlign (memory.view Nlattr.layout offset).nlaLen.toNat) index

/-- The header of the attribute with a number. -/
def attrAt (memory : Memory) (offset index : Nat) : Nlattr :=
  memory.view Nlattr.layout (attrOffset memory offset index)

/-- The loop looks at the attribute with a number: it starts before the length is
used up, and none of those before it is the wanted one. -/
def Visited (memory : Memory) (wanted : BitVec 16) (attrlen : Int) (offset index : Nat) :
    Prop :=
  (attrOffset memory offset index : Int) < offset + attrlen ∧
    ∀ earlier < index, (attrAt memory offset earlier).nlaType ≠ wanted

variable {memory : Memory} {wanted : BitVec 16} {attrlen : Int} {offset index : Nat}

theorem le_attrOffset (memory : Memory) (offset index : Nat) :
    offset ≤ attrOffset memory offset index := by
  induction index generalizing offset with
  | zero => exact Nat.le_refl offset
  | succ index ih => exact Nat.le_trans (Nat.le_add_right offset _) (ih _)

theorem nlaAlign_eq_zero_iff (len : Nat) : nlaAlign len = 0 ↔ len = 0 := by
  rw [nlaAlign]
  omega

theorem Visited.left (visited : Visited memory wanted attrlen offset index) : 0 < attrlen := by
  have behind := le_attrOffset memory offset index
  have before := visited.1
  omega

theorem visited_zero_iff : Visited memory wanted attrlen offset 0 ↔ 0 < attrlen := by
  simp [Visited, attrOffset]

/-- The attributes after the first are those of the walk that skips it. -/
theorem visited_succ_iff :
    Visited memory wanted attrlen offset (index + 1) ↔
      (memory.view Nlattr.layout offset).nlaType ≠ wanted ∧
        Visited memory wanted
          (attrlen - nlaAlign (memory.view Nlattr.layout offset).nlaLen.toNat)
          (offset + nlaAlign (memory.view Nlattr.layout offset).nlaLen.toNat) index := by
  rw [Visited, Visited, Nat.forall_lt_succ_left, and_left_comm]
  apply and_congr_right
  intro _
  apply and_congr_left
  intro _
  rw [attrOffset]
  omega

/-! ## What the walk returns -/

/-- Enough iterations to get to a visited attribute of the wanted type find it. -/
theorem attrWalk_visited (visited : Visited memory wanted attrlen offset index)
    (typed : (attrAt memory offset index).nlaType = wanted) :
    attrWalk memory wanted (index + 1) attrlen offset =
      .found (attrOffset memory offset index) := by
  induction index generalizing attrlen offset with
  | zero => exact attrWalk_here visited.left typed 0
  | succ index ih =>
      rcases visited_succ_iff.mp visited with ⟨other, rest⟩
      rw [attrWalk_skip visited.left other]
      exact ih rest typed

/-- What is found was visited and has the wanted type. -/
theorem attrWalk_found {fuel position : Nat}
    (found : attrWalk memory wanted fuel attrlen offset = .found position) :
    ∃ index, Visited memory wanted attrlen offset index ∧
      (attrAt memory offset index).nlaType = wanted ∧
      position = attrOffset memory offset index := by
  induction fuel generalizing attrlen offset with
  | zero =>
      by_cases left : 0 < attrlen
      · rw [attrWalk_zero left] at found
        cases found
      · rw [attrWalk_spent left] at found
        cases found
  | succ fuel ih =>
      by_cases left : 0 < attrlen
      · by_cases typed : (memory.view Nlattr.layout offset).nlaType = wanted
        · rw [attrWalk_here left typed] at found
          cases found
          exact ⟨0, visited_zero_iff.mpr left, typed, rfl⟩
        · rw [attrWalk_skip left typed] at found
          rcases ih found with ⟨index, visited, wantedHere, rfl⟩
          exact ⟨index + 1, visited_succ_iff.mpr ⟨typed, visited⟩, wantedHere, rfl⟩
      · rw [attrWalk_spent left] at found
        cases found

/-- There is at most one such attribute. -/
theorem visited_unique {first second : Nat}
    (firstVisited : Visited memory wanted attrlen offset first)
    (firstTyped : (attrAt memory offset first).nlaType = wanted)
    (secondVisited : Visited memory wanted attrlen offset second)
    (secondTyped : (attrAt memory offset second).nlaType = wanted) : first = second := by
  rcases Nat.lt_trichotomy first second with before | same | behind
  · exact absurd firstTyped (secondVisited.2 first before)
  · exact same
  · exact absurd secondTyped (firstVisited.2 second behind)

/-- Walks that came to an end agree, however many iterations each was given. -/
theorem attrWalk_agree {first second : Nat}
    (firstEnds : attrWalk memory wanted first attrlen offset ≠ .running)
    (secondEnds : attrWalk memory wanted second attrlen offset ≠ .running) :
    attrWalk memory wanted first attrlen offset =
      attrWalk memory wanted second attrlen offset := by
  induction first generalizing second attrlen offset with
  | zero =>
      by_cases left : 0 < attrlen
      · exact absurd (attrWalk_zero left offset) firstEnds
      · rw [attrWalk_spent left, attrWalk_spent left]
  | succ first ih =>
      by_cases left : 0 < attrlen
      · cases second with
        | zero => exact absurd (attrWalk_zero left offset) secondEnds
        | succ second =>
            by_cases typed : (memory.view Nlattr.layout offset).nlaType = wanted
            · rw [attrWalk_here left typed, attrWalk_here left typed]
            · rw [attrWalk_skip left typed] at firstEnds secondEnds ⊢
              rw [attrWalk_skip left typed]
              exact ih firstEnds secondEnds
      · rw [attrWalk_spent left, attrWalk_spent left]

/-! ## When the walk ends -/

/-- A visited attribute of length zero that is not the wanted one keeps the loop
going for ever. -/
theorem attrWalk_stalls (visited : Visited memory wanted attrlen offset index)
    (other : (attrAt memory offset index).nlaType ≠ wanted)
    (empty : (attrAt memory offset index).nlaLen = 0) (fuel : Nat) :
    attrWalk memory wanted fuel attrlen offset = .running := by
  induction index generalizing attrlen offset fuel with
  | zero =>
      apply attrWalk_stuck visited.left other
      rw [nlaAlign_eq_zero_iff]
      exact congrArg BitVec.toNat empty
  | succ index ih =>
      cases fuel with
      | zero => exact attrWalk_zero visited.left offset
      | succ fuel =>
          rcases visited_succ_iff.mp visited with ⟨skipped, rest⟩
          rw [attrWalk_skip visited.left skipped]
          exact ih rest other empty fuel

/-- A walk that outlasts its attribute bytes has met such an attribute. -/
theorem attrWalk_stalled {fuel : Nat} (enough : attrlen.toNat ≤ fuel)
    (running : attrWalk memory wanted fuel attrlen offset = .running) :
    ∃ index, Visited memory wanted attrlen offset index ∧
      (attrAt memory offset index).nlaType ≠ wanted ∧
      (attrAt memory offset index).nlaLen = 0 := by
  induction fuel generalizing attrlen offset with
  | zero =>
      rw [attrWalk, if_pos (by omega)] at running
      cases running
  | succ fuel ih =>
      rcases attrWalk_running running with ⟨left, other⟩
      by_cases empty : (memory.view Nlattr.layout offset).nlaLen = 0
      · exact ⟨0, visited_zero_iff.mpr left, other, empty⟩
      · have advances : nlaAlign (memory.view Nlattr.layout offset).nlaLen.toNat ≠ 0 := by
          rw [Ne, nlaAlign_eq_zero_iff]
          exact fun zero => empty (BitVec.eq_of_toNat_eq zero)
        rw [attrWalk_skip left other] at running
        rcases ih (by omega) running with ⟨index, visited, rest⟩
        exact ⟨index + 1, visited_succ_iff.mpr ⟨other, visited⟩, rest⟩

/-- A walk still running after as many iterations as there are attribute bytes
never ends. -/
theorem attrWalk_never_ends {fuel : Nat} (enough : attrlen.toNat ≤ fuel)
    (running : attrWalk memory wanted fuel attrlen offset = .running) (more : Nat) :
    attrWalk memory wanted more attrlen offset = .running := by
  rcases attrWalk_stalled enough running with ⟨index, visited, other, empty⟩
  exact attrWalk_stalls visited other empty more

namespace Datagram

/-- The loop looking for a type stops, with the attribute or with the length used
up. -/
def LoopEnds (datagram : Datagram) (wanted : BitVec 16) : Prop :=
  ∃ iterations,
    (∃ offset, attrWalk datagram.memory wanted iterations datagram.attrlen attrStart =
      .found offset) ∨
    attrWalk datagram.memory wanted iterations datagram.attrlen attrStart = .absent

/-- Every attribute the loop has to step over has a length. -/
def Advances (datagram : Datagram) (wanted : BitVec 16) : Prop :=
  ∀ index, Visited datagram.memory wanted datagram.attrlen attrStart index →
    (attrAt datagram.memory attrStart index).nlaType ≠ wanted →
    (attrAt datagram.memory attrStart index).nlaLen ≠ 0

theorem loopEnds_iff_ne_running (datagram : Datagram) (wanted : BitVec 16) :
    datagram.LoopEnds wanted ↔
      ∃ iterations, attrWalk datagram.memory wanted iterations datagram.attrlen attrStart ≠
        .running := by
  apply exists_congr
  intro iterations
  cases attrWalk datagram.memory wanted iterations datagram.attrlen attrStart with
  | found offset => simp
  | absent => simp
  | running => simp

/-- As many iterations as there are attribute bytes decide whether the loop ends. -/
theorem loopEnds_iff_bounded (datagram : Datagram) (wanted : BitVec 16) :
    datagram.LoopEnds wanted ↔
      attrWalk datagram.memory wanted datagram.attrlen.toNat datagram.attrlen attrStart ≠
        .running := by
  rw [loopEnds_iff_ne_running]
  constructor
  · intro ends running
    rcases ends with ⟨iterations, ends⟩
    exact ends (attrWalk_never_ends (Nat.le_refl _) running iterations)
  · intro ends
    exact ⟨_, ends⟩

/-- A visited attribute of the type the parser wants is what its loop finds. -/
theorem walk_of_visited {datagram : Datagram} {index : Nat}
    (visited : Visited datagram.memory averyAttrOp datagram.attrlen attrStart index)
    (typed : (attrAt datagram.memory attrStart index).nlaType = averyAttrOp) :
    datagram.walk = .found (attrOffset datagram.memory attrStart index) := by
  have found := attrWalk_visited visited typed
  have ends : datagram.walk ≠ .running := by
    intro running
    rw [attrWalk_never_ends (Nat.le_refl _) running] at found
    cases found
  rw [← found]
  apply attrWalk_agree ends
  rw [found]
  exact Walk.noConfusion

theorem loopEnds_iff_advances (datagram : Datagram) (wanted : BitVec 16) :
    datagram.LoopEnds wanted ↔ datagram.Advances wanted := by
  constructor
  · intro ends index visited other empty
    rcases (datagram.loopEnds_iff_ne_running wanted).mp ends with ⟨iterations, ends⟩
    exact ends (attrWalk_stalls visited other empty iterations)
  · intro advances
    rw [loopEnds_iff_bounded]
    intro running
    rcases attrWalk_stalled (Nat.le_refl _) running with ⟨index, visited, other, empty⟩
    exact advances index visited other empty

end Datagram

/-- The parser hangs exactly on requests whose loop does not end. -/
theorem nlRecvRequest_hangs_iff (locals : Locals) (datagram : Datagram) :
    nlRecvRequest locals datagram = .hangs ↔
      datagram.commands = true ∧ ¬datagram.LoopEnds averyAttrOp := by
  rw [Datagram.loopEnds_iff_bounded, not_not]
  cases commands : datagram.commands with
  | false => simp [nlRecvRequest_of_not_commands locals commands]
  | true =>
      rw [nlRecvRequest_of_commands locals commands]
      change _ ↔ true = true ∧ datagram.walk = .running
      cases datagram.walk with
      | found offset => simp
      | absent => simp
      | running => simp

theorem nlGetFamilyId_hangs_iff (sent : Int) (reply : Datagram) :
    nlGetFamilyId sent reply = .hangs ↔
      0 ≤ sent ∧ 0 ≤ reply.len ∧ ¬reply.LoopEnds ctrlAttrFamilyId := by
  rw [Datagram.loopEnds_iff_bounded, not_not, nlGetFamilyId, ← Int.not_lt, ← Int.not_lt]
  split
  case isTrue failed => simp [failed]
  case isFalse sent =>
      split
      case isTrue failed => simp [failed]
      case isFalse received =>
          cases attrWalk reply.memory ctrlAttrFamilyId reply.attrlen.toNat reply.attrlen
              attrStart with
          | found offset => simp
          | absent => simp
          | running => simp [sent, received]

/-- Both loops end on exactly the messages in which every attribute to be stepped
over has a nonzero `nla_len`. -/
theorem walks_end_iff (datagram : Datagram) :
    (datagram.LoopEnds averyAttrOp ↔ datagram.Advances averyAttrOp) ∧
      (datagram.LoopEnds ctrlAttrFamilyId ↔ datagram.Advances ctrlAttrFamilyId) :=
  ⟨datagram.loopEnds_iff_advances averyAttrOp, datagram.loopEnds_iff_advances ctrlAttrFamilyId⟩

/-- A request of 24 bytes whose only attribute has length and type zero. -/
def zeroAttribute : Datagram where
  len := 24
  memory position := if position = 0 then 24 else if position = 16 then averyCmdRequest else 0

theorem zeroAttribute_stuck {wanted : BitVec 16} (nonzero : wanted ≠ 0) :
    ¬zeroAttribute.LoopEnds wanted := by
  have header : zeroAttribute.memory.view Nlattr.layout attrStart = ⟨0, 0⟩ := by decide
  rw [Datagram.loopEnds_iff_bounded, not_not]
  apply attrWalk_stuck
  · decide
  · rw [header]
    exact nonzero.symm
  · rw [header]
    rfl

/-- Neither loop ever leaves that attribute. -/
theorem zeroAttribute_never_ends :
    ¬zeroAttribute.LoopEnds averyAttrOp ∧ ¬zeroAttribute.LoopEnds ctrlAttrFamilyId ∧
      (∀ locals, nlRecvRequest locals zeroAttribute = .hangs) ∧
      nlGetFamilyId 36 zeroAttribute = .hangs := by
  have opStuck := zeroAttribute_stuck (show averyAttrOp ≠ 0 by decide)
  have idStuck := zeroAttribute_stuck (show ctrlAttrFamilyId ≠ 0 by decide)
  refine ⟨opStuck, idStuck, ?_, ?_⟩
  · intro locals
    exact (nlRecvRequest_hangs_iff locals zeroAttribute).mpr ⟨by decide, opStuck⟩
  · exact (nlGetFamilyId_hangs_iff 36 zeroAttribute).mpr ⟨by decide, by decide, idStuck⟩

end RemoteRootport.Netlink
