import RemoteRootport.DoeEmu.Reset
import RemoteRootport.DoeEmu.StatusRegister
import RemoteRootport.Machine.Observation

/-!
# What a host can learn about the mailbox

Two mailboxes may hold different requests and still behave alike for ever: of a
request only its first dword's type and its third dword's answer matter, and of one
whose first dword is not served nothing at all.  With the status and the dwords not
yet acknowledged this is everything a host can ever find out, by whatever sequence
of register accesses.
-/

namespace RemoteRootport.DoeEmu

open RemoteRootport.Bytes
open RemoteRootport.Machine
open RemoteRootport.Machine.Transducer

variable (table : List Protocol)

/-! ## The essence of a request -/

/-- What matters of a request under construction. -/
inductive Essence where
  | empty
  | refused
  | headed (type : Byte)
  | sized (type : Byte)
  | complete (dwords : List Dword)
  deriving DecidableEq, Repr

/-- The essence of the dwords written so far. -/
def essence : List Dword → Essence
  | [] => .empty
  | first :: rest =>
      if Served (headerVid first) (headerType first) then
        match rest with
        | [] => .headed (headerType first)
        | [_] => .sized (headerType first)
        | _ :: third :: _ => .complete (respond table (headerType first) third).dwords
      else
        .refused

namespace Essence

/-- The essence after another dword. -/
def push (word : Dword) : Essence → Essence
  | .empty =>
      if Served (headerVid word) (headerType word) then .headed (headerType word) else .refused
  | .refused => .refused
  | .headed type => .sized type
  | .sized type => .complete (respond table type word).dwords
  | .complete dwords => .complete dwords

/-- The response a start would publish, `none` standing for an error. -/
def answer : Essence → Option (List Dword)
  | .complete dwords => some dwords
  | _ => none

end Essence

theorem essence_refused {first : Dword} (rest : List Dword)
    (other : ¬Served (headerVid first) (headerType first)) :
    essence table (first :: rest) = .refused :=
  if_neg other

theorem essence_served {first : Dword} (rest : List Dword)
    (served : Served (headerVid first) (headerType first)) :
    essence table (first :: rest) =
      match rest with
      | [] => .headed (headerType first)
      | [_] => .sized (headerType first)
      | _ :: third :: _ => .complete (respond table (headerType first) third).dwords :=
  if_pos served

theorem answer_essence (request : List Dword) :
    (essence table request).answer = (answer table request).map Response.dwords := by
  match request with
  | [] => rfl
  | first :: rest =>
      by_cases served : Served (headerVid first) (headerType first)
      · match rest with
        | [] | [_] =>
            rw [essence_served table _ served]
            rfl
        | _ :: third :: _ =>
            rw [essence_served table _ served, answer_of_served table served]
            rfl
      · have none : answer table (first :: rest) = none := by
          rw [answer_eq_none_iff]
          exact Or.inr (Or.inl ⟨first, rest, rfl, served⟩)
        rw [essence_refused table rest served, none]
        rfl

/-- Writing a dword changes the essence in a way that depends on it alone. -/
theorem essence_push (mailbox : Mailbox) (word : Dword) :
    essence table (mailbox.push word).request =
      (essence table mailbox.request).push table word := by
  rw [Mailbox.request_push mailbox word (List.take_of_length_le mailbox.fits).symm]
  match mailbox.request with
  | [] => rfl
  | first :: rest =>
      have kept : (first :: rest ++ [word]).take doeBufDwords =
          first :: (rest ++ [word]).take (doeBufDwords - 1) := rfl
      by_cases served : Served (headerVid first) (headerType first)
      · match rest with
        | [] | [_] | _ :: _ :: _ =>
            rw [kept, essence_served table _ served, essence_served table _ served]
            rfl
      · rw [kept, essence_refused table _ served, essence_refused table _ served]
        rfl

/-! ## Mailboxes with the same essence behave alike -/

/-- Same status, same dwords to be acknowledged, same essence of the request. -/
structure SameEssence (left right : Mailbox) : Prop where
  status : left.status = right.status
  response : left.response = right.response
  request : essence table left.request = essence table right.request

namespace Mailbox

/-- A start publishes the answer or leaves the response alone. -/
theorem go_outcome (mailbox : Mailbox) :
    (mailbox.go table).request = [] ∧
      match (essence table mailbox.request).answer with
      | some dwords => (mailbox.go table).status = .ready ∧ (mailbox.go table).response = dwords
      | none => (mailbox.go table).status = .error ∧
          (mailbox.go table).response = mailbox.response := by
  rw [answer_essence, go]
  cases answer table mailbox.request with
  | none => exact ⟨rfl, rfl, rfl⟩
  | some response => exact ⟨rfl, rfl, rfl⟩

end Mailbox

namespace SameEssence

variable {table} {left right : Mailbox}

theorem refl (mailbox : Mailbox) : SameEssence table mailbox mailbox :=
  ⟨rfl, rfl, rfl⟩

theorem read (same : SameEssence table left right) (reg : Dword) :
    left.read reg = right.read reg := by
  rw [Mailbox.read, Mailbox.read, same.status, same.response]

theorem push (same : SameEssence table left right) (word : Dword) :
    SameEssence table (left.push word) (right.push word) := by
  rcases left.push_keeps word with ⟨leftStatus, leftResponse⟩
  rcases right.push_keeps word with ⟨rightStatus, rightResponse⟩
  constructor
  · rw [leftStatus, rightStatus, same.status]
  · rw [leftResponse, rightResponse, same.response]
  · rw [essence_push, essence_push, same.request]

theorem ack (same : SameEssence table left right) : SameEssence table left.ack right.ack := by
  have request (mailbox : Mailbox) : mailbox.ack.request = mailbox.request :=
    Mailbox.request_ack mailbox
  constructor
  · rw [left.ack_moves.1, right.ack_moves.1, same.status, same.response]
  · rw [left.ack_moves.2, right.ack_moves.2, same.response]
  · rw [request, request, same.request]

theorem go (same : SameEssence table left right) :
    SameEssence table (left.go table) (right.go table) := by
  rcases left.go_outcome table with ⟨leftRequest, leftOutcome⟩
  rcases right.go_outcome table with ⟨rightRequest, rightOutcome⟩
  rw [← same.request] at rightOutcome
  have request : essence table (left.go table).request = essence table (right.go table).request := by
    rw [leftRequest, rightRequest]
  cases answered : (essence table left.request).answer with
  | none =>
      rw [answered] at leftOutcome rightOutcome
      refine ⟨leftOutcome.1.trans rightOutcome.1.symm, ?_, request⟩
      rw [leftOutcome.2, rightOutcome.2, same.response]
  | some dwords =>
      rw [answered] at leftOutcome rightOutcome
      exact ⟨leftOutcome.1.trans rightOutcome.1.symm, leftOutcome.2.trans rightOutcome.2.symm,
        request⟩

theorem control (same : SameEssence table left right) (val : Dword) :
    SameEssence table (left.control table val) (right.control table val) := by
  rw [Mailbox.control, Mailbox.control]
  cases hasAbort val with
  | true => exact refl _
  | false =>
      cases hasGo val with
      | true => exact same.go
      | false => exact same

theorem write (same : SameEssence table left right) (reg val : Dword) :
    SameEssence table (left.write table reg val) (right.write table reg val) := by
  rw [Mailbox.write, Mailbox.write]
  split
  case isTrue => exact same.control val
  case isFalse =>
      split
      case isTrue => exact same.push val
      case isFalse =>
          split
          case isTrue =>
              split
              case isTrue => exact same.ack
              case isFalse => exact same
          case isFalse => exact same

theorem alike (same : SameEssence table left right) : Alike (Mailbox.step table) left right := by
  apply alike_of_bisimulation (SameEssence table) _ same
  intro left right same access
  cases access with
  | read reg => exact ⟨congrArg some (same.read reg), same⟩
  | write reg val => exact ⟨rfl, same.write reg val⟩

end SameEssence

/-! ## Response dwords -/

/-- What a read of the read mailbox returns when there is nothing to read. -/
def overrun : Dword := 0xFFFFFFFF

/-- No response dword looks like an overrun. -/
def Mailbox.Clean (mailbox : Mailbox) : Prop :=
  ∀ dword ∈ mailbox.response, dword ≠ overrun

theorem wordOf_ne_overrun {b₀ b₁ b₂ b₃ : Byte} (gap : b₂ ≠ 0xff) :
    wordOf 32 [b₀, b₁, b₂, b₃] ≠ overrun := by
  intro same
  have bytes := congrArg (wordBytes 4) same
  have round : wordBytes 4 (wordOf 32 [b₀, b₁, b₂, b₃]) = _ :=
    wordBytes_wordOf 32 [b₀, b₁, b₂, b₃] rfl
  have expected : wordBytes 4 overrun = [0xff, 0xff, 0xff, 0xff] := by decide
  rw [round, expected] at bytes
  cases bytes
  exact gap rfl

theorem header_ne_overrun (vid : BitVec 16) (type : Byte) : header vid type ≠ overrun := by
  intro same
  have bit := congrArg (fun word => word.getLsbD 31) same
  simp [header, overrun] at bit

/-- The third byte of every dword is not all ones. -/
def Gaps : List Byte → Prop
  | _ :: _ :: b₂ :: _ :: rest => b₂ ≠ 0xff ∧ Gaps rest
  | _ => True

theorem clean_packWords {bytes : List Byte} (gaps : Gaps bytes) :
    ∀ dword ∈ packWords bytes, dword ≠ overrun := by
  induction bytes using packWords.induct with
  | case1 b₀ b₁ b₂ b₃ rest ih =>
      intro dword member
      rcases List.mem_cons.mp member with rfl | later
      · exact wordOf_ne_overrun gaps.1
      · exact ih gaps.2 dword later
  | case2 bytes short =>
      intro dword member
      rw [packWords] at member
      · cases member
      · exact short

theorem gaps_spdmBytes (ver code : Byte) : Gaps (spdmBytes ver code) := by
  rw [spdmBytes]
  split
  case isTrue => simp [Gaps, versionBytes]
  case isFalse =>
      split
      case isTrue => simp [Gaps, capsBytes]
      case isFalse =>
          split
          case isTrue => simp [Gaps, algosBytes, spdmMeasDmtf, List.replicate]
          case isFalse => simp [Gaps, errorBytes, spdmErrUnsup]

theorem length_spdmPayload (ver code : Byte) : (packWords (spdmBytes ver code)).length ≤ 9 := by
  rw [spdmBytes]
  split
  case isTrue => decide
  case isFalse =>
      split
      case isTrue => exact Nat.le_of_ble_eq_true rfl
      case isFalse =>
          split
          case isTrue => exact Nat.le_of_ble_eq_true rfl
          case isFalse => decide

theorem nextIndex_ne_overrun (third : Dword) : nextIndex table (third &&& 0xFF) ≠ overrun := by
  have small : (third &&& 0xFF).toNat ≤ 255 := by
    rw [BitVec.toNat_and]
    exact Nat.and_le_right
  rw [nextIndex, overrun]
  split
  case isTrue => bv_omega
  case isFalse => decide

theorem clean_discoveryPayload (third : Dword) :
    ∀ dword ∈ discoveryPayload table (third &&& 0xFF), dword ≠ overrun := by
  intro dword member
  rw [discoveryPayload] at member
  cases row : rowAt table (third &&& 0xFF) with
  | none =>
      rw [row] at member
      rcases List.mem_cons.mp member with rfl | later
      · decide
      · rw [List.mem_singleton.mp later]
        decide
  | some protocol =>
      rw [row] at member
      rcases List.mem_cons.mp member with rfl | later
      · exact header_ne_overrun _ _
      · rw [List.mem_singleton.mp later]
        exact nextIndex_ne_overrun table third

/-- A payload of the length and kind that occurs makes a response without an
overrun. -/
theorem Response.clean_dwords {response : Response} (short : response.payload.length ≤ 9)
    (payload : ∀ dword ∈ response.payload, dword ≠ overrun) :
    ∀ dword ∈ response.dwords, dword ≠ overrun := by
  intro dword member
  rcases List.mem_cons.mp member with rfl | rest
  · exact header_ne_overrun _ _
  rcases List.mem_cons.mp rest with rfl | rest
  · intro same
    have value := congrArg BitVec.toNat same
    have all : overrun.toNat = 4294967295 := rfl
    rw [BitVec.toNat_ofNat, all] at value
    omega
  · exact payload dword rest

theorem clean_respond (type : Byte) (third : Dword) :
    ∀ dword ∈ (respond table type third).dwords, dword ≠ overrun := by
  rw [respond]
  split
  case isTrue =>
      apply Response.clean_dwords
      · change (discoveryPayload table _).length ≤ 9
        rw [discoveryPayload]
        cases rowAt table (third &&& 0xFF) with
        | none => exact Nat.le_of_ble_eq_true rfl
        | some row => exact Nat.le_of_ble_eq_true rfl
      · exact clean_discoveryPayload table third
  case isFalse =>
      exact Response.clean_dwords (length_spdmPayload _ _) (clean_packWords (gaps_spdmBytes _ _))

namespace Mailbox

variable {table} {mailbox : Mailbox}

theorem Clean.go (clean : mailbox.Clean) : (mailbox.go table).Clean := by
  rw [Mailbox.go]
  cases answered : answer table mailbox.request with
  | none => exact clean
  | some response =>
      rcases answer_eq_some answered with ⟨first, second, third, rest, _, _, rfl⟩
      exact clean_respond table _ third

theorem Clean.ack (clean : mailbox.Clean) : mailbox.ack.Clean := by
  intro dword member
  rw [mailbox.ack_moves.2] at member
  exact clean dword (List.mem_of_mem_tail member)

theorem Clean.push (clean : mailbox.Clean) (word : Dword) : (mailbox.push word).Clean := by
  intro dword member
  rw [(mailbox.push_keeps word).2] at member
  exact clean dword member

theorem clean_empty : Mailbox.empty.Clean := by
  intro dword member
  cases member

theorem Clean.control (clean : mailbox.Clean) (val : Dword) :
    (mailbox.control table val).Clean := by
  rw [Mailbox.control]
  cases hasAbort val with
  | true =>
      cases hasGo val with
      | true =>
          change (Mailbox.empty.go table).Clean
          exact clean_empty.go
      | false => exact clean_empty
  | false =>
      cases hasGo val with
      | true => exact clean.go
      | false => exact clean

theorem Clean.step (clean : mailbox.Clean) (access : Access) :
    (mailbox.step table access).1.Clean := by
  rcases mailbox.step_cases table access with
    ⟨val, _, _, stepped⟩ | ⟨val, _, stepped⟩ | ⟨_, stepped⟩ | ⟨_, _, _, stepped⟩
  · rw [stepped]
    exact clean.control val
  · rw [stepped]
    exact clean.push val
  · rw [stepped]
    exact clean.ack
  · rw [stepped]
    exact clean

/-- No access sequence leads to a response dword that looks like an overrun. -/
theorem Clean.after (clean : mailbox.Clean) (accesses : List Access) :
    (mailbox.after table accesses).Clean := by
  induction accesses generalizing mailbox with
  | nil => exact clean
  | cons access rest ih => exact ih (clean.step access)

end Mailbox

/-! ## Mailboxes that behave alike have the same essence -/

section Probing

variable {table} {left right : Mailbox}

theorem read_eq_of_alike (alike : Alike (Mailbox.step table) left right) (reg : Dword) :
    left.read reg = right.read reg :=
  Option.some.inj (alike.output (.read reg))

theorem status_eq_of_alike (alike : Alike (Mailbox.step table) left right) :
    left.status = right.status :=
  Status.code_injective (read_eq_of_alike alike doeRegStatus)

/-- Reading and acknowledging shows one response dword after the other. -/
theorem response_eq_of_alike (alike : Alike (Mailbox.step table) left right)
    (leftClean : left.Clean) (rightClean : right.Clean) : left.response = right.response := by
  generalize dwords : left.response = response
  induction response generalizing left right with
  | nil =>
      have head := read_eq_of_alike alike doeRegRead
      change left.response.head?.getD overrun = right.response.head?.getD overrun at head
      cases others : right.response with
      | nil => rfl
      | cons other rest =>
          rw [dwords, others] at head
          exact absurd head.symm (rightClean other (others ▸ List.mem_cons_self))
  | cons dword rest ih =>
      have head := read_eq_of_alike alike doeRegRead
      change left.response.head?.getD overrun = right.response.head?.getD overrun at head
      have acked : Alike (Mailbox.step table) left.ack right.ack := alike.step (.write doeRegRead 0)
      cases others : right.response with
      | nil =>
          rw [dwords, others] at head
          exact absurd head (leftClean dword (dwords ▸ List.mem_cons_self))
      | cons other rest =>
          rw [dwords, others] at head
          have tails := ih acked leftClean.ack rightClean.ack (by rw [left.ack_moves.2, dwords]; rfl)
          rw [right.ack_moves.2, others] at tails
          exact congrArg₂ List.cons head tails

/-- A start shows what the request would be answered with. -/
theorem answer_eq_of_alike (alike : Alike (Mailbox.step table) left right)
    (leftClean : left.Clean) (rightClean : right.Clean) :
    (essence table left.request).answer = (essence table right.request).answer := by
  have started : Alike (Mailbox.step table) (left.go table) (right.go table) :=
    alike.step (.write doeRegCtrl doeCtrlGo)
  have status := status_eq_of_alike started
  have response := response_eq_of_alike started leftClean.go rightClean.go
  have leftOutcome := (left.go_outcome table).2
  have rightOutcome := (right.go_outcome table).2
  cases leftAnswer : (essence table left.request).answer with
  | none =>
      cases rightAnswer : (essence table right.request).answer with
      | none => rfl
      | some dwords =>
          rw [leftAnswer] at leftOutcome
          rw [rightAnswer] at rightOutcome
          rw [leftOutcome.1, rightOutcome.1] at status
          cases status
  | some dwords =>
      rw [leftAnswer] at leftOutcome
      cases rightAnswer : (essence table right.request).answer with
      | none =>
          rw [rightAnswer] at rightOutcome
          rw [leftOutcome.1, rightOutcome.1] at status
          cases status
      | some others =>
          rw [rightAnswer] at rightOutcome
          rw [leftOutcome.2, rightOutcome.2] at response
          rw [response]

variable (table) in
/-- What a start answers after some more dwords. -/
def Essence.probe (essence : Essence) (words : List Dword) : Option (List Dword) :=
  (words.foldl (fun essence word => essence.push table word) essence).answer

theorem probe_eq_of_alike (alike : Alike (Mailbox.step table) left right)
    (leftClean : left.Clean) (rightClean : right.Clean) (words : List Dword) :
    (essence table left.request).probe table words =
      (essence table right.request).probe table words := by
  induction words generalizing left right with
  | nil => exact answer_eq_of_alike alike leftClean rightClean
  | cons word rest ih =>
      have pushed : Alike (Mailbox.step table) (left.push word) (right.push word) :=
        alike.step (.write doeRegWrite word)
      have later := ih pushed (leftClean.push word) (rightClean.push word)
      rw [essence_push, essence_push] at later
      exact later

/-- Four probes tell every essence from every other. -/
def Essence.recover (probe : List Dword → Option (List Dword)) : Essence :=
  match probe [] with
  | some dwords => .complete dwords
  | none =>
      match probe [0] with
      | some dwords => .sized (headerType (dwords.headD 0))
      | none =>
          match probe [0, 0] with
          | some dwords => .headed (headerType (dwords.headD 0))
          | none =>
              match probe [header doeVidPcisig doeTypeDisc, 0, 0] with
              | some _ => .empty
              | none => .refused

variable (table) in
theorem Essence.recover_probe (essence : Essence) : recover (essence.probe table) = essence := by
  have type (type : Byte) : headerType ((respond table type 0).dwords.headD 0) = type := by
    change headerType (header doeVidPcisig (respond table type 0).type) = type
    rw [headerType_header, respond_type]
  cases essence with
  | empty => rfl
  | refused => rfl
  | headed own => exact congrArg Essence.headed (type own)
  | sized own => exact congrArg Essence.sized (type own)
  | complete dwords => rfl

theorem sameEssence_of_alike (alike : Alike (Mailbox.step table) left right)
    (leftClean : left.Clean) (rightClean : right.Clean) : SameEssence table left right := by
  have probes : (essence table left.request).probe table = (essence table right.request).probe table :=
    funext (probe_eq_of_alike alike leftClean rightClean)
  refine ⟨status_eq_of_alike alike, response_eq_of_alike alike leftClean rightClean, ?_⟩
  rw [← Essence.recover_probe table (essence table left.request), probes, Essence.recover_probe]

end Probing

/-! ## The emulator -/

/-- The request dwords in the static record. -/
def Doe.written (doe : Doe) : List Dword :=
  doe.reqBuf.toList.take doe.reqLen.toNat

/-- The response dwords in the static record that have not been acknowledged. -/
def Doe.pending (doe : Doe) : List Dword :=
  (doe.rspBuf.toList.take doe.rspLen.toNat).drop doe.rspIdx.toNat

namespace Represents

variable {doe : Doe} {mailbox : Mailbox}

theorem written_eq (represents : Represents doe mailbox) : doe.written = mailbox.request := by
  rw [Doe.written, represents.request.length, Int.toNat_natCast, represents.request.dwords]

theorem pending_eq (represents : Represents doe mailbox) : doe.pending = mailbox.response :=
  represents.response.dwords

end Represents

variable {table}

/-- A reachable record stands for a mailbox with no misleading response dword. -/
theorem Reachable.represents_clean {doe : Doe} (reached : Reachable table doe) :
    ∃ mailbox, Represents doe mailbox ∧ mailbox.Clean := by
  rcases reached with ⟨accesses, outputs, ran⟩
  rcases run_represents table accesses with ⟨other, _, again, represents⟩
  rw [ran] at again
  cases again
  exact ⟨_, represents, Mailbox.clean_empty.after accesses⟩

/-- Two reachable records are never told apart by any sequence of register accesses
exactly if they agree on the status, on the response dwords not yet acknowledged and
on the essence of the request. -/
theorem indistinguishable_iff {left right : Doe} (leftReached : Reachable table left)
    (rightReached : Reachable table right) :
    Indistinguishable table left right ↔
      left.status = right.status ∧ left.pending = right.pending ∧
        essence table left.written = essence table right.written := by
  rcases leftReached.represents_clean with ⟨leftBox, leftRep, leftClean⟩
  rcases rightReached.represents_clean with ⟨rightBox, rightRep, rightClean⟩
  have alike : Indistinguishable table left right ↔ Alike (Mailbox.step table) leftBox rightBox :=
    (mailbox_refines table).alike_iff leftRep rightRep
  rw [alike, leftRep.status, rightRep.status, leftRep.pending_eq, rightRep.pending_eq,
    leftRep.written_eq, rightRep.written_eq]
  constructor
  · intro same
    have essences := sameEssence_of_alike same leftClean rightClean
    exact ⟨congrArg Status.code essences.status, essences.response, essences.request⟩
  · intro ⟨status, response, request⟩
    have same : SameEssence table leftBox rightBox :=
      ⟨Status.code_injective status, response, request⟩
    exact same.alike

/-- Two first dwords of vendors that are not served are never told apart, whatever
follows them. -/
theorem indistinguishable_foreign :
    ∃ left right, Reachable protocols left ∧ Reachable protocols right ∧
      left.written ≠ right.written ∧ Indistinguishable protocols left right := by
  rcases run_represents protocols [.write doeRegWrite 2] with ⟨left, leftOutputs, leftRan, leftRep⟩
  rcases run_represents protocols [.write doeRegWrite 3, .write doeRegWrite 0] with
    ⟨right, rightOutputs, rightRan, rightRep⟩
  have leftReached : Reachable protocols left := ⟨_, leftOutputs, leftRan⟩
  have rightReached : Reachable protocols right := ⟨_, rightOutputs, rightRan⟩
  refine ⟨left, right, leftReached, rightReached, ?_, ?_⟩
  · rw [leftRep.written_eq, rightRep.written_eq]
    decide
  · apply (indistinguishable_iff leftReached rightReached).mpr
    rw [leftRep.status, rightRep.status, leftRep.pending_eq, rightRep.pending_eq,
      leftRep.written_eq, rightRep.written_eq]
    decide

end RemoteRootport.DoeEmu
