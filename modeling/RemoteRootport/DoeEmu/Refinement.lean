import RemoteRootport.DoeEmu.HandlerCorrectness

/-!
# The emulator refines the abstract mailbox

`Represents` relates the static record to an abstract mailbox: the first
`req_len` dwords of the request buffer are the request, the dwords between
`rsp_idx` and `rsp_len` are the response still to be drained, and the status
words agree.  Whatever else the two buffers hold is not mentioned.  Every
register access keeps the relation, returns what the abstract mailbox returns
and cannot fault.
-/

namespace RemoteRootport.DoeEmu

open RemoteRootport.Bytes
open RemoteRootport.Machine

/-- The dwords from `rsp_idx` up to `rsp_len` are exactly the given ones. -/
structure HoldsResponse (doe : Doe) (response : List Dword) : Prop where
  index_nonneg : 0 ≤ doe.rspIdx
  length_le : doe.rspLen ≤ doeBufDwords
  counters : doe.rspIdx = 0 ∧ doe.rspLen = 0 ∨ doe.rspIdx < doe.rspLen
  dwords : (doe.rspBuf.toList.take doe.rspLen.toNat).drop doe.rspIdx.toNat = response

/-- The concrete record stands for an abstract mailbox. -/
structure Represents (doe : Doe) (mailbox : Mailbox) : Prop where
  status : doe.status = mailbox.status.code
  request : HoldsRequest doe mailbox.request
  response : HoldsResponse doe mailbox.response
  lengthWord : mailbox.status = .ready → doe.rspBuf[1] = BitVec.ofInt 32 doe.rspLen

namespace HoldsResponse

variable {doe : Doe} {response : List Dword}

theorem length_eq (holds : HoldsResponse doe response) :
    (response.length : Int) = doe.rspLen - doe.rspIdx := by
  have nonneg := holds.index_nonneg
  have bounded := holds.length_le
  rw [← holds.dwords, List.length_drop, List.length_take, Vector.length_toList]
  rcases holds.counters with ⟨indexZero, lengthZero⟩ | below
  · rw [indexZero, lengthZero]
    decide
  · omega

theorem eq_nil_iff (holds : HoldsResponse doe response) :
    response = [] ↔ doe.rspLen ≤ doe.rspIdx := by
  have length := holds.length_eq
  rw [← List.length_eq_zero_iff]
  omega

theorem pending_iff (holds : HoldsResponse doe response) :
    doe.rspIdx < doe.rspLen ↔ response ≠ [] := by
  rw [Ne, holds.eq_nil_iff, Int.not_le]

/-- The acknowledged dword is the last one. -/
theorem tail_eq_nil_iff (holds : HoldsResponse doe response) :
    response.tail = [] ↔ doe.rspLen ≤ doe.rspIdx + 1 := by
  have length := holds.length_eq
  rw [← List.length_eq_zero_iff, List.length_tail]
  omega

/-- Both counters are zero once the response is drained. -/
theorem counters_of_nil (holds : HoldsResponse doe []) : doe.rspIdx = 0 ∧ doe.rspLen = 0 := by
  have overrun := holds.eq_nil_iff.mp rfl
  rcases holds.counters with zero | below
  · exact zero
  · omega

/-- The dword under the read pointer. -/
theorem load_index (holds : HoldsResponse doe response) (pending : doe.rspIdx < doe.rspLen) :
    doe.rspBuf.load doe.rspIdx = .ok (response.head?.getD 0xFFFFFFFF) := by
  have nonneg := holds.index_nonneg
  have bounded := holds.length_le
  have inBuffer : doe.rspIdx.toNat < doeBufDwords := by omega
  have position : doe.rspIdx = (doe.rspIdx.toNat : Int) := by omega
  have head : response.head? = some doe.rspBuf[doe.rspIdx.toNat] := by
    rw [← holds.dwords, List.head?_drop, List.getElem?_take_of_lt (by omega),
      List.getElem?_eq_getElem (by simpa using inBuffer)]
    simp
  have loaded := doe.rspBuf.load_natCast inBuffer
  rw [← position] at loaded
  rw [head, Option.getD_some, loaded]

/-- Moving the read pointer on, short of the end. -/
theorem advance (holds : HoldsResponse doe response) (pending : doe.rspIdx + 1 < doe.rspLen) :
    HoldsResponse { doe with rspIdx := doe.rspIdx + 1 } response.tail where
  index_nonneg := Int.add_nonneg holds.index_nonneg (by decide)
  length_le := holds.length_le
  counters := Or.inr pending
  dwords := by
    have next : (doe.rspIdx + 1).toNat = doe.rspIdx.toNat + 1 :=
      Int.toNat_add holds.index_nonneg (by decide)
    change (doe.rspBuf.toList.take doe.rspLen.toNat).drop (doe.rspIdx + 1).toNat = _
    rw [next, ← List.tail_drop, holds.dwords]

end HoldsResponse

theorem represents_zero : Represents Doe.zero Mailbox.empty where
  status := rfl
  request := ⟨rfl, by decide, rfl⟩
  response := ⟨by decide, by decide, Or.inl ⟨rfl, rfl⟩, rfl⟩
  lengthWord := by intro impossible; cases impossible

/-! ## Reads -/

theorem regRead_refines {doe : Doe} {mailbox : Mailbox} (represents : Represents doe mailbox)
    (reg : Dword) : regRead doe reg = .ok (mailbox.read reg) := by
  rw [regRead, Mailbox.read]
  by_cases status : reg = doeRegStatus
  · rw [if_pos status, if_pos status, represents.status]
  rw [if_neg status, if_neg status]
  by_cases data : reg = doeRegRead
  · rw [if_pos data, if_pos data]
    by_cases overrun : doe.rspIdx ≥ doe.rspLen
    · have drained := represents.response.eq_nil_iff.mpr overrun
      rw [if_pos overrun, drained]
      rfl
    · rw [if_neg overrun]
      exact represents.response.load_index (by omega)
  · rw [if_neg data, if_neg data]

/-! ## Writes -/

/-- The frame of a mailbox operation: cap base detection is left alone. -/
def SameCap (doe next : Doe) : Prop :=
  next.capBase = doe.capBase ∧ next.capDetected = doe.capDetected

theorem abort_represents (doe : Doe) : Represents doe.abort Mailbox.empty where
  status := rfl
  request := ⟨rfl, by decide, rfl⟩
  response := ⟨Int.le_refl 0, Int.natCast_nonneg _, Or.inl ⟨rfl, rfl⟩, rfl⟩
  lengthWord := by intro impossible; cases impossible

theorem publish_represents (doe : Doe) (response : Response) {rspBuf : Buffer doeBufDwords}
    (stored : rspBuf.toList.take response.dwords.length = response.dwords)
    {mailbox : Mailbox} (status : mailbox.status = .ready) (request : mailbox.request = [])
    (published : mailbox.response = response.dwords) :
    Represents { doe.publish rspBuf response.dwords.length with reqLen := 0 } mailbox where
  status := by rw [status]; rfl
  request := by rw [request]; exact ⟨rfl, by decide, rfl⟩
  response := by
    have fits : response.dwords.length ≤ doeBufDwords := by
      have length := congrArg List.length stored
      rw [List.length_take, Vector.length_toList] at length
      omega
    rw [published]
    refine ⟨Int.le_refl 0, ?_, Or.inr ?_, ?_⟩
    · change (response.dwords.length : Int) ≤ doeBufDwords
      omega
    · change (0 : Int) < response.dwords.length
      rw [Response.length_dwords]
      omega
    · change (rspBuf.toList.take (response.dwords.length : Int).toNat).drop 0 = response.dwords
      rw [Int.toNat_natCast, List.drop_zero, stored]
  lengthWord := by
    intro _
    change rspBuf[1] = BitVec.ofInt 32 response.dwords.length
    have second := congrArg (fun words => words[1]?) stored
    rw [Response.length_dwords] at second ⊢
    simp only [List.getElem?_take_of_lt (show 1 < 2 + response.payload.length by omega)]
      at second
    rw [List.getElem?_eq_getElem (by rw [Vector.length_toList]; decide)] at second
    rw [BitVec.ofInt_natCast]
    simpa [Response.dwords] using second

/-- An answered request publishes its response from the first dword on. -/
theorem go_publishes {table : List Protocol} {doe : Doe} {request : List Dword}
    (holds : HoldsRequest doe request) {response : Response}
    (answered : answer table request = some response) :
    ∃ rspBuf, doe.go table =
        .ok { doe.publish rspBuf response.dwords.length with reqLen := 0 } ∧
      rspBuf.toList.take response.dwords.length = response.dwords := by
  have answers := doeProcess_answers table holds
  rw [answered] at answers
  rcases answers with ⟨rspBuf, processed, stored⟩
  exact ⟨rspBuf, by rw [Doe.go, processed]; rfl, stored⟩

/-- A refused request changes the status and empties the request buffer. -/
theorem go_fails {table : List Protocol} {doe : Doe} {request : List Dword}
    (holds : HoldsRequest doe request) (refused : answer table request = none) :
    doe.go table = .ok { doe.fail with reqLen := 0 } := by
  have answers := doeProcess_answers table holds
  rw [refused] at answers
  rw [Doe.go, answers]
  rfl

theorem go_refines (table : List Protocol) {doe : Doe} {mailbox : Mailbox}
    (represents : Represents doe mailbox) :
    ∃ next, doe.go table = .ok next ∧ Represents next (mailbox.go table) ∧
      SameCap doe next := by
  rw [Mailbox.go]
  cases answered : answer table mailbox.request with
  | some response =>
      rcases go_publishes represents.request answered with ⟨rspBuf, started, stored⟩
      exact ⟨_, started, publish_represents doe response stored rfl rfl rfl, rfl, rfl⟩
  | none =>
      refine ⟨_, go_fails represents.request answered, ?_, rfl, rfl⟩
      exact
        { status := rfl
          request := ⟨rfl, Nat.zero_le _, rfl⟩
          response := ⟨represents.response.index_nonneg, represents.response.length_le,
            represents.response.counters, represents.response.dwords⟩
          lengthWord := by intro impossible; cases impossible }

theorem control_refines (table : List Protocol) {doe : Doe} {mailbox : Mailbox}
    (represents : Represents doe mailbox) (val : Dword) :
    ∃ next, regWrite table doe doeRegCtrl val = .ok next ∧
      Represents next (mailbox.control table val) ∧ SameCap doe next := by
  rw [regWrite, if_pos rfl, Mailbox.control]
  by_cases abort : hasAbort val
  · rw [if_pos abort, if_pos abort]
    by_cases go : hasGo val
    · rw [if_pos go, if_pos go]
      exact go_refines table (abort_represents doe)
    · rw [if_neg go, if_neg go]
      exact ⟨_, rfl, abort_represents doe, rfl, rfl⟩
  · rw [if_neg abort, if_neg abort]
    by_cases go : hasGo val
    · rw [if_pos go, if_pos go]
      exact go_refines table represents
    · rw [if_neg go, if_neg go]
      exact ⟨_, rfl, represents, rfl, rfl⟩

theorem push_refines (table : List Protocol) {doe : Doe} {mailbox : Mailbox}
    (represents : Represents doe mailbox) (val : Dword) :
    ∃ next, regWrite table doe doeRegWrite val = .ok next ∧
      Represents next (mailbox.push val) ∧ SameCap doe next := by
  have length := represents.request.length
  rw [regWrite, if_neg (by decide), if_pos rfl, Mailbox.push]
  by_cases room : mailbox.request.length < doeBufDwords
  · have guard : doe.reqLen < doeBufDwords := by omega
    rw [dif_pos room, if_pos guard, length, doe.reqBuf.store_natCast room,
      intSucc_of_lt (by rw [doeBufDwords] at room; omega)]
    refine ⟨_, rfl, ?_, rfl, rfl⟩
    exact
      { status := represents.status
        request := by
          refine ⟨?_, ?_, ?_⟩
          · simp
          · rw [List.length_append, List.length_singleton]
            exact room
          · rw [Vector.toList_set, List.length_append, List.length_singleton,
              List.take_add_one, List.getElem?_set_self (by rwa [Vector.length_toList]),
              List.take_set_of_le (Nat.le_refl _), represents.request.dwords]
            rfl
        response := ⟨represents.response.index_nonneg, represents.response.length_le,
          represents.response.counters, represents.response.dwords⟩
        lengthWord := represents.lengthWord }
  · have full : ¬doe.reqLen < doeBufDwords := by omega
    rw [dif_neg room, if_neg full]
    exact ⟨_, rfl, represents, rfl, rfl⟩

theorem ack_refines (table : List Protocol) {doe : Doe} {mailbox : Mailbox}
    (represents : Represents doe mailbox) :
    ∃ next, regWrite table doe doeRegRead 0 = .ok next ∧
      Represents next mailbox.ack ∧ SameCap doe next := by
  have small : doe.rspIdx < 2147483647 := by
    have bounded := represents.response.length_le
    have counters := represents.response.counters
    rw [doeBufDwords] at bounded
    omega
  rw [regWrite, if_neg (by decide), if_neg (by decide), if_pos rfl, if_pos rfl,
    intSucc_of_lt small, Mailbox.ack]
  simp only [bind, Except.bind]
  by_cases last : mailbox.response.tail = []
  · have consumed := represents.response.tail_eq_nil_iff.mp last
    rw [dif_pos last, if_pos consumed]
    refine ⟨_, rfl, ?_, rfl, rfl⟩
    exact
      { status := rfl
        request := ⟨represents.request.length, represents.request.fits,
          represents.request.dwords⟩
        response := ⟨Int.le_refl 0, Int.natCast_nonneg _, Or.inl ⟨rfl, rfl⟩, rfl⟩
        lengthWord := by intro impossible; cases impossible }
  · have pending := mt represents.response.tail_eq_nil_iff.mpr last
    rw [dif_neg last, if_neg pending]
    refine ⟨_, rfl, ?_, rfl, rfl⟩
    exact
      { status := represents.status
        request := ⟨represents.request.length, represents.request.fits,
          represents.request.dwords⟩
        response := represents.response.advance (Int.not_le.mp pending)
        lengthWord := represents.lengthWord }

theorem regWrite_refines (table : List Protocol) {doe : Doe} {mailbox : Mailbox}
    (represents : Represents doe mailbox) (reg val : Dword) :
    ∃ next, regWrite table doe reg val = .ok next ∧
      Represents next (mailbox.write table reg val) ∧ SameCap doe next := by
  rw [Mailbox.write]
  by_cases ctrl : reg = doeRegCtrl
  · rw [if_pos ctrl, ctrl]
    exact control_refines table represents val
  rw [if_neg ctrl]
  by_cases push : reg = doeRegWrite
  · rw [if_pos push, push]
    exact push_refines table represents val
  rw [if_neg push]
  by_cases data : reg = doeRegRead
  · rw [if_pos data, data]
    by_cases zero : val = 0
    · rw [if_pos zero, zero]
      exact ack_refines table represents
    · rw [if_neg zero, regWrite, if_neg (by decide), if_neg (by decide), if_pos rfl,
        if_neg zero]
      exact ⟨_, rfl, represents, rfl, rfl⟩
  · rw [if_neg data, regWrite, if_neg ctrl, if_neg push, if_neg data]
    exact ⟨_, rfl, represents, rfl, rfl⟩

/-! ## Whole access sequences -/

theorem mailbox_refines (table : List Protocol) :
    (mailbox table).Refines (Mailbox.step table) Represents := by
  intro doe abstract input represents
  cases input with
  | read reg =>
      refine ⟨doe, ?_, represents⟩
      change (regRead doe reg >>= fun val => Except.ok (doe, some val)) = _
      rw [regRead_refines represents reg]
      rfl
  | write reg val =>
      rcases regWrite_refines table represents reg val with ⟨next, written, nextRep, _⟩
      refine ⟨next, ?_, nextRep⟩
      change (regWrite table doe reg val >>= fun doe => Except.ok (doe, none)) = _
      rw [written]
      rfl

/-- Every reachable record stands for some abstract mailbox. -/
theorem Reachable.represents {table : List Protocol} {doe : Doe}
    (reached : Reachable table doe) : ∃ mailbox, Represents doe mailbox :=
  (mailbox_refines table).related_of_reachable represents_zero reached

end RemoteRootport.DoeEmu
