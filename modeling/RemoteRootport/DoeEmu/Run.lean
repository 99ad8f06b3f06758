import RemoteRootport.DoeEmu.Refinement
import RemoteRootport.Wire.Records

/-!
# The transaction loop

`run` reads one transaction after the other, finds the base of the DOE
capability from the first read, performs the register access and replies.  The
stream is arbitrary: the loop never faults on it, every state it passes through
is well formed, and its replies are those of a reference machine that knows the
base from the start.
-/

namespace RemoteRootport.DoeEmu

open RemoteRootport.Bytes
open RemoteRootport.Machine
open RemoteRootport.Wire

/-! ## One iteration -/

/-- `QUIT_SIM_MASK`. -/
def quitSimMask : Dword := 0x1

/-- Does a transaction end the loop? -/
def quits (req : Transaction) : Bool :=
  req.controlStatus &&& quitSimMask != 0

/-- `(uint32_t)req.physical_address`. -/
def offsetOf (req : Transaction) : Dword :=
  req.physicalAddress.setWidth 32

/-- The reply to a write that comes before the base is known. -/
def skipReply (req : Transaction) : Transaction :=
  { Transaction.zero with
    packetNumber := req.packetNumber
    packetType := req.packetType
    simType := req.simType
    dataSize := 4
    r0w1 := req.r0w1 }

/-- The reply as it is filled in before the register access. -/
def accessReply (req : Transaction) : Transaction :=
  { Transaction.zero with
    packetNumber := req.packetNumber
    packetType := req.packetType
    simType := req.simType
    dataSize := 4
    r0w1 := req.r0w1
    cmpStatus := 0 }

/-- `doe.cap_base = offset - DOE_REG_STATUS; doe.cap_detected = 1;` -/
def Doe.detect (doe : Doe) (offset : Dword) : Doe :=
  { doe with capBase := offset - doeRegStatus, capDetected := true }

/-- Detect the base unless it is known already. -/
def Doe.locate (doe : Doe) (offset : Dword) : Doe :=
  if doe.capDetected then doe else doe.detect offset

/-- The register access of a transaction and its reply.  Every value of `r0w1`
other than zero is a write here. -/
def accessStep (table : List Protocol) (doe : Doe) (req : Transaction) :
    Except Fault (Doe × Transaction) :=
  let reg := offsetOf req - doe.capBase
  if req.r0w1 = 0 then do
    let val ← regRead doe reg
    .ok (doe, (accessReply req).setFirstDword val)
  else do
    let doe ← regWrite table doe reg req.firstDword
    .ok (doe, accessReply req)

/-- One iteration of `run` on the transaction it has read; `none` leaves the
loop. -/
def runStep (table : List Protocol) (doe : Doe) (req : Transaction) :
    Except Fault (Option (Doe × Transaction)) :=
  if quits req then
    .ok none
  else if doe.capDetected = false ∧ req.r0w1 = 1 then
    .ok (some (doe, skipReply req))
  else do
    let result ← accessStep table (doe.locate (offsetOf req)) req
    .ok (some result)

/-- The loop over a stream of transactions, with the replies it writes. -/
def run (table : List Protocol) : Doe → List Transaction →
    Except Fault (Doe × List Transaction)
  | doe, [] => .ok (doe, [])
  | doe, req :: rest => do
      match ← runStep table doe req with
      | none => .ok (doe, [])
      | some (next, rsp) =>
          let (final, replies) ← run table next rest
          .ok (final, rsp :: replies)

variable (table : List Protocol)

theorem runStep_quit {doe : Doe} {req : Transaction} (quit : quits req = true) :
    runStep table doe req = .ok none :=
  if_pos quit

theorem runStep_skip {doe : Doe} {req : Transaction} (running : quits req = false)
    (undetected : doe.capDetected = false) (write : req.r0w1 = 1) :
    runStep table doe req = .ok (some (doe, skipReply req)) := by
  rw [runStep, running, if_neg Bool.false_ne_true, if_pos ⟨undetected, write⟩]

theorem runStep_access {doe next : Doe} {req rsp : Transaction} (running : quits req = false)
    (served : ¬(doe.capDetected = false ∧ req.r0w1 = 1))
    (accessed : accessStep table (doe.locate (offsetOf req)) req = .ok (next, rsp)) :
    runStep table doe req = .ok (some (next, rsp)) := by
  rw [runStep, running, if_neg Bool.false_ne_true, if_neg served, accessed]
  rfl

variable {table} in
/-- How an iteration that goes on came about. -/
theorem runStep_cases {doe next : Doe} {req rsp : Transaction}
    (stepped : runStep table doe req = .ok (some (next, rsp))) :
    (quits req = false ∧ doe.capDetected = false ∧ req.r0w1 = 1 ∧
      doe = next ∧ skipReply req = rsp) ∨
    (quits req = false ∧ ¬(doe.capDetected = false ∧ req.r0w1 = 1) ∧
      accessStep table (doe.locate (offsetOf req)) req = .ok (next, rsp)) := by
  rw [runStep] at stepped
  cases quit : quits req with
  | true =>
      rw [quit] at stepped
      cases stepped
  | false =>
      rw [quit, if_neg Bool.false_ne_true] at stepped
      by_cases skipped : doe.capDetected = false ∧ req.r0w1 = 1
      · rw [if_pos skipped] at stepped
        cases stepped
        exact Or.inl ⟨rfl, skipped.1, skipped.2, rfl, rfl⟩
      · rw [if_neg skipped] at stepped
        right
        refine ⟨rfl, skipped, ?_⟩
        cases accessed : accessStep table (doe.locate (offsetOf req)) req with
        | error fault =>
            rw [accessed] at stepped
            cases stepped
        | ok result =>
            rw [accessed] at stepped
            cases stepped
            rfl

theorem run_quit {doe : Doe} {req : Transaction} (rest : List Transaction)
    (stepped : runStep table doe req = .ok none) :
    run table doe (req :: rest) = .ok (doe, []) := by
  rw [run, stepped]
  rfl

theorem run_cons {doe next final : Doe} {req rsp : Transaction} {rest replies : List Transaction}
    (stepped : runStep table doe req = .ok (some (next, rsp)))
    (continued : run table next rest = .ok (final, replies)) :
    run table doe (req :: rest) = .ok (final, rsp :: replies) := by
  rw [run, stepped]
  change (run table next rest >>= fun result => Except.ok (result.1, rsp :: result.2)) = _
  rw [continued]
  rfl

variable {table} in
theorem run_cons_cases {doe final : Doe} {req : Transaction} {rest replies : List Transaction}
    (ran : run table doe (req :: rest) = .ok (final, replies)) :
    (runStep table doe req = .ok none ∧ doe = final ∧ replies = []) ∨
    ∃ next rsp later, runStep table doe req = .ok (some (next, rsp)) ∧
      run table next rest = .ok (final, later) ∧ replies = rsp :: later := by
  rw [run] at ran
  cases stepped : runStep table doe req with
  | error fault =>
      rw [stepped] at ran
      cases ran
  | ok outcome =>
      rw [stepped] at ran
      cases outcome with
      | none =>
          cases ran
          exact Or.inl ⟨rfl, rfl, rfl⟩
      | some result =>
          right
          change (run table result.1 rest >>= fun last =>
            Except.ok (last.1, result.2 :: last.2)) = _ at ran
          cases continued : run table result.1 rest with
          | error fault =>
              rw [continued] at ran
              cases ran
          | ok last =>
              rw [continued] at ran
              cases ran
              exact ⟨result.1, result.2, last.2, rfl, continued, rfl⟩

/-- A stream that was answered in full can be continued. -/
theorem run_snoc {doe middle next : Doe} {stream replies : List Transaction}
    {req rsp : Transaction} (ran : run table doe stream = .ok (middle, replies))
    (answered : replies.length = stream.length)
    (stepped : runStep table middle req = .ok (some (next, rsp))) :
    run table doe (stream ++ [req]) = .ok (next, replies ++ [rsp]) := by
  induction stream generalizing doe replies with
  | nil =>
      cases ran
      exact run_cons table stepped rfl
  | cons first rest ih =>
      rcases run_cons_cases ran with ⟨_, _, rfl⟩ | ⟨after, reply, later, began, continued, rfl⟩
      · cases answered
      · exact run_cons table began (ih continued (Nat.succ.inj answered))

/-! ## Replies -/

/-- The reply that carries the value an access produced. -/
def replyWith (req : Transaction) : Option Dword → Transaction
  | none => accessReply req
  | some val => (accessReply req).setFirstDword val

/-- The fields of a request that its reply repeats. -/
structure Echoes (req rsp : Transaction) : Prop where
  packetNumber : rsp.packetNumber = req.packetNumber
  packetType : rsp.packetType = req.packetType
  simType : rsp.simType = req.simType
  r0w1 : rsp.r0w1 = req.r0w1

theorem replyWith_echoes (req : Transaction) (output : Option Dword) :
    Echoes req (replyWith req output) := by
  cases output with
  | none => exact ⟨rfl, rfl, rfl, rfl⟩
  | some val => exact ⟨rfl, rfl, rfl, rfl⟩

/-- Both reply paths of the loop fill in the same record. -/
theorem skipReply_eq (req : Transaction) : skipReply req = replyWith req none := rfl

variable {table} in
/-- Every reply is that of an access, and a write produces no value. -/
theorem runStep_reply {doe next : Doe} {req rsp : Transaction}
    (stepped : runStep table doe req = .ok (some (next, rsp))) :
    ∃ output, rsp = replyWith req output ∧ (req.r0w1 ≠ 0 → output = none) := by
  rcases runStep_cases stepped with ⟨_, _, _, _, rfl⟩ | ⟨_, _, accessed⟩
  · exact ⟨none, skipReply_eq req, fun _ => rfl⟩
  rw [accessStep] at accessed
  by_cases read : req.r0w1 = 0
  · rw [if_pos read] at accessed
    cases value : regRead (doe.locate (offsetOf req))
        (offsetOf req - (doe.locate (offsetOf req)).capBase) with
    | error fault =>
        rw [value] at accessed
        cases accessed
    | ok val =>
        rw [value] at accessed
        cases accessed
        exact ⟨some val, rfl, fun write => absurd read write⟩
  · rw [if_neg read] at accessed
    cases written : regWrite table (doe.locate (offsetOf req))
        (offsetOf req - (doe.locate (offsetOf req)).capBase) req.firstDword with
    | error fault =>
        rw [written] at accessed
        cases accessed
    | ok after =>
        rw [written] at accessed
        cases accessed
        exact ⟨none, rfl, fun _ => rfl⟩

/-! ## The loop keeps the representation -/

theorem Represents.locate {doe : Doe} {mailbox : Mailbox} (represents : Represents doe mailbox)
    (offset : Dword) : Represents (doe.locate offset) mailbox := by
  rw [Doe.locate]
  cases doe.capDetected with
  | true => exact represents
  | false =>
      exact
        { status := represents.status
          request := ⟨represents.request.length, represents.request.fits,
            represents.request.dwords⟩
          response := ⟨represents.response.index_nonneg, represents.response.length_le,
            represents.response.counters, represents.response.dwords⟩
          lengthWord := represents.lengthWord }

/-- The access a transaction asks for, relative to a base. -/
def accessOf (base : Dword) (req : Transaction) : Access :=
  if req.r0w1 = 0 then .read (offsetOf req - base)
  else .write (offsetOf req - base) req.firstDword

/-- An iteration performs the access of the abstract mailbox. -/
theorem accessStep_refines {doe : Doe} {mailbox : Mailbox} (represents : Represents doe mailbox)
    (req : Transaction) :
    ∃ next, accessStep table doe req =
        .ok (next, replyWith req (mailbox.step table (accessOf doe.capBase req)).2) ∧
      Represents next (mailbox.step table (accessOf doe.capBase req)).1 ∧ SameCap doe next := by
  rw [accessStep, accessOf]
  by_cases read : req.r0w1 = 0
  · rw [if_pos read, if_pos read, regRead_refines represents]
    exact ⟨doe, rfl, represents, rfl, rfl⟩
  · rw [if_neg read, if_neg read]
    rcases regWrite_refines table represents (offsetOf req - doe.capBase) req.firstDword with
      ⟨next, written, nextRep, sameCap⟩
    rw [written]
    exact ⟨next, rfl, nextRep, sameCap⟩

/-- Whatever the transaction, an iteration does not fault and leaves a record
that stands for some mailbox. -/
theorem runStep_represents {doe : Doe} {mailbox : Mailbox} (represents : Represents doe mailbox)
    (req : Transaction) :
    quits req = true ∧ runStep table doe req = .ok none ∨
      ∃ next rsp after, runStep table doe req = .ok (some (next, rsp)) ∧
        Represents next after := by
  cases quit : quits req with
  | true => exact Or.inl ⟨rfl, runStep_quit table quit⟩
  | false =>
      right
      by_cases skipped : doe.capDetected = false ∧ req.r0w1 = 1
      · exact ⟨doe, skipReply req, mailbox,
          runStep_skip table quit skipped.1 skipped.2, represents⟩
      · rcases accessStep_refines table (represents.locate (offsetOf req)) req with
          ⟨next, accessed, nextRep, _⟩
        exact ⟨next, _, _, runStep_access table quit skipped accessed, nextRep⟩

theorem run_represents_stream {doe : Doe} {mailbox : Mailbox}
    (represents : Represents doe mailbox) (stream : List Transaction) :
    ∃ final replies after, run table doe stream = .ok (final, replies) ∧
      Represents final after := by
  induction stream generalizing doe mailbox with
  | nil => exact ⟨doe, [], mailbox, rfl, represents⟩
  | cons req rest ih =>
      rcases runStep_represents table represents req with
        ⟨_, quit⟩ | ⟨next, rsp, after, stepped, nextRep⟩
      · exact ⟨doe, [], mailbox, run_quit table rest quit, represents⟩
      · rcases ih nextRep with ⟨final, replies, last, continued, finalRep⟩
        exact ⟨final, rsp :: replies, last, run_cons table stepped continued, finalRep⟩

/-! ## Well-formed records -/

/-- The joint invariant of counters, status and length dword. -/
structure Doe.WellFormed (doe : Doe) : Prop where
  request_nonneg : 0 ≤ doe.reqLen
  request_le : doe.reqLen ≤ doeBufDwords
  response_nonneg : 0 ≤ doe.rspLen
  response_le : doe.rspLen ≤ doeBufDwords
  counters : doe.rspIdx = 0 ∧ doe.rspLen = 0 ∨ 0 ≤ doe.rspIdx ∧ doe.rspIdx < doe.rspLen
  status : doe.status = 0 ∨ doe.status = doeStatusError ∨ doe.status = doeStatusDataObjectReady
  pending : doe.status = doeStatusDataObjectReady → doe.rspIdx < doe.rspLen
  lengthWord : doe.status = doeStatusDataObjectReady → (doe.rspBuf[1].toNat : Int) = doe.rspLen

theorem Represents.wellFormed {doe : Doe} {mailbox : Mailbox}
    (represents : Represents doe mailbox) : doe.WellFormed := by
  have length := represents.request.length
  have fits := represents.request.fits
  have nonneg := represents.response.index_nonneg
  have bounded := represents.response.length_le
  have counters := represents.response.counters
  have ready (status : doe.status = doeStatusDataObjectReady) : mailbox.status = .ready := by
    rw [represents.status] at status
    exact Status.code_injective status
  constructor
  · omega
  · omega
  · omega
  · exact bounded
  · omega
  · rw [represents.status]
    cases mailbox.status with
    | idle => exact Or.inl rfl
    | error => exact Or.inr (Or.inl rfl)
    | ready => exact Or.inr (Or.inr rfl)
  · intro status
    exact represents.response.pending_iff.mpr (mailbox.ready_pending (ready status))
  · intro status
    rw [represents.lengthWord (ready status), BitVec.toNat_ofInt]
    rw [doeBufDwords] at bounded
    omega

/-- Every state a stream of transactions leads to is well formed, and on the way
no index leaves its buffer or table and no counter overflows: the run has no
fault. -/
theorem run_wellFormed (stream : List Transaction) :
    ∃ doe replies, run table Doe.zero stream = .ok (doe, replies) ∧ doe.WellFormed := by
  rcases run_represents_stream table represents_zero stream with
    ⟨doe, replies, mailbox, ran, represents⟩
  exact ⟨doe, replies, ran, represents.wellFormed⟩

end RemoteRootport.DoeEmu
