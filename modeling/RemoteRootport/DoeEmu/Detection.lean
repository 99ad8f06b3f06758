import Mathlib.Data.List.Forall2
import RemoteRootport.DoeEmu.Run

/-!
# Detection of the capability base

The emulator is not told where its registers are; it takes the first read for a
read of the status register.  Against a reference machine that is given the base
and owns a mailbox of its own, the replies are the same record for record, so
only addresses relative to the base matter.
-/

namespace RemoteRootport.DoeEmu

open RemoteRootport.Bytes
open RemoteRootport.Machine
open RemoteRootport.Wire

variable (table : List Protocol)

/-! ## The reference machine -/

/-- Perform the access of a transaction on a mailbox at a known base. -/
def referenceServe (base : Dword) (doe : Doe) (req : Transaction) :
    Except Fault (Option Doe × Transaction) := do
  let (doe, output) ← access table doe (accessOf base req)
  .ok (some doe, replyWith req output)

/-- The machine that knows the base.  Until the first read there is no mailbox
and every write is acknowledged without effect. -/
def reference (base : Dword) : Transducer (Option Doe) Transaction Transaction Fault where
  step
    | none, req =>
        if req.r0w1 = 0 then referenceServe table base Doe.zero req
        else .ok (none, replyWith req none)
    | some doe, req => referenceServe table base doe req

/-- A plain read or write that does not end the loop. -/
structure Plain (req : Transaction) : Prop where
  running : quits req = false
  kind : req.r0w1 = 0 ∨ req.r0w1 = 1

/-- The first read of the stream is at the status register of the base. -/
def FirstReadAt (base : Dword) (stream : List Transaction) : Prop :=
  ∀ req, stream.find? (fun req => req.r0w1 == 0) = some req →
    offsetOf req = base + doeRegStatus

/-! ## Simulation -/

/-- The loop and the reference machine stand for the same mailbox, and the loop
has found the base exactly when the reference machine has started. -/
inductive Agrees (base : Dword) : Doe → Option Doe → Prop where
  | waiting {doe : Doe} (represents : Represents doe Mailbox.empty)
      (undetected : doe.capDetected = false) : Agrees base doe none
  | serving {doe twin : Doe} {mailbox : Mailbox} (represents : Represents doe mailbox)
      (twinRepresents : Represents twin mailbox) (detected : doe.capDetected = true)
      (located : doe.capBase = base) : Agrees base doe (some twin)

variable {base : Dword}

/-- Both machines perform the same access once the base is known. -/
theorem access_agrees {doe twin : Doe} {mailbox : Mailbox} (represents : Represents doe mailbox)
    (twinRepresents : Represents twin mailbox) (detected : doe.capDetected = true)
    (located : doe.capBase = base) (req : Transaction) :
    ∃ next state rsp, accessStep table doe req = .ok (next, rsp) ∧
      referenceServe table base twin req = .ok (some state, rsp) ∧
      Agrees base next (some state) ∧ Echoes req rsp := by
  rcases accessStep_refines table represents req with ⟨next, accessed, nextRep, sameCap⟩
  rcases mailbox_refines table twin mailbox (accessOf doe.capBase req) twinRepresents with
    ⟨state, twinAccessed, stateRep⟩
  have served : access table twin (accessOf base req) =
      .ok (state, (mailbox.step table (accessOf doe.capBase req)).2) := by
    rw [← located]
    exact twinAccessed
  refine ⟨next, state, _, accessed, ?_, ?_, replyWith_echoes req _⟩
  · rw [referenceServe, served]
    rfl
  · exact .serving nextRep stateRep (sameCap.2.trans detected) (sameCap.1.trans located)

/-- One transaction: equal replies, and the machines still agree. -/
theorem runStep_agrees {doe : Doe} {state : Option Doe} (agrees : Agrees base doe state)
    {req : Transaction} (plain : Plain req)
    (anchored : state = none → req.r0w1 = 0 → offsetOf req = base + doeRegStatus) :
    ∃ next after rsp, runStep table doe req = .ok (some (next, rsp)) ∧
      (reference table base).step state req = .ok (after, rsp) ∧
      Agrees base next after ∧ Echoes req rsp ∧
      (after = none → state = none ∧ req.r0w1 ≠ 0) := by
  cases agrees with
  | waiting represents undetected =>
      by_cases read : req.r0w1 = 0
      · -- the first read: the base it detects is the given one
        have write : ¬(doe.capDetected = false ∧ req.r0w1 = 1) := by
          rw [read]
          intro impossible
          cases impossible.2
        have detected : doe.locate (offsetOf req) = doe.detect (offsetOf req) := by
          rw [Doe.locate, undetected]
          rfl
        have located : (doe.detect (offsetOf req)).capBase = base := by
          change offsetOf req - doeRegStatus = base
          rw [anchored rfl read, BitVec.add_sub_cancel]
        have prepared := represents.locate (offsetOf req)
        rw [detected] at prepared
        rcases access_agrees table prepared represents_zero rfl located req with
          ⟨next, twin, rsp, accessed, served, agree, echoes⟩
        rw [← detected] at accessed
        refine ⟨next, some twin, rsp, runStep_access table plain.running write accessed,
          ?_, agree, echoes, ?_⟩
        · exact (if_pos read).trans served
        · intro impossible
          cases impossible
      · have write : req.r0w1 = 1 := plain.kind.resolve_left read
        exact ⟨doe, none, skipReply req, runStep_skip table plain.running undetected write,
          if_neg read, .waiting represents undetected, replyWith_echoes req none,
          fun _ => ⟨rfl, read⟩⟩
  | serving represents twinRepresents detected located =>
      have known : ¬(doe.capDetected = false ∧ req.r0w1 = 1) := by
        rw [detected]
        intro impossible
        cases impossible.1
      have same : doe.locate (offsetOf req) = doe := by
        rw [Doe.locate, detected]
        rfl
      rcases access_agrees table represents twinRepresents detected located req with
        ⟨next, twin, rsp, accessed, served, agree, echoes⟩
      rw [← same] at accessed
      refine ⟨next, some twin, rsp, runStep_access table plain.running known accessed,
        served, agree, echoes, ?_⟩
      intro impossible
      cases impossible

theorem FirstReadAt.head {req : Transaction} {rest : List Transaction}
    (first : FirstReadAt base (req :: rest)) (read : req.r0w1 = 0) :
    offsetOf req = base + doeRegStatus := by
  apply first
  rw [List.find?_cons_of_pos (by rw [read]; rfl)]

theorem FirstReadAt.tail {req : Transaction} {rest : List Transaction}
    (first : FirstReadAt base (req :: rest)) (write : req.r0w1 ≠ 0) :
    FirstReadAt base rest := by
  intro other found
  apply first
  rw [List.find?_cons_of_neg (by rw [beq_iff_eq]; exact write), found]

theorem FirstReadAt.of_prefix {before stream : List Transaction}
    (first : FirstReadAt base stream) (within : before <+: stream) :
    FirstReadAt base before := by
  rcases within with ⟨after, rfl⟩
  intro req found
  apply first
  rw [List.find?_append, found]
  rfl

/-- A whole stream: equal replies, one for each request.  The base is still
unknown afterwards only if nothing was read. -/
theorem run_agrees {doe : Doe} {state : Option Doe} (agrees : Agrees base doe state)
    {stream : List Transaction} (plain : ∀ req ∈ stream, Plain req)
    (anchored : state = none → FirstReadAt base stream) :
    ∃ final after replies, run table doe stream = .ok (final, replies) ∧
      (reference table base).run state stream = .ok (after, replies) ∧
      Agrees base final after ∧ List.Forall₂ Echoes stream replies ∧
      (after = none → state = none ∧ ∀ req ∈ stream, req.r0w1 ≠ 0) := by
  induction stream generalizing doe state with
  | nil =>
      exact ⟨doe, state, [], rfl, rfl, agrees, .nil,
        fun waiting => ⟨waiting, fun _ membership => by cases membership⟩⟩
  | cons req rest ih =>
      have plainRest : ∀ other ∈ rest, Plain other := by
        intro other membership
        exact plain other (List.mem_cons_of_mem _ membership)
      rcases runStep_agrees table agrees (plain req List.mem_cons_self)
          (fun waiting read => (anchored waiting).head read) with
        ⟨next, middle, rsp, stepped, referenceStepped, nextAgrees, echoes, unread⟩
      have later : middle = none → FirstReadAt base rest := by
        intro waiting
        exact (anchored (unread waiting).1).tail (unread waiting).2
      rcases ih nextAgrees plainRest later with
        ⟨final, after, replies, continued, referenceContinued, finalAgrees, echoed, unreadRest⟩
      refine ⟨final, after, rsp :: replies, run_cons table stepped continued, ?_, finalAgrees,
        .cons echoes echoed, ?_⟩
      · exact Transducer.run_cons_iff.mpr
          ⟨middle, rsp, replies, referenceStepped, referenceContinued, rfl⟩
      · intro waiting
        rcases unreadRest waiting with ⟨middleWaiting, writes⟩
        rcases unread middleWaiting with ⟨started, write⟩
        exact ⟨started, List.forall_mem_cons.mpr ⟨write, writes⟩⟩

theorem agrees_zero (base : Dword) : Agrees base Doe.zero none :=
  .waiting represents_zero rfl

/-! ## Shifted streams -/

/-- The same transaction at a shifted address, modulo `2 ^ 32`. -/
def shiftAddress (shift : Dword) (req : Transaction) : Transaction :=
  { req with physicalAddress := (offsetOf req + shift).setWidth 64 }

theorem offsetOf_shiftAddress (shift : Dword) (req : Transaction) :
    offsetOf (shiftAddress shift req) = offsetOf req + shift :=
  BitVec.setWidth_setWidth_of_le _ (by decide)

theorem accessOf_shiftAddress (shift : Dword) (req : Transaction) :
    accessOf (base + shift) (shiftAddress shift req) = accessOf base req := by
  have register : offsetOf req + shift - (base + shift) = offsetOf req - base := by
    bv_omega
  rw [accessOf, offsetOf_shiftAddress, register]
  rfl

/-- Shifting base and addresses together changes nothing for the reference. -/
theorem reference_shift (shift : Dword) (stream : List Transaction) (state : Option Doe) :
    (reference table (base + shift)).run state (stream.map (shiftAddress shift)) =
      (reference table base).run state stream := by
  have served (doe : Doe) (req : Transaction) :
      referenceServe table (base + shift) doe (shiftAddress shift req) =
        referenceServe table base doe req := by
    rw [referenceServe, accessOf_shiftAddress]
    rfl
  have stepped (state : Option Doe) (req : Transaction) :
      (reference table (base + shift)).step state (shiftAddress shift req) =
        (reference table base).step state req := by
    cases state with
    | none =>
        change (if req.r0w1 = 0 then _ else _) = _
        rw [served]
        rfl
    | some doe => exact served doe req
  induction stream generalizing state with
  | nil => rfl
  | cons req rest ih =>
      rw [List.map_cons, Transducer.run, stepped, Transducer.run]
      simp only [ih]

theorem FirstReadAt.shift {stream : List Transaction} (first : FirstReadAt base stream)
    (shift : Dword) : FirstReadAt (base + shift) (stream.map (shiftAddress shift)) := by
  intro req found
  rw [List.find?_map, Option.map_eq_some_iff] at found
  rcases found with ⟨original, foundOriginal, rfl⟩
  rw [offsetOf_shiftAddress, first original foundOriginal, BitVec.add_assoc, BitVec.add_assoc,
    BitVec.add_comm doeRegStatus shift]

/-! ## Position independence -/

/-- The replies of the loop are record for record those of the reference machine
at the base its first read points to, whatever 32-bit base that is; each request
has exactly one reply, which repeats its packet fields; once detected the base
stays; and shifting all addresses leaves every reply as it is. -/
theorem run_position_independent (base : Dword) (stream : List Transaction)
    (plain : ∀ req ∈ stream, Plain req) (first : FirstReadAt base stream) :
    (∃ doe state replies, run table Doe.zero stream = .ok (doe, replies) ∧
      (reference table base).run none stream = .ok (state, replies) ∧
      List.Forall₂ Echoes stream replies) ∧
    (∀ before, before <+: stream → (∃ req ∈ before, req.r0w1 = 0) →
      ∃ doe replies, run table Doe.zero before = .ok (doe, replies) ∧
        doe.capDetected = true ∧ doe.capBase = base) ∧
    (∀ shift, ∃ doe shifted replies, run table Doe.zero stream = .ok (doe, replies) ∧
      run table Doe.zero (stream.map (shiftAddress shift)) = .ok (shifted, replies)) := by
  rcases run_agrees table (agrees_zero base) plain (fun _ => first) with
    ⟨doe, state, replies, ran, referenceRan, _, echoed, _⟩
  refine ⟨⟨doe, state, replies, ran, referenceRan, echoed⟩, ?_, ?_⟩
  · intro before within ⟨req, membership, read⟩
    have plainBefore : ∀ other ∈ before, Plain other :=
      fun other inBefore => plain other (within.subset inBefore)
    rcases run_agrees table (agrees_zero base) plainBefore
        (fun _ => first.of_prefix within) with
      ⟨early, after, earlyReplies, earlyRan, _, agrees, _, unread⟩
    cases agrees with
    | waiting => exact absurd read ((unread rfl).2 req membership)
    | serving _ _ detected located => exact ⟨early, earlyReplies, earlyRan, detected, located⟩
  · intro shift
    have plainShifted : ∀ req ∈ stream.map (shiftAddress shift), Plain req := by
      intro req membership
      rcases List.mem_map.mp membership with ⟨original, inStream, rfl⟩
      exact ⟨(plain original inStream).running, (plain original inStream).kind⟩
    rcases run_agrees table (agrees_zero (base + shift)) plainShifted
        (fun _ => first.shift shift) with
      ⟨shifted, _, shiftedReplies, shiftedRan, shiftedReference, _, _, _⟩
    rw [reference_shift, referenceRan] at shiftedReference
    cases shiftedReference
    exact ⟨doe, shifted, replies, ran, shiftedRan⟩

/-- An abort before the first status read at `0x19c`, as the kernel sends it. -/
def bootStream : List Transaction :=
  [ { Transaction.zero with physicalAddress := 0x198, r0w1 := 1 },
    { Transaction.zero with physicalAddress := 0x19c } ]

theorem bootStream_detected :
    ∃ doe replies, run protocols Doe.zero bootStream = .ok (doe, replies) ∧
      doe.capDetected = true ∧ doe.capBase = 0x190 := by
  have plain : ∀ req ∈ bootStream, Plain req :=
    List.forall_mem_cons.mpr ⟨⟨rfl, Or.inr rfl⟩,
      List.forall_mem_cons.mpr ⟨⟨rfl, Or.inl rfl⟩, List.forall_mem_nil _⟩⟩
  have first : FirstReadAt 0x190 bootStream := by
    intro req found
    cases found
    rfl
  exact (run_position_independent protocols 0x190 bootStream plain first).2.1 bootStream
    List.prefix_rfl ⟨_, List.mem_cons_of_mem _ List.mem_cons_self, rfl⟩

end RemoteRootport.DoeEmu
