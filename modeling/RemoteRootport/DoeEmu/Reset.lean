import RemoteRootport.DoeEmu.Exchange

/-!
# What an abort hides

An abort resets three counters and the status and leaves both buffers as they
are.  Two records that agree on these stand for the same abstract mailbox, so no
later access can tell them apart: the old dwords are never read back before they
are overwritten.
-/

namespace RemoteRootport.DoeEmu

open RemoteRootport.Bytes
open RemoteRootport.Machine

variable (table : List Protocol)

/-- No later access sequence tells two records apart. -/
def Indistinguishable (left right : Doe) : Prop :=
  ∀ accesses : List Access, ∃ leftFinal rightFinal outputs,
    (mailbox table).run left accesses = .ok (leftFinal, outputs) ∧
    (mailbox table).run right accesses = .ok (rightFinal, outputs)

/-- Nothing written and nothing pending. -/
def Doe.Drained (doe : Doe) : Prop :=
  doe.reqLen = 0 ∧ doe.rspIdx = 0 ∧ doe.rspLen = 0

/-- Such a record stands for a mailbox with nothing but a status. -/
theorem Represents.drained {doe : Doe} {mailbox : Mailbox} (represents : Represents doe mailbox)
    (drained : doe.Drained) : mailbox.request = [] ∧ mailbox.response = [] := by
  constructor
  · exact represents.request.eq_nil drained.1
  · apply represents.response.eq_nil_iff.mpr
    rw [drained.2.1, drained.2.2]

theorem represents_unique {left right : Doe} {leftBox rightBox : Mailbox}
    (leftRep : Represents left leftBox) (rightRep : Represents right rightBox)
    (status : left.status = right.status) (leftDrained : left.Drained)
    (rightDrained : right.Drained) : leftBox = rightBox := by
  have leftEmpty := leftRep.drained leftDrained
  have rightEmpty := rightRep.drained rightDrained
  apply Mailbox.ext
  · apply Status.code_injective
    rw [← leftRep.status, ← rightRep.status, status]
  · rw [leftEmpty.1, rightEmpty.1]
  · rw [leftEmpty.2, rightEmpty.2]

/-- A fully acknowledged response leaves nothing but an idle mailbox. -/
theorem acknowledged_empty {mailbox : Mailbox} (accesses : List Access)
    (quiet : ∀ access ∈ accesses, access.isControl = false ∧ access.isPush = false)
    (unwritten : mailbox.request = []) (pending : mailbox.response ≠ [])
    (acked : mailbox.response.length ≤ accesses.countP Access.isAck) :
    mailbox.after table accesses = Mailbox.empty := by
  have draining : Draining mailbox.status mailbox.response 0 mailbox := by
    constructor
    · rfl
    · rw [if_pos (List.length_pos_iff.mpr pending)]
  have drained := draining.after table accesses fun access membership =>
    (quiet access membership).1
  rw [Nat.zero_add] at drained
  exact drained.finished acked (Mailbox.request_unchanged table accesses mailbox quiet unwritten)

/-- An abort really resets the mailbox.  Records with equal status and nothing
written or pending are indistinguishable whatever their buffers hold; so is every
record after an abort from a freshly initialised one, and every record in which a
response has been fully acknowledged with no request dword written meanwhile. -/
theorem abort_resets :
    (∀ left right, Reachable table left → Reachable table right →
      left.status = right.status → left.Drained → right.Drained →
      Indistinguishable table left right) ∧
    (∀ doe val, Reachable table doe → hasAbort val = true → hasGo val = false →
      ∃ next, regWrite table doe doeRegCtrl val = .ok next ∧
        Indistinguishable table next Doe.zero) ∧
    (∀ (doe : Doe) (accesses : List Access), Reachable table doe →
      doe.reqLen = 0 → doe.rspIdx < doe.rspLen →
      (∀ access ∈ accesses, access.isControl = false ∧ access.isPush = false) →
      doe.rspLen - doe.rspIdx ≤ accesses.countP Access.isAck →
      ∃ later outputs, (mailbox table).run doe accesses = .ok (later, outputs) ∧
        Indistinguishable table later Doe.zero) := by
  refine ⟨?_, ?_, ?_⟩
  · intro left right leftReached rightReached status leftDrained rightDrained
    rcases leftReached.represents with ⟨leftBox, leftRep⟩
    rcases rightReached.represents with ⟨rightBox, rightRep⟩
    have same := represents_unique leftRep rightRep status leftDrained rightDrained
    exact (mailbox_refines table).indistinguishable leftRep (same ▸ rightRep)
  · intro doe val _ abort unstarted
    have aborted : regWrite table doe doeRegCtrl val = .ok doe.abort := by
      rw [regWrite, if_pos rfl, abort, unstarted]
      rfl
    exact ⟨doe.abort, aborted,
      (mailbox_refines table).indistinguishable (abort_represents doe) represents_zero⟩
  · intro doe accesses reached unwritten pending quiet acked
    rcases reached.represents with ⟨abstract, represents⟩
    rcases (mailbox_refines table).run represents accesses with ⟨later, ran, laterRep⟩
    have length := represents.response.length_eq
    have emptied : abstract.after table accesses = Mailbox.empty := by
      apply acknowledged_empty table accesses quiet (represents.request.eq_nil unwritten)
      · intro nothing
        rw [nothing, List.length_nil] at length
        omega
      · omega
    have laterEmpty : Represents later Mailbox.empty := emptied ▸ laterRep
    exact ⟨later, _, ran,
      (mailbox_refines table).indistinguishable laterEmpty represents_zero⟩

/-- An abort over a pending discovery response. -/
theorem abort_resets_discovery :
    ∃ doe next, Reachable protocols doe ∧ doe.status = doeStatusDataObjectReady ∧
      regWrite protocols doe doeRegCtrl doeCtrlAbort = .ok next ∧
      Indistinguishable protocols next Doe.zero := by
  rcases run_represents protocols (discoveryAccesses ++ [.write doeRegCtrl doeCtrlGo]) with
    ⟨doe, outputs, ran, represents⟩
  have reached : Reachable protocols doe := ⟨_, outputs, ran⟩
  rcases (abort_resets protocols).2.1 doe doeCtrlAbort reached rfl rfl with
    ⟨next, aborted, same⟩
  exact ⟨doe, next, reached, represents.status, aborted, same⟩

end RemoteRootport.DoeEmu
