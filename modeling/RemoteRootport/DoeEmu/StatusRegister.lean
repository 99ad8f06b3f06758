import Mathlib.Data.List.Induction
import RemoteRootport.DoeEmu.Exchange

/-!
# The status register against the read mailbox

A response dword is available exactly when `rsp_idx < rsp_len`; the status
register is meant to say so.  The success paths, the abort and the last
acknowledgement move status and counters together, but a refused request sets the
status alone, so a response that was only partly drained stays readable behind an
error.  The two sides agree along a run exactly when no step of it is a refused
start over a pending response.

An error itself is meant to stay until the host aborts or starts another request.
The acknowledgement that runs past the end of the response clears it all the same.
-/

namespace RemoteRootport.DoeEmu

open RemoteRootport.Bytes
open RemoteRootport.Machine

variable (table : List Protocol)

/-- The status is ready exactly when a response dword can be read. -/
def Doe.Truthful (doe : Doe) : Prop :=
  doe.rspIdx < doe.rspLen ↔ doe.status = doeStatusDataObjectReady

/-- The written dwords form a request that is answered. -/
def Doe.Answerable (doe : Doe) : Prop :=
  3 ≤ doe.reqLen ∧ Served (headerVid doe.reqBuf[0]) (headerType doe.reqBuf[0])

/-- The access does not start an unanswerable request over a pending response. -/
def SafeStart (doe : Doe) (access : Access) : Prop :=
  ∀ val, access = .write doeRegCtrl val → hasGo val = true → hasAbort val = false →
    doe.rspIdx < doe.rspLen → doe.Answerable

namespace Mailbox

/-- No response dword is left behind an error. -/
def Truthful (mailbox : Mailbox) : Prop :=
  mailbox.status = .error → mailbox.response = []

def SafeStart (mailbox : Mailbox) (access : Access) : Prop :=
  ∀ val, access = .write doeRegCtrl val → hasGo val = true → hasAbort val = false →
    mailbox.response ≠ [] → answer table mailbox.request ≠ none

theorem truthful_empty : empty.Truthful :=
  fun _ => rfl

theorem truthful_go (mailbox : Mailbox) :
    (mailbox.go table).Truthful ↔
      (mailbox.response ≠ [] → answer table mailbox.request ≠ none) := by
  rw [go]
  cases answered : answer table mailbox.request with
  | some response =>
      constructor
      · intro _ _ impossible
        cases impossible
      · intro _ impossible
        cases impossible
  | none =>
      constructor
      · intro truthful pending
        exact absurd (truthful rfl) pending
      · intro safe _
        by_contra pending
        exact safe pending rfl

theorem truthful_ack {mailbox : Mailbox} (truthful : mailbox.Truthful) :
    mailbox.ack.Truthful := by
  rw [ack]
  by_cases last : mailbox.response.tail = []
  · rw [dif_pos last]
    exact fun _ => rfl
  · rw [dif_neg last]
    intro error
    rw [truthful error] at last
    exact absurd rfl last

/-- One step keeps the agreement exactly when it is a safe start. -/
theorem truthful_step {mailbox : Mailbox} (truthful : mailbox.Truthful) (access : Access) :
    (mailbox.step table access).1.Truthful ↔ mailbox.SafeStart table access := by
  rcases mailbox.step_cases table access with
    ⟨val, rfl, bits, stepped⟩ | ⟨val, rfl, stepped⟩ | ⟨rfl, stepped⟩ | ⟨quiet, _, _, stepped⟩
  · rw [stepped, control]
    cases abort : hasAbort val with
    | true =>
        have started : (if hasGo val then empty.go table else empty).Truthful := by
          cases hasGo val with
          | true => exact (truthful_go table empty).mpr fun pending => absurd rfl pending
          | false => exact truthful_empty
        constructor
        · intro _ val' same _ unaborted
          cases same
          rw [abort] at unaborted
          cases unaborted
        · exact fun _ => started
    | false =>
        rw [abort, Bool.or_false] at bits
        rw [if_neg Bool.false_ne_true, if_pos bits, truthful_go]
        constructor
        · intro safe val' same _ _
          exact safe
        · intro safe
          exact safe val rfl bits abort
  · have pushed : (mailbox.push val).Truthful := by
      rw [push]
      by_cases room : mailbox.request.length < doeBufDwords
      · rw [dif_pos room]
        exact truthful
      · rw [dif_neg room]
        exact truthful
    rw [stepped]
    exact iff_of_true pushed fun val' same => by cases same
  · rw [stepped]
    exact iff_of_true (truthful_ack truthful) fun val' same => by cases same
  · rw [stepped]
    apply iff_of_true truthful
    intro val same go
    rw [same, Access.isControl, go] at quiet
    cases quiet

end Mailbox

variable {table}

theorem Represents.truthful_iff {doe : Doe} {mailbox : Mailbox}
    (represents : Represents doe mailbox) : doe.Truthful ↔ mailbox.Truthful := by
  have ready : doe.status = doeStatusDataObjectReady ↔ mailbox.status = .ready := by
    rw [represents.status]
    exact ⟨fun same => Status.code_injective same, fun same => by rw [same]; rfl⟩
  rw [Doe.Truthful, represents.response.pending_iff, ready]
  constructor
  · intro agree error
    by_contra left
    rw [agree.mp left] at error
    cases error
  · intro truthful
    constructor
    · intro left
      cases status : mailbox.status with
      | idle => exact absurd (mailbox.idle_drained status) left
      | error => exact absurd (truthful status) left
      | ready => rfl
    · exact mailbox.ready_pending

theorem Represents.answerable_iff {doe : Doe} {mailbox : Mailbox}
    (represents : Represents doe mailbox) :
    doe.Answerable ↔ answer table mailbox.request ≠ none := by
  have length := represents.request.length
  rw [Doe.Answerable]
  match request : mailbox.request with
  | [] | [_] | [_, _] =>
      rw [request] at length
      simp only [List.length_cons, List.length_nil] at length
      constructor
      · intro answerable
        omega
      · intro answered
        exact absurd rfl answered
  | first :: second :: third :: rest =>
      have firstWord : doe.reqBuf[0] = first := (request ▸ represents.request).first
      rw [request] at length
      simp only [List.length_cons] at length
      rw [firstWord]
      by_cases served : Served (headerVid first) (headerType first)
      · rw [answer_of_served table served]
        exact iff_of_true ⟨by omega, served⟩ (by simp)
      · have refused : answer table (first :: second :: third :: rest) = none := if_neg served
        exact iff_of_false (fun both => served both.2) (fun answered => answered refused)

theorem Represents.safeStart_iff {doe : Doe} {mailbox : Mailbox}
    (represents : Represents doe mailbox) (access : Access) :
    SafeStart doe access ↔ mailbox.SafeStart table access := by
  rw [SafeStart, Mailbox.SafeStart, represents.response.pending_iff, represents.answerable_iff]

variable (table)

/-- The abstract mailbox agrees with its status along a run exactly when every
step of the run is a safe start. -/
theorem Mailbox.truthful_run (accesses : List Access) :
    (∀ before, before <+: accesses → (empty.after table before).Truthful) ↔
      ∀ before access, before ++ [access] <+: accesses →
        (empty.after table before).SafeStart table access := by
  constructor
  · intro truthful before access within
    have earlier := truthful before ((List.prefix_append before [access]).trans within)
    have later := truthful (before ++ [access]) within
    rw [Mailbox.after_append] at later
    exact (truthful_step table earlier access).mp later
  · intro safe before
    -- induction on the length of the prefix, one access at a time
    induction before using List.reverseRecOn with
    | nil => exact fun _ => truthful_empty
    | append_singleton before access ih =>
        intro within
        have earlier := ih ((List.prefix_append before [access]).trans within)
        rw [Mailbox.after_append]
        exact (truthful_step table earlier access).mpr (safe before access within)

/-- A property of the state a run leads to may be read off the abstract mailbox. -/
theorem exists_run_iff (before : List Access) (concrete : Doe → Prop) (abstract : Prop)
    (agree : ∀ doe, Represents doe (Mailbox.empty.after table before) →
      (concrete doe ↔ abstract)) :
    (∃ doe outputs, (mailbox table).run Doe.zero before = .ok (doe, outputs) ∧
      concrete doe) ↔ abstract := by
  rcases run_represents table before with ⟨doe, outputs, ran, represents⟩
  constructor
  · intro ⟨other, _, otherRan, holds⟩
    rw [ran] at otherRan
    cases otherRan
    exact (agree doe represents).mp holds
  · intro holds
    exact ⟨doe, outputs, ran, (agree doe represents).mpr holds⟩

/-- Along every run from the zero-initialised mailbox, the status register tells
the truth in every state reached exactly when no step of the run starts an
unanswerable request while a response is pending. -/
theorem status_truthful_iff (accesses : List Access) :
    (∀ before, before <+: accesses →
      ∃ doe outputs, (mailbox table).run Doe.zero before = .ok (doe, outputs) ∧
        doe.Truthful) ↔
    (∀ before access, before ++ [access] <+: accesses →
      ∃ doe outputs, (mailbox table).run Doe.zero before = .ok (doe, outputs) ∧
        SafeStart doe access) := by
  have truthful (before : List Access) :=
    exists_run_iff table before Doe.Truthful _ fun _ represents => represents.truthful_iff
  have safe (before : List Access) (access : Access) :=
    exists_run_iff table before (SafeStart · access)
      ((Mailbox.empty.after table before).SafeStart table access)
      fun _ represents => represents.safeStart_iff access
  simp only [truthful, safe]
  exact Mailbox.truthful_run table accesses

/-- Starting an empty request over the answer to a discovery request. -/
def restartAccesses : List Access :=
  discoveryAccesses ++ [.write doeRegCtrl doeCtrlGo, .write doeRegCtrl doeCtrlGo]

/-- The status can be an error while the old response is still readable. -/
theorem status_untruthful :
    ∃ doe, Reachable protocols doe ∧ ¬doe.Truthful ∧ doe.status = doeStatusError ∧
      regRead doe doeRegRead = .ok 1 := by
  rcases run_represents protocols restartAccesses with ⟨doe, outputs, ran, represents⟩
  refine ⟨doe, ⟨restartAccesses, outputs, ran⟩, ?_, represents.status, ?_⟩
  · rw [represents.truthful_iff]
    intro truthful
    exact absurd (truthful rfl) (by decide)
  · rw [regRead_refines represents]
    rfl

/-! ## How long an error stays -/

namespace Mailbox

theorem push_keeps (mailbox : Mailbox) (word : Dword) :
    (mailbox.push word).status = mailbox.status ∧
      (mailbox.push word).response = mailbox.response := by
  rw [push]
  by_cases room : mailbox.request.length < doeBufDwords
  · rw [dif_pos room]
    exact ⟨rfl, rfl⟩
  · rw [dif_neg room]
    exact ⟨rfl, rfl⟩

/-- An acknowledgement keeps the status as long as dwords are left after it. -/
theorem ack_moves (mailbox : Mailbox) :
    mailbox.ack.status = (if 1 < mailbox.response.length then mailbox.status else .idle) ∧
      mailbox.ack.response = mailbox.response.tail := by
  have tail : mailbox.response.tail = [] ↔ ¬1 < mailbox.response.length := by
    rw [← List.length_eq_zero_iff, List.length_tail]
    omega
  rw [ack]
  by_cases last : mailbox.response.tail = []
  · rw [dif_pos last, if_neg (tail.mp last), last]
    exact ⟨rfl, rfl⟩
  · rw [dif_neg last, if_pos (not_not.mp (mt tail.mpr last))]
    exact ⟨rfl, rfl⟩

/-- Without control writes the status is kept until the acknowledgements reach the
end of what is pending. -/
theorem status_after_quiet (accesses : List Access) (mailbox : Mailbox)
    (quiet : ∀ access ∈ accesses, access.isControl = false) :
    (mailbox.after table accesses).status =
      if accesses.countP Access.isAck = 0 ∨
          accesses.countP Access.isAck < mailbox.response.length
        then mailbox.status else .idle := by
  induction accesses generalizing mailbox with
  | nil => exact (if_pos (Or.inl rfl)).symm
  | cons access rest ih =>
      have quietRest : ∀ other ∈ rest, other.isControl = false := fun other membership =>
        quiet other (List.mem_cons_of_mem _ membership)
      rw [after_cons, ih _ quietRest, List.countP_cons]
      rcases mailbox.step_cases table access with
        ⟨val, rfl, control, _⟩ | ⟨val, rfl, stepped⟩ | ⟨rfl, stepped⟩ | ⟨_, _, silent, stepped⟩
      · have impossible := quiet _ List.mem_cons_self
        rw [Access.isControl, control] at impossible
        cases impossible
      · have kept := mailbox.push_keeps val
        rw [stepped, kept.1, kept.2]
        rfl
      · have moved := mailbox.ack_moves
        rw [stepped, moved.1, moved.2, List.length_tail]
        change _ = if List.countP _ rest + 1 = 0 ∨ List.countP _ rest + 1 < _ then _ else _
        by_cases more : 1 < mailbox.response.length
        · rw [if_pos more]
          congr 1
          rw [eq_iff_iff]
          omega
        · rw [if_neg more, ite_self, if_neg (by omega)]
      · rw [stepped, silent]
        rfl

end Mailbox

/-- An error stays under accesses that neither start nor abort a request exactly
as long as the acknowledgements among them stop short of the end of the response
that is still pending, or there are none. -/
theorem error_stays_iff {doe : Doe} (reached : Reachable table doe)
    (error : doe.status = doeStatusError) (accesses : List Access)
    (quiet : ∀ access ∈ accesses, access.isControl = false) :
    ∃ later outputs, (mailbox table).run doe accesses = .ok (later, outputs) ∧
      (later.status = doeStatusError ↔
        accesses.countP Access.isAck = 0 ∨
          (accesses.countP Access.isAck : Int) < doe.rspLen - doe.rspIdx) := by
  rcases reached.represents with ⟨abstract, represents⟩
  rcases (mailbox_refines table).run represents accesses with ⟨later, ran, laterRep⟩
  have abstractError : abstract.status = .error :=
    Status.code_injective (represents.status.symm.trans error)
  have status : later.status = (abstract.after table accesses).status.code := laterRep.status
  rw [abstract.status_after_quiet table accesses quiet, abstractError] at status
  refine ⟨later, _, ran, ?_⟩
  rw [status, ← represents.response.length_eq, Int.ofNat_lt]
  split
  case isTrue kept => exact iff_of_true rfl kept
  case isFalse cleared => exact iff_of_false (by decide) cleared

/-- A start without a request. -/
theorem emptyStart_error :
    ∃ doe, Reachable protocols doe ∧ doe.status = doeStatusError ∧
      Represents doe (Mailbox.empty.after protocols [.write doeRegCtrl doeCtrlGo]) := by
  rcases run_represents protocols [.write doeRegCtrl doeCtrlGo] with
    ⟨doe, outputs, ran, represents⟩
  exact ⟨doe, ⟨_, outputs, ran⟩, represents.status, represents⟩

theorem error_stays_under_read :
    ∃ doe, Reachable protocols doe ∧ doe.status = doeStatusError ∧
      ∃ later outputs, (mailbox protocols).run doe [.read doeRegStatus] = .ok (later, outputs) ∧
        later.status = doeStatusError := by
  rcases emptyStart_error with ⟨doe, reached, error, _⟩
  rcases error_stays_iff protocols reached error [.read doeRegStatus]
      (List.forall_mem_singleton.mpr rfl) with
    ⟨later, outputs, ran, stays⟩
  exact ⟨doe, reached, error, later, outputs, ran, stays.mpr (Or.inl rfl)⟩

/-- One acknowledgement with nothing to acknowledge wipes the error out. -/
theorem ack_clears_error :
    ∃ doe, Reachable protocols doe ∧ doe.status = doeStatusError ∧
      Access.isControl (.write doeRegRead 0) = false ∧
      ∃ later outputs, (mailbox protocols).run doe [.write doeRegRead 0] = .ok (later, outputs) ∧
        later.status = 0 := by
  rcases emptyStart_error with ⟨doe, reached, error, represents⟩
  rcases (mailbox_refines protocols).run represents [.write doeRegRead 0] with
    ⟨later, ran, laterRep⟩
  exact ⟨doe, reached, error, rfl, later, _, ran, laterRep.status⟩

end RemoteRootport.DoeEmu
