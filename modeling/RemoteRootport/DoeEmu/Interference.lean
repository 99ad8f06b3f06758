import Mathlib.Data.List.ReduceOption
import RemoteRootport.DoeEmu.Exchange
import RemoteRootport.Machine.Interleaving

/-!
# Writing a request while draining a response

The two mailboxes share one record but not one field.  A request dword reads and
writes the request half only; a status read, a data read and a write to the read
mailbox leave that half alone and do not look at it.  Both facts are frame laws:
the request half of any other record may be put in, before or after the access.
-/

namespace RemoteRootport.DoeEmu

open RemoteRootport.Bytes
open RemoteRootport.Machine

variable (table : List Protocol)

/-- The record with the request half of another one. -/
def Doe.withRequest (doe source : Doe) : Doe :=
  { doe with reqBuf := source.reqBuf, reqLen := source.reqLen }

/-- Status reads, data reads and writes to the read mailbox. -/
def Access.isDrain : Access → Bool
  | .read reg => reg == doeRegStatus || reg == doeRegRead
  | .write reg _ => reg == doeRegRead

/-! ## Frame laws -/

/-- A request dword acts on the request half, whatever the rest is. -/
theorem push_frame (doe source : Doe) (val : Dword) :
    regWrite table (doe.withRequest source) doeRegWrite val =
      (regWrite table source doeRegWrite val).map doe.withRequest := by
  simp only [regWrite, if_neg (show doeRegWrite ≠ doeRegCtrl by decide), if_pos]
  change (if source.reqLen < doeBufDwords then _ else _) = _
  by_cases room : source.reqLen < doeBufDwords
  · rw [if_pos room, if_pos room]
    change (do
      let reqBuf ← source.reqBuf.store source.reqLen val
      let reqLen ← intSucc source.reqLen
      Except.ok { doe.withRequest source with reqBuf, reqLen }) = _
    cases source.reqBuf.store source.reqLen val with
    | error fault => rfl
    | ok reqBuf =>
        cases intSucc source.reqLen with
        | error fault => rfl
        | ok reqLen => rfl
  · rw [if_neg room, if_neg room]
    rfl

theorem read_frame (doe source : Doe) (reg : Dword) :
    regRead (doe.withRequest source) reg = regRead doe reg := rfl

theorem readWrite_frame (doe source : Doe) (val : Dword) :
    regWrite table (doe.withRequest source) doeRegRead val =
      (regWrite table doe doeRegRead val).map (Doe.withRequest · source) := by
  simp only [regWrite, if_neg (show doeRegRead ≠ doeRegCtrl by decide),
    if_neg (show doeRegRead ≠ doeRegWrite by decide), if_pos]
  by_cases zero : val = 0
  · rw [if_pos zero, if_pos zero]
    change (do
      let rspIdx ← intSucc doe.rspIdx
      if rspIdx ≥ doe.rspLen then _ else _) = _
    cases intSucc doe.rspIdx with
    | error fault => rfl
    | ok rspIdx =>
        change (if rspIdx ≥ doe.rspLen then _ else _) =
          Except.map _ (if rspIdx ≥ doe.rspLen then _ else _)
        by_cases consumed : rspIdx ≥ doe.rspLen
        · rw [if_pos consumed, if_pos consumed]
          rfl
        · rw [if_neg consumed, if_neg consumed]
          rfl
  · rw [if_neg zero, if_neg zero]
    rfl

/-- A draining access acts beside the request half, whatever that is. -/
theorem drain_frame {input : Access} (drains : input.isDrain = true) (doe source : Doe) :
    access table (doe.withRequest source) input =
      (access table doe input).map fun result => (result.1.withRequest source, result.2) := by
  cases input with
  | read reg =>
      rw [access, access, read_frame]
      cases regRead doe reg with
      | error fault => rfl
      | ok val => rfl
  | write reg val =>
      cases eq_of_beq drains
      rw [access, access, readWrite_frame]
      cases regWrite table doe doeRegRead val with
      | error fault => rfl
      | ok next => rfl

theorem Doe.withRequest_self (doe : Doe) : doe.withRequest doe = doe := rfl

theorem access_push {doe next : Doe} {val : Dword} {output : Option Dword}
    (wrote : access table doe (.write doeRegWrite val) = .ok (next, output)) :
    regWrite table doe doeRegWrite val = .ok next ∧ output = none := by
  rw [access] at wrote
  cases written : regWrite table doe doeRegWrite val with
  | error fault =>
      rw [written] at wrote
      cases wrote
  | ok reached =>
      rw [written] at wrote
      cases wrote
      exact ⟨rfl, rfl⟩

/-- A request dword and a draining access may change places. -/
theorem push_commutes {input : Access} (drains : input.isDrain = true) (val : Dword) :
    (mailbox table).Commutes (.write doeRegWrite val) input := by
  intro doe middle final pushed drained wrote drew
  change access table doe (.write doeRegWrite val) = .ok (middle, pushed) at wrote
  change access table middle input = .ok (final, drained) at drew
  rcases access_push table wrote with ⟨written, rfl⟩
  -- the push leaves everything but the request half as it was
  have beside : middle.withRequest doe = doe := by
    have framed := push_frame table doe doe val
    rw [Doe.withRequest_self, written] at framed
    injection framed with same
    rw [same]
    rfl
  -- and the draining access leaves the request half as it was
  have request : final.withRequest middle = final := by
    have framed := drain_frame table drains middle middle
    rw [Doe.withRequest_self, drew] at framed
    injection framed with same
    injection same with same
    exact same.symm
  refine ⟨final.withRequest doe, ?_, ?_⟩
  · have framed := drain_frame table drains middle doe
    rw [beside, drew] at framed
    exact framed
  · have framed := push_frame table final doe val
    rw [written] at framed
    change access table (final.withRequest doe) (.write doeRegWrite val) = _
    rw [access, framed]
    change Except.ok (final.withRequest middle, none) = _
    rw [request]

/-! ## Interleavings -/

/-- Request dwords are written without an output. -/
theorem specRun_writes (words : List Dword) (abstract : Mailbox) :
    (Transducer.specRun (Mailbox.step table) abstract
      (words.map (Access.write doeRegWrite))).2 = List.replicate words.length none := by
  induction words generalizing abstract with
  | nil => rfl
  | cons word rest ih =>
      rw [List.map_cons, Transducer.specRun_cons, ih]
      rfl

/-- Outputs without a value do not show among the values. -/
theorem reduceOption_interleaving {α : Type} {silent values outputs : List (Option α)}
    (interleaving : Interleaving silent values outputs)
    (none_of_mem : ∀ output ∈ silent, output = none) :
    outputs.reduceOption = values.reduceOption := by
  induction interleaving with
  | nil => rfl
  | left _ ih =>
      rcases List.forall_mem_cons.mp none_of_mem with ⟨rfl, rest⟩
      rw [List.reduceOption_cons_of_none]
      exact ih rest
  | @right output _ _ _ _ ih =>
      cases output with
      | none =>
          rw [List.reduceOption_cons_of_none, List.reduceOption_cons_of_none]
          exact ih none_of_mem
      | some value =>
          rw [List.reduceOption_cons_of_some, List.reduceOption_cons_of_some, ih none_of_mem]

/-- From every reachable state, writing request dwords and draining a response may
be interleaved in any way: the final record and the values read are those of
writing first and draining then. -/
theorem writing_draining_independent {doe : Doe} (reached : Reachable table doe)
    (words : List Dword) {drain mixed : List Access}
    (drains : ∀ access ∈ drain, access.isDrain = true)
    (interleaving : Interleaving (words.map (Access.write doeRegWrite)) drain mixed) :
    ∃ final sequential interleaved,
      (mailbox table).run doe (words.map (Access.write doeRegWrite) ++ drain) =
        .ok (final, sequential) ∧
      (mailbox table).run doe mixed = .ok (final, interleaved) ∧
      interleaved.reduceOption = sequential.reduceOption := by
  rcases reached.represents with ⟨abstract, represents⟩
  rcases (mailbox_refines table).run represents
      (words.map (Access.write doeRegWrite) ++ drain) with
    ⟨final, sequential, _⟩
  rw [Transducer.specRun_append, specRun_writes] at sequential
  have commutes : ∀ push ∈ words.map (Access.write doeRegWrite), ∀ access ∈ drain,
      (mailbox table).Commutes push access := by
    intro push membership access within
    rcases List.mem_map.mp membership with ⟨val, _, rfl⟩
    exact push_commutes table (drains access within) val
  rcases Transducer.run_interleaving interleaving commutes (by simp) sequential with
    ⟨interleaved, ran, outputs⟩
  refine ⟨final, _, interleaved, sequential, ran, ?_⟩
  have silent : ∀ output ∈ List.replicate words.length (none : Option Dword), output = none :=
    fun output membership => List.eq_of_mem_replicate membership
  rw [reduceOption_interleaving outputs silent, List.reduceOption_append,
    List.reduceOption_replicate_none, List.nil_append]

/-- A request dword between an acknowledgement and a status read. -/
theorem written_between_drained :
    ∃ final sequential interleaved,
      (mailbox protocols).run Doe.zero
        [.write doeRegWrite 1, .write doeRegRead 0, .read doeRegStatus] =
          .ok (final, sequential) ∧
      (mailbox protocols).run Doe.zero
        [.write doeRegRead 0, .write doeRegWrite 1, .read doeRegStatus] =
          .ok (final, interleaved) ∧
      interleaved.reduceOption = sequential.reduceOption :=
  writing_draining_independent protocols (Transducer.Reachable.refl _) [1] (by decide)
    (.right (.left (.right .nil)))

end RemoteRootport.DoeEmu
