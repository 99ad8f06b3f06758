import RemoteRootport.DoeEmu.Run

/-!
# The device behind the transactions

What `run` implements, without buffers, faults and a loop: a mailbox that has no
place in configuration space until a transaction other than a plain write comes.
That transaction is taken for one of the status register and fixes the place for
good.  The loop refines this device on every stream: any addresses, any value of
`r0w1`, any point at which a quit bit ends it.
-/

namespace RemoteRootport.DoeEmu

open RemoteRootport.Bytes
open RemoteRootport.Machine
open RemoteRootport.Wire

/-- A DOE capability as the transactions of a host see it. -/
inductive Device where
  | unlocated
  | located (base : Dword) (mailbox : Mailbox)

variable (table : List Protocol)

namespace Device

/-- Access the mailbox at a base. -/
def perform (base : Dword) (mailbox : Mailbox) (req : Transaction) : Device × Option Dword :=
  let stepped := mailbox.step table (accessOf base req)
  (.located base stepped.1, stepped.2)

/-- One transaction.  A write is lost on a device that has no place yet. -/
def serve (device : Device) (req : Transaction) : Device × Option Dword :=
  match device with
  | .unlocated =>
      if req.r0w1 = 1 then (.unlocated, none)
      else perform table (offsetOf req - doeRegStatus) .empty req
  | .located base mailbox => perform table base mailbox req

/-- The values a device produces for a stream of transactions. -/
def values (device : Device) (stream : List Transaction) : List (Option Dword) :=
  (Transducer.specRun (serve table) device stream).2

/-- The device after a stream of transactions. -/
def after (device : Device) (stream : List Transaction) : Device :=
  (Transducer.specRun (serve table) device stream).1

theorem values_cons (device : Device) (req : Transaction) (rest : List Transaction) :
    device.values table (req :: rest) =
      (device.serve table req).2 :: (device.serve table req).1.values table rest := rfl

theorem after_cons (device : Device) (req : Transaction) (rest : List Transaction) :
    device.after table (req :: rest) = (device.serve table req).1.after table rest := rfl

/-- The transaction that gives the device its place is one of the status register:
it leaves the mailbox empty and reads zero. -/
theorem serve_unlocated {req : Transaction} (first : req.r0w1 ≠ 1) :
    Device.unlocated.serve table req =
      (.located (offsetOf req - doeRegStatus) .empty,
        if req.r0w1 = 0 then some 0 else none) := by
  have status : offsetOf req - (offsetOf req - doeRegStatus) = doeRegStatus := by
    generalize offsetOf req = offset
    bv_omega
  rw [serve, if_neg first, perform, accessOf, status]
  by_cases read : req.r0w1 = 0
  · rw [if_pos read, if_pos read]
    rfl
  · rw [if_neg read, if_neg read]
    rfl

/-- A plain read at an offset in configuration space. -/
def read (device : Device) (offset : Dword) : Device × Dword :=
  match device with
  | .unlocated => (.located (offset - doeRegStatus) .empty, 0)
  | .located base mailbox => (.located base mailbox, mailbox.read (offset - base))

/-- A plain write at an offset in configuration space. -/
def write (device : Device) (offset val : Dword) : Device :=
  match device with
  | .unlocated => .unlocated
  | .located base mailbox => .located base (mailbox.write table (offset - base) val)

theorem serve_read (device : Device) {req : Transaction} (plain : req.r0w1 = 0) :
    device.serve table req =
      ((device.read (offsetOf req)).1, some (device.read (offsetOf req)).2) := by
  cases device with
  | unlocated =>
      have first : req.r0w1 ≠ 1 := by
        rw [plain]
        decide
      rw [serve_unlocated table first, if_pos plain]
      rfl
  | located base mailbox =>
      rw [serve, perform, accessOf, if_pos plain]
      rfl

theorem serve_write (device : Device) {req : Transaction} (plain : req.r0w1 = 1) :
    device.serve table req = (device.write table (offsetOf req) req.firstDword, none) := by
  cases device with
  | unlocated => exact if_pos plain
  | located base mailbox =>
      have nonzero : req.r0w1 ≠ 0 := by
        rw [plain]
        decide
      rw [serve, perform, accessOf, if_neg nonzero]
      rfl

end Device

/-! ## Refinement -/

/-- The record of the emulator stands for a device. -/
inductive Embodies : Doe → Device → Prop where
  | unlocated {doe : Doe} (represents : Represents doe .empty)
      (undetected : doe.capDetected = false) : Embodies doe .unlocated
  | located {doe : Doe} {base : Dword} {mailbox : Mailbox}
      (represents : Represents doe mailbox) (detected : doe.capDetected = true)
      (place : doe.capBase = base) : Embodies doe (.located base mailbox)

theorem embodies_zero : Embodies Doe.zero .unlocated :=
  .unlocated represents_zero rfl

variable {table} in
/-- An access of a detected record is one of the device at its base. -/
theorem accessStep_embodies {doe : Doe} {base : Dword} {mailbox : Mailbox}
    (represents : Represents doe mailbox) (detected : doe.capDetected = true)
    (place : doe.capBase = base) (req : Transaction) :
    ∃ next, accessStep table doe req =
        .ok (next, replyWith req (Device.perform table base mailbox req).2) ∧
      Embodies next (Device.perform table base mailbox req).1 := by
  rcases accessStep_refines table represents req with ⟨next, accessed, nextRep, same, known⟩
  rw [place] at accessed nextRep same
  exact ⟨next, accessed, .located nextRep (known.trans detected) same⟩

/-- One iteration of the loop is one transaction of the device. -/
theorem runStep_embodies {doe : Doe} {device : Device} (embodies : Embodies doe device)
    {req : Transaction} (running : quits req = false) :
    ∃ next, runStep table doe req =
        .ok (some (next, replyWith req (device.serve table req).2)) ∧
      Embodies next (device.serve table req).1 := by
  cases embodies with
  | unlocated represents undetected =>
      by_cases write : req.r0w1 = 1
      · rw [Device.serve, if_pos write]
        exact ⟨doe, runStep_skip table running undetected write,
          .unlocated represents undetected⟩
      · have served : ¬(doe.capDetected = false ∧ req.r0w1 = 1) := fun both => write both.2
        have detect : doe.locate (offsetOf req) = doe.detect (offsetOf req) := by
          rw [Doe.locate, undetected]
          rfl
        have located := represents.locate (offsetOf req)
        rw [detect] at located
        have place : (doe.detect (offsetOf req)).capBase = offsetOf req - doeRegStatus := rfl
        rcases accessStep_embodies located rfl place req with ⟨next, accessed, nextEmbodies⟩
        rw [← detect] at accessed
        rw [Device.serve, if_neg write]
        exact ⟨next, runStep_access table running served accessed, nextEmbodies⟩
  | located represents detected place =>
      have served : ¬(doe.capDetected = false ∧ req.r0w1 = 1) := by
        rw [detected]
        intro both
        cases both.1
      have same : doe.locate (offsetOf req) = doe := by
        rw [Doe.locate, detected]
        rfl
      rcases accessStep_embodies represents detected place req with ⟨next, accessed, nextEmbodies⟩
      rw [← same] at accessed
      exact ⟨next, runStep_access table running served accessed, nextEmbodies⟩

/-- The transactions before the first that ends the loop. -/
def served (stream : List Transaction) : List Transaction :=
  stream.takeWhile fun req => !quits req

theorem served_quit {req : Transaction} (rest : List Transaction) (quit : quits req = true) :
    served (req :: rest) = [] := by
  rw [served, List.takeWhile_cons, quit]
  rfl

theorem served_running {req : Transaction} (rest : List Transaction)
    (running : quits req = false) : served (req :: rest) = req :: served rest := by
  rw [served, List.takeWhile_cons, running]
  rfl

theorem run_embodies {doe : Doe} {device : Device} (embodies : Embodies doe device)
    (stream : List Transaction) :
    ∃ final, run table doe stream =
        .ok (final, List.zipWith replyWith (served stream) (device.values table (served stream))) ∧
      Embodies final (device.after table (served stream)) := by
  induction stream generalizing doe device with
  | nil => exact ⟨doe, rfl, embodies⟩
  | cons req rest ih =>
      cases quit : quits req with
      | true =>
          rw [served_quit rest quit]
          exact ⟨doe, run_quit table rest (runStep_quit table quit), embodies⟩
      | false =>
          rcases runStep_embodies table embodies quit with ⟨next, stepped, nextEmbodies⟩
          rcases ih nextEmbodies with ⟨final, continued, finalEmbodies⟩
          rw [served_running rest quit, Device.values_cons, Device.after_cons]
          exact ⟨final, run_cons table stepped continued, finalEmbodies⟩

/-- The loop refines the device on every stream of transactions: it answers those
before the first quit, each with the value the device produces and the packet
fields of the request, and is left standing for the device after them. -/
theorem run_refines_device (stream : List Transaction) :
    ∃ doe, run table Doe.zero stream =
        .ok (doe, List.zipWith replyWith (served stream)
          (Device.unlocated.values table (served stream))) ∧
      Embodies doe (Device.unlocated.after table (served stream)) :=
  run_embodies table embodies_zero stream

end RemoteRootport.DoeEmu
