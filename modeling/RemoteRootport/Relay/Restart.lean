import RemoteRootport.Machine.Schedule
import RemoteRootport.Relay.ThinServer

/-!
# Restarting the thin server

The emulator keeps both named pipes open, so they outlive a thin server that is
killed and started again.  Records are transferred whole here.  Each transaction
gets a tag when it is written and its reply keeps the tag; no process looks at
tags, they only say which reply was produced for which transaction.  A thin
server killed between writing a transaction and reading its reply leaves that
reply to its successor, which takes it for the reply to its own first
transaction and is one reply behind from then on.
-/

namespace RemoteRootport.Relay

open RemoteRootport.Bytes
open RemoteRootport.Machine
open RemoteRootport.Wire
open RemoteRootport.DoeEmu

/-! ## The two processes -/

/-- The next system call of `serve`. -/
inductive Point where
  | receiving
  | writing (op : ConfigOp) (req : Transaction)
  | reading (op : ConfigOp) (tag : Nat)
  | sending (op : ConfigOp) (tag : Nat)
  deriving DecidableEq, Repr

/-- The next system call of the emulator's loop; `stopped` once it has been left. -/
inductive Answering where
  | reading
  | writing (tag : Nat) (rsp : Transaction)
  | stopped
  deriving DecidableEq, Repr

/-- Thin server, emulator and the two pipes, with what has been written, produced
and sent back so far. -/
structure Bridge where
  point : Point
  seq : Dword
  requestPipe : List (Nat × Transaction)
  replyPipe : List (Nat × Transaction)
  emulator : Answering
  doe : Doe
  written : Nat
  produced : List (Nat × Transaction)
  sent : List (Nat × ConfigOp)
  deriving DecidableEq, Repr

def Bridge.start : Bridge where
  point := .receiving
  seq := 0
  requestPipe := []
  replyPipe := []
  emulator := .reading
  doe := Doe.zero
  written := 0
  produced := []
  sent := []

/-- One system call of the thin server (`receive` to `send`) or of the emulator
(`consume`, `reply`), or a kill of the thin server with a new start. -/
inductive Event where
  | receive (op : ConfigOp)
  | write
  | read
  | send
  | kill
  | consume
  | reply
  deriving DecidableEq, Repr

def bridgeStep (table : List Protocol) (bridge : Bridge) : Event → Option Bridge
  | .receive op =>
      match bridge.point with
      | .receiving =>
          let seq := bridge.seq + 1
          some { bridge with seq, point := .writing op (translate seq op) }
      | _ => none
  | .write =>
      match bridge.point with
      | .writing op req =>
          some { bridge with
            requestPipe := bridge.requestPipe ++ [(bridge.written, req)]
            written := bridge.written + 1
            point := .reading op bridge.written }
      | _ => none
  | .read =>
      -- the packet number of the reply is not looked at
      match bridge.point, bridge.replyPipe with
      | .reading op tag, (_, rsp) :: replyPipe =>
          some { bridge with replyPipe, point := .sending (complete op rsp) tag }
      | _, _ => none
  | .send =>
      match bridge.point with
      | .sending op tag =>
          some { bridge with sent := bridge.sent ++ [(tag, op)], point := .receiving }
      | _ => none
  | .kill => some { bridge with seq := 0, point := .receiving }
  | .consume =>
      match bridge.emulator, bridge.requestPipe with
      | .reading, (tag, req) :: requestPipe =>
          match runStep table bridge.doe req with
          | .ok (some (doe, rsp)) =>
              some { bridge with
                requestPipe, doe
                emulator := .writing tag rsp
                produced := bridge.produced ++ [(tag, rsp)] }
          | _ => some { bridge with requestPipe, emulator := .stopped }
      | _, _ => none
  | .reply =>
      match bridge.emulator with
      | .writing tag rsp =>
          some { bridge with
            replyPipe := bridge.replyPipe ++ [(tag, rsp)]
            emulator := .reading }
      | _ => none

/-! ## Pairing -/

/-- The outcome an operation carries is that of a reply produced for the
transaction with the tag. -/
def Carries (produced : List (Nat × Transaction)) (tag : Nat) (op : ConfigOp) : Prop :=
  ∃ rsp, (tag, rsp) ∈ produced ∧ op.status = rsp.cmpStatus ∧ op.value = rsp.firstDword

/-- Every operation sent back carries the outcome of its own transaction. -/
def Paired (bridge : Bridge) : Prop :=
  ∀ tag op, (tag, op) ∈ bridge.sent → Carries bridge.produced tag op

/-- The thin server is not killed while the reply to its transaction is due. -/
def SafeKill (bridge : Bridge) (event : Event) : Prop :=
  event = .kill → ∀ op tag, bridge.point ≠ .reading op tag

/-- The one transaction that may be under way is the one the thin server waits
for. -/
inductive Stage : Point → List (Nat × Transaction) → List (Nat × Transaction) → Answering →
    List (Nat × Transaction) → Prop where
  | receiving {produced} : Stage .receiving [] [] .reading produced
  | writing {op req produced} : Stage (.writing op req) [] [] .reading produced
  | asked {op tag req produced} : Stage (.reading op tag) [(tag, req)] [] .reading produced
  | answering {op tag rsp produced} (made : (tag, rsp) ∈ produced) :
      Stage (.reading op tag) [] [] (.writing tag rsp) produced
  | answered {op tag rsp produced} (made : (tag, rsp) ∈ produced) :
      Stage (.reading op tag) [] [(tag, rsp)] .reading produced
  | stuck {op tag produced} : Stage (.reading op tag) [] [] .stopped produced
  | sending {op tag produced} (carries : Carries produced tag op) :
      Stage (.sending op tag) [] [] .reading produced

structure Orderly (bridge : Bridge) : Prop where
  paired : Paired bridge
  stage : Stage bridge.point bridge.requestPipe bridge.replyPipe bridge.emulator bridge.produced

theorem orderly_start : Orderly Bridge.start where
  paired := fun _ _ membership => by cases membership
  stage := .receiving

theorem Carries.later {produced : List (Nat × Transaction)} {tag : Nat} {op : ConfigOp}
    (carries : Carries produced tag op) (more : List (Nat × Transaction)) :
    Carries (produced ++ more) tag op := by
  rcases carries with ⟨rsp, membership, outcome⟩
  exact ⟨rsp, List.mem_append_left more membership, outcome⟩

/-- One step keeps the order, as long as a kill is safe. -/
theorem Orderly.step {table : List Protocol} {bridge next : Bridge} {event : Event}
    (orderly : Orderly bridge) (safe : SafeKill bridge event)
    (stepped : bridgeStep table bridge event = some next) : Orderly next := by
  rcases orderly with ⟨paired, stage⟩
  rcases bridge with
    ⟨point, seq, requestPipe, replyPipe, emulator, doe, written, produced, sent⟩
  change Stage point requestPipe replyPipe emulator produced at stage
  cases event with
  | receive op =>
      cases stage with
      | receiving =>
          cases stepped
          exact ⟨paired, .writing⟩
      | _ => cases stepped
  | write =>
      cases stage with
      | writing =>
          cases stepped
          exact ⟨paired, .asked⟩
      | _ => cases stepped
  | read =>
      cases stage with
      | @answered op tag rsp _ made =>
          cases stepped
          exact ⟨paired, .sending ⟨rsp, made, rfl, rfl⟩⟩
      | _ => cases stepped
  | send =>
      cases stage with
      | @sending op tag _ carries =>
          cases stepped
          refine ⟨?_, .receiving⟩
          intro other back membership
          rcases List.mem_append.mp membership with earlier | last
          · exact paired other back earlier
          · cases List.mem_singleton.mp last
            exact carries
      | _ => cases stepped
  | kill =>
      cases stepped
      refine ⟨paired, ?_⟩
      cases stage with
      | receiving => exact .receiving
      | writing => exact .receiving
      | sending => exact .receiving
      | @asked op tag | @answering op tag | @answered op tag | @stuck op tag =>
          exact absurd rfl (safe rfl op tag)
  | consume =>
      cases stage with
      | @asked op tag req =>
          cases outcome : runStep table doe req with
          | error fault =>
              simp only [bridgeStep, outcome] at stepped
              cases stepped
              exact ⟨paired, .stuck⟩
          | ok answer =>
              cases answer with
              | none =>
                  simp only [bridgeStep, outcome] at stepped
                  cases stepped
                  exact ⟨paired, .stuck⟩
              | some result =>
                  simp only [bridgeStep, outcome] at stepped
                  cases stepped
                  refine ⟨?_, .answering (List.mem_append_right _ List.mem_cons_self)⟩
                  intro other back membership
                  exact (paired other back membership).later _
      | _ => cases stepped
  | reply =>
      cases stage with
      | @answering op tag rsp _ made =>
          cases stepped
          exact ⟨paired, .answered made⟩
      | _ => cases stepped

/-! ## Restarts -/

/-- A schedule without kills is safe. -/
theorem guarded_of_calm (table : List Protocol) {events : List Event}
    (calm : ∀ event ∈ events, event ≠ .kill) (bridge : Bridge) :
    Guarded (bridgeStep table) SafeKill bridge events := by
  induction events generalizing bridge with
  | nil => trivial
  | cons event rest ih =>
      constructor
      · intro kill
        exact absurd kill (calm event List.mem_cons_self)
      · cases bridgeStep table bridge event with
        | none => trivial
        | some next => exact ih (fun other membership => calm other (.tail _ membership)) next

/-- As long as the thin server is killed only when no reply is due to it, every
operation it sends back carries the outcome of its own transaction. -/
theorem paired_of_safe_kills (table : List Protocol) {events : List Event} {bridge : Bridge}
    (executed : execute (bridgeStep table) Bridge.start events = some bridge)
    (safe : Guarded (bridgeStep table) SafeKill Bridge.start events) : Paired bridge := by
  have orderly := execute_guarded Orderly (fun _ _ _ => Orderly.step) orderly_start safe executed
  exact orderly.paired

/-- A read of the status register and one of the read mailbox. -/
def statusOp : ConfigOp := { type := 0x14, offset := 0x19c, value := 0, status := 0 }

def mailboxOp : ConfigOp := { type := 0x14, offset := 0x1a4, value := 0, status := 0 }

/-- A kill before the transaction is written. -/
def safeRestart : List Event :=
  [.receive statusOp, .kill, .receive mailboxOp, .write, .consume, .reply, .read, .send]

/-- A kill after the transaction is written and before its reply is read. -/
def staleRestart : List Event :=
  [.receive statusOp, .write, .kill, .receive mailboxOp, .write, .consume, .reply, .consume,
    .reply, .read, .send]

theorem safeRestart_paired :
    ∃ bridge, execute (bridgeStep protocols) Bridge.start safeRestart = some bridge ∧
      Guarded (bridgeStep protocols) SafeKill Bridge.start safeRestart ∧
      bridge.sent.length = 1 ∧ Paired bridge := by
  have safe : Guarded (bridgeStep protocols) SafeKill Bridge.start safeRestart := by
    constructor
    · intro kill
      cases kill
    constructor
    · intro _ op tag reading
      cases reading
    · exact guarded_of_calm protocols (by decide) _
  exact ⟨_, rfl, safe, rfl, paired_of_safe_kills protocols rfl safe⟩

/-- The replies the emulator produces in the stale run. -/
def statusReply : Transaction :=
  (accessReply (translate 1 statusOp)).setFirstDword 0

def mailboxReply : Transaction :=
  (accessReply (translate 1 mailboxOp)).setFirstDword 0xFFFFFFFF

theorem complete_statusReply : complete mailboxOp statusReply = mailboxOp := by
  rw [complete, statusReply, Transaction.firstDword_setFirstDword]
  rfl

/-- The successor answers the second operation with the reply to the first: the
device reads zero where the emulator answered with the overrun value. -/
theorem staleRestart_unpaired :
    ∃ bridge, execute (bridgeStep protocols) Bridge.start staleRestart = some bridge ∧
      (1, mailboxOp) ∈ bridge.sent ∧
      (∀ rsp, (1, rsp) ∈ bridge.produced → rsp.firstDword = 0xFFFFFFFF) ∧
      ¬Paired bridge := by
  have own (rsp : Transaction)
      (membership : (1, rsp) ∈ [(0, statusReply), (1, mailboxReply)]) :
      rsp.firstDword = 0xFFFFFFFF := by
    rcases List.mem_cons.mp membership with first | second
    · cases first
    · cases List.mem_singleton.mp second
      rw [mailboxReply, Transaction.firstDword_setFirstDword]
  have sent : (1, mailboxOp) ∈ [(1, complete mailboxOp statusReply)] := by
    rw [complete_statusReply]
    exact List.mem_cons_self
  refine ⟨_, rfl, sent, own, ?_⟩
  intro paired
  rcases paired 1 mailboxOp sent with ⟨rsp, membership, _, value⟩
  rw [own rsp membership] at value
  exact absurd value (by decide)

end RemoteRootport.Relay
