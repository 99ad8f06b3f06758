import Mathlib.Data.List.Basic
import RemoteRootport.Relay.Chain

/-!
# Transparency of the relay chain

The thin server pairs replies with requests by position alone, so the chain is
right only because at most one record is ever under way.  An operation passes
through five stages: up to the thin server, as a transaction to the emulator, as
a reply back, down to the daemon, and to the device.  The invariant says which
stage it is in, which part of the record has arrived, and how many system calls
can at most be left.
-/

namespace RemoteRootport.Relay

open RemoteRootport.Bytes
open RemoteRootport.Machine
open RemoteRootport.Wire
open RemoteRootport.DoeEmu

/-! ## Stages -/

/-- Work left when a completed operation has just left the thin server: a byte
per system call on both sides, and the write to the device. -/
def workDown : Nat := 2 * ConfigOp.layout.size + 1

/-- Work left when the reply has just left the emulator. -/
def workReply : Nat := 2 * Transaction.layout.size + workDown

/-- Work left when the transaction has just left the thin server. -/
def workRequest : Nat := 2 * Transaction.layout.size + workReply

/-- Work left when the operation has just left the daemon. -/
def workUp : Nat := 2 * ConfigOp.layout.size + workRequest

/-- Work for an operation the device has not handed out yet. -/
def workOp : Nat := workUp + 1

/-- The `k`-th exchange carries packet number `k`, counted from one, on both
sides. -/
def Numbered (exchanges : List (Transaction × Transaction)) : Prop :=
  ∀ (index : Nat) (bound : index < exchanges.length),
    exchanges[index].1.packetNumber = BitVec.ofNat 32 (index + 1) ∧
      exchanges[index].2.packetNumber = BitVec.ofNat 32 (index + 1)

theorem Numbered.snoc {exchanges : List (Transaction × Transaction)}
    (numbered : Numbered exchanges) {req rsp : Transaction}
    (request : req.packetNumber = BitVec.ofNat 32 (exchanges.length + 1))
    (reply : rsp.packetNumber = BitVec.ofNat 32 (exchanges.length + 1)) :
    Numbered (exchanges ++ [(req, rsp)]) := by
  intro index bound
  by_cases earlier : index < exchanges.length
  · rw [List.getElem_append_left earlier]
    exact numbered index earlier
  · have last : index = exchanges.length := by
      rw [List.length_append, List.length_singleton] at bound
      omega
    subst last
    rw [List.getElem_concat_length rfl]
    exact ⟨request, reply⟩

/-- The operations the device gets back for operations and bare replies. -/
def answers (ops : List ConfigOp) (replies : List Transaction) : List ConfigOp :=
  List.zipWith complete ops replies

theorem answers_snoc {ops : List ConfigOp} {replies : List Transaction}
    (answered : replies.length = ops.length) (op : ConfigOp) (rsp : Transaction) :
    answers (ops ++ [op]) (replies ++ [rsp]) = answers ops replies ++ [complete op rsp] := by
  rw [answers, List.zipWith_append answered.symm]
  rfl

theorem answers_eq_expected {ops : List ConfigOp} {replies : List Transaction}
    (succeeds : List.Forall₂ Succeeds ops replies) :
    answers ops replies = List.zipWith expected ops replies := by
  induction succeeds with
  | nil => rfl
  | cons first _ ih =>
      rw [answers, List.zipWith_cons_cons, List.zipWith_cons_cons, complete_eq_expected first]
      exact congrArg _ ih

variable (table : List Protocol) (requests : List ConfigOp)

/-- The history up to a point at which some operations have been settled. -/
structure History (done rest : List ConfigOp) (doe : Doe) (replies : List Transaction)
    (exchanges : List (Transaction × Transaction)) : Prop where
  split : requests = done ++ rest
  settled : Settled table done doe replies
  numbered : Numbered exchanges
  counted : exchanges.length = done.length

/-- The packet number of the next transaction. -/
def nextNumber (done : List ConfigOp) : Dword :=
  BitVec.ofNat 32 (done.length + 1)

theorem nextNumber_eq (done : List ConfigOp) :
    BitVec.ofNat 32 done.length + 1 = nextNumber done := by
  rw [nextNumber, BitVec.ofNat_add]
  rfl

theorem nextNumber_snoc (done : List ConfigOp) (op : ConfigOp) :
    BitVec.ofNat 32 (done ++ [op]).length = nextNumber done := by
  rw [List.length_append]
  rfl

/-- The stage the chain is in, with a bound on the system calls left. -/
inductive Tracks : System → Nat → Prop where
  | idle {done pending : List ConfigOp} {doe : Doe} {replies : List Transaction}
      {exchanges : List (Transaction × Transaction)}
      (history : History table requests done pending doe replies exchanges) :
      Tracks (.resting pending (BitVec.ofNat 32 done.length) doe (answers done replies) exchanges)
        (pending.length * workOp)
  | up {done pending : List ConfigOp} {op : ConfigOp} {doe : Doe}
      {replies : List Transaction} {exchanges : List (Transaction × Transaction)}
      {rest stream got : List Byte}
      (history : History table requests done (op :: pending) doe replies exchanges)
      (transit : InTransit (ConfigOp.layout.encode op) rest stream got)
      (unfinished : got.length < ConfigOp.layout.size) :
      Tracks
        { System.resting pending (BitVec.ofNat 32 done.length) doe (answers done replies)
            exchanges with
          daemon := .sent rest
          toServer := stream
          server := .receiving got }
        (pending.length * workOp + (rest.length + (ConfigOp.layout.size - got.length) + workRequest))
  | request {done pending : List ConfigOp} {op : ConfigOp} {doe : Doe}
      {replies : List Transaction} {exchanges : List (Transaction × Transaction)}
      {rest stream got : List Byte}
      (history : History table requests done (op :: pending) doe replies exchanges)
      (transit : InTransit (Transaction.layout.encode (translate (nextNumber done) op))
        rest stream got)
      (unfinished : got.length < Transaction.layout.size) :
      Tracks
        { System.resting pending (nextNumber done) doe (answers done replies) exchanges with
          daemon := .receiving []
          server := .wrote op (translate (nextNumber done) op) rest
          requestPipe := stream
          emulator := .reading got }
        (pending.length * workOp + (rest.length + (Transaction.layout.size - got.length) + workReply))
  | reply {done pending : List ConfigOp} {op : ConfigOp} {doe next : Doe}
      {replies : List Transaction} {rsp : Transaction}
      {exchanges : List (Transaction × Transaction)} {rest stream got : List Byte}
      (history : History table requests done (op :: pending) doe replies exchanges)
      (settled : Settled table (done ++ [op]) next (replies ++ [rsp]))
      (transit : InTransit (Transaction.layout.encode (relabel (nextNumber done) 1 1 rsp))
        rest stream got)
      (unfinished : got.length < Transaction.layout.size) :
      Tracks
        { System.resting pending (nextNumber done) next (answers done replies) exchanges with
          daemon := .receiving []
          server := .reading op (translate (nextNumber done) op) got
          replyPipe := stream
          emulator := .wrote rest }
        (pending.length * workOp + (rest.length + (Transaction.layout.size - got.length) + workDown))
  | down {done pending : List ConfigOp} {op : ConfigOp} {before doe : Doe}
      {replies : List Transaction} {rsp : Transaction}
      {exchanges : List (Transaction × Transaction)} {rest stream got : List Byte}
      (history : History table requests (done ++ [op]) pending doe (replies ++ [rsp]) exchanges)
      (earlier : Settled table done before replies)
      (transit : InTransit (ConfigOp.layout.encode (complete op rsp)) rest stream got)
      (unfinished : got.length < ConfigOp.layout.size) :
      Tracks
        { System.resting pending (nextNumber done) doe (answers done replies) exchanges with
          daemon := .receiving got
          server := .sent rest
          toDaemon := stream }
        (pending.length * workOp + (rest.length + (ConfigOp.layout.size - got.length) + 1))
  | ready {done pending : List ConfigOp} {op : ConfigOp} {before doe : Doe}
      {replies : List Transaction} {rsp : Transaction}
      {exchanges : List (Transaction × Transaction)}
      (history : History table requests (done ++ [op]) pending doe (replies ++ [rsp]) exchanges)
      (earlier : Settled table done before replies) :
      Tracks
        { System.resting pending (nextNumber done) doe (answers done replies) exchanges with
          daemon := .writing (complete op rsp) }
        (pending.length * workOp + 1)

theorem tracks_start : Tracks table requests (.start requests) (requests.length * workOp) := by
  have nothing : Numbered [] := by
    intro index bound
    cases bound
  exact .idle ⟨rfl, settled_nil table, nothing, rfl⟩

/-! ## One system call -/

section Steps

variable {table requests} {done pending : List ConfigOp} {op : ConfigOp} {before doe next : Doe}
  {replies : List Transaction} {rsp : Transaction}
  {exchanges : List (Transaction × Transaction)}

/-- The device has handed out an operation. -/
theorem Tracks.beginUp
    (history : History table requests done (op :: pending) doe replies exchanges) :
    Tracks table requests
      { System.resting pending (BitVec.ofNat 32 done.length) doe (answers done replies)
          exchanges with
        daemon := .sending (ConfigOp.layout.encode op) }
      (pending.length * workOp + workUp) := by
  have began := Tracks.up history (InTransit.start (ConfigOp.layout.encode op))
    (by decide : ([] : List Byte).length < ConfigOp.layout.size)
  rw [Daemon.sent, afterSend_of_ne_nil _ _ (ConfigOp.layout.encode_ne_nil (by decide) op),
    ConfigOp.layout.length_encode] at began
  exact began

/-- The thin server has received the operation. -/
theorem Tracks.beginRequest
    (history : History table requests done (op :: pending) doe replies exchanges) :
    Tracks table requests
      { System.resting pending (nextNumber done) doe (answers done replies) exchanges with
        daemon := .receiving []
        server := .writing op (translate (nextNumber done) op)
          (Transaction.layout.encode (translate (nextNumber done) op)) }
      (pending.length * workOp + workRequest) := by
  have began := Tracks.request history
    (InTransit.start (Transaction.layout.encode (translate (nextNumber done) op)))
    (by decide : ([] : List Byte).length < Transaction.layout.size)
  rw [Server.wrote, afterSend_of_ne_nil _ _ (Transaction.layout.encode_ne_nil (by decide) _),
    Transaction.layout.length_encode] at began
  exact began

/-- The emulator has answered the transaction. -/
theorem Tracks.beginReply
    (history : History table requests done (op :: pending) doe replies exchanges)
    (settled : Settled table (done ++ [op]) next (replies ++ [rsp])) :
    Tracks table requests
      { System.resting pending (nextNumber done) next (answers done replies) exchanges with
        daemon := .receiving []
        server := .reading op (translate (nextNumber done) op) []
        emulator := .writing (Transaction.layout.encode (relabel (nextNumber done) 1 1 rsp)) }
      (pending.length * workOp + workReply) := by
  have began := Tracks.reply history settled
    (InTransit.start (Transaction.layout.encode (relabel (nextNumber done) 1 1 rsp)))
    (by decide : ([] : List Byte).length < Transaction.layout.size)
  rw [Emulator.wrote, afterSend_of_ne_nil _ _ (Transaction.layout.encode_ne_nil (by decide) _),
    Transaction.layout.length_encode] at began
  exact began

/-- The thin server has completed the operation. -/
theorem Tracks.beginDown
    (history : History table requests (done ++ [op]) pending doe (replies ++ [rsp]) exchanges)
    (earlier : Settled table done before replies) :
    Tracks table requests
      { System.resting pending (nextNumber done) doe (answers done replies) exchanges with
        daemon := .receiving []
        server := .sending (ConfigOp.layout.encode (complete op rsp)) }
      (pending.length * workOp + workDown) := by
  have began := Tracks.down history earlier
    (InTransit.start (ConfigOp.layout.encode (complete op rsp)))
    (by decide : ([] : List Byte).length < ConfigOp.layout.size)
  rw [Server.sent, afterSend_of_ne_nil _ _ (ConfigOp.layout.encode_ne_nil (by decide) _),
    ConfigOp.layout.length_encode] at began
  exact began

theorem Tracks.daemonStep {system after : System} {work count : Nat}
    (tracks : Tracks table requests system work)
    (stepped : daemonStep system count = some after) :
    ∃ less, less < work ∧ Tracks table requests after less := by
  cases tracks with
  | @idle done pending doe replies exchanges history =>
      cases pending with
      | nil => cases stepped
      | cons op pending =>
          cases stepped
          refine ⟨pending.length * workOp + workUp, ?_, .beginUp history⟩
          rw [List.length_cons, Nat.succ_mul]
          exact Nat.lt_succ_self _
  | @up done pending op doe replies exchanges rest stream got history transit unfinished =>
      cases rest with
      | nil => exact (recv_blocked stepped).elim
      | cons byte rest =>
          rcases transit.send stepped with ⟨rest', stream', rfl, moved, fewer⟩
          exact ⟨pending.length * workOp +
              (rest'.length + (ConfigOp.layout.size - got.length) + workRequest),
            by omega, .up history moved unfinished⟩
  | request history transit unfinished => exact (recv_blocked stepped).elim
  | reply history settled transit unfinished => exact (recv_blocked stepped).elim
  | @down done pending op before doe replies rsp exchanges rest stream got history earlier transit
      unfinished =>
      rcases transit.recv stepped with ⟨got', stream', rfl, moved, more, fits⟩
      by_cases full : got'.length = ConfigOp.layout.size
      · rcases moved.complete (ConfigOp.layout.length_encode _) full with ⟨rfl, rfl, rfl⟩
        refine ⟨pending.length * workOp + 1, by omega, ?_⟩
        have received := Tracks.ready history earlier
        rw [← daemonReceived_encode] at received
        exact received
      · refine ⟨pending.length * workOp +
          (rest.length + (ConfigOp.layout.size - got'.length) + 1), by omega, ?_⟩
        have received := Tracks.down history earlier moved (by omega)
        have waiting : Daemon.received got' = _ := if_neg full
        rw [← waiting] at received
        exact received
  | @ready done pending op before doe replies rsp exchanges history earlier =>
      cases stepped
      refine ⟨pending.length * workOp, by omega, ?_⟩
      have finished := Tracks.idle history
      rw [nextNumber_snoc, answers_snoc earlier.length_eq] at finished
      exact finished

theorem Tracks.serverStep {system after : System} {work count : Nat}
    (tracks : Tracks table requests system work)
    (stepped : serverStep system count = some after) :
    ∃ less, less < work ∧ Tracks table requests after less := by
  cases tracks with
  | idle history => exact (recv_blocked stepped).elim
  | @up done pending op doe replies exchanges rest stream got history transit unfinished =>
      rcases transit.recv stepped with ⟨got', stream', rfl, moved, more, fits⟩
      by_cases full : got'.length = ConfigOp.layout.size
      · rcases moved.complete (ConfigOp.layout.length_encode _) full with ⟨rfl, rfl, rfl⟩
        refine ⟨pending.length * workOp + workRequest, by omega, ?_⟩
        have began := Tracks.beginRequest history
        rw [← nextNumber_eq] at began
        change Tracks table requests (serverReceived _ _) _
        rw [serverReceived_encode]
        exact began
      · refine ⟨pending.length * workOp +
          (rest.length + (ConfigOp.layout.size - got'.length) + workRequest), by omega, ?_⟩
        change Tracks table requests (serverReceived _ _) _
        rw [serverReceived, if_neg full]
        exact .up history moved (by omega)
  | @request done pending op doe replies exchanges rest stream got history transit unfinished =>
      cases rest with
      | nil => exact (recv_blocked stepped).elim
      | cons byte rest =>
          rcases transit.send stepped with ⟨rest', stream', rfl, moved, fewer⟩
          exact ⟨pending.length * workOp +
              (rest'.length + (Transaction.layout.size - got.length) + workReply),
            by omega, .request history moved unfinished⟩
  | @reply done pending op doe next replies rsp exchanges rest stream got history settled transit
      unfinished =>
      rcases transit.recv stepped with ⟨got', stream', rfl, moved, more, fits⟩
      by_cases full : got'.length = Transaction.layout.size
      · rcases moved.complete (Transaction.layout.length_encode _) full with ⟨rfl, rfl, rfl⟩
        refine ⟨pending.length * workOp + workDown, by omega, ?_⟩
        have number : nextNumber done = BitVec.ofNat 32 (exchanges.length + 1) := by
          rw [history.counted]
          rfl
        have later : History table requests (done ++ [op]) pending next (replies ++ [rsp])
            (exchanges ++ [(translate (nextNumber done) op, relabel (nextNumber done) 1 1 rsp)]) := by
          refine ⟨?_, settled, history.numbered.snoc number number, ?_⟩
          · rw [List.append_assoc]
            exact history.split
          · rw [List.length_append, List.length_append, history.counted]
            rfl
        have began := Tracks.beginDown later history.settled
        change Tracks table requests (serverReplied _ _ _ _) _
        rw [serverReplied_encode]
        exact began
      · refine ⟨pending.length * workOp +
          (rest.length + (Transaction.layout.size - got'.length) + workDown), by omega, ?_⟩
        change Tracks table requests (serverReplied _ _ _ _) _
        rw [serverReplied, if_neg full]
        exact .reply history settled moved (by omega)
  | @down done pending op before doe replies rsp exchanges rest stream got history earlier transit
      unfinished =>
      cases rest with
      | nil => exact (recv_blocked stepped).elim
      | cons byte rest =>
          rcases transit.send stepped with ⟨rest', stream', rfl, moved, fewer⟩
          exact ⟨pending.length * workOp +
              (rest'.length + (ConfigOp.layout.size - got.length) + 1),
            by omega, .down history earlier moved unfinished⟩
  | ready history earlier => exact (recv_blocked stepped).elim

theorem Tracks.emulatorStep {system after : System} {work count : Nat}
    (tracks : Tracks table requests system work)
    (stepped : emulatorStep table system count = some after) :
    ∃ less, less < work ∧ Tracks table requests after less := by
  cases tracks with
  | idle history => exact (recv_blocked stepped).elim
  | up history transit unfinished => exact (recv_blocked stepped).elim
  | @request done pending op doe replies exchanges rest stream got history transit unfinished =>
      rcases transit.recv stepped with ⟨got', stream', rfl, moved, more, fits⟩
      by_cases full : got'.length = Transaction.layout.size
      · rcases moved.complete (Transaction.layout.length_encode _) full with ⟨rfl, rfl, rfl⟩
        refine ⟨pending.length * workOp + workReply, by omega, ?_⟩
        rcases history.settled.next op with ⟨next, rsp, answered, settled⟩
        have emulated := runStep_relabel table (nextNumber done) 1 1 answered
        rw [← translate_eq] at emulated
        change Tracks table requests (emulatorReceived table _ _) _
        rw [emulatorReceived_encode table _ emulated]
        exact .beginReply history settled
      · refine ⟨pending.length * workOp +
          (rest.length + (Transaction.layout.size - got'.length) + workReply), by omega, ?_⟩
        change Tracks table requests (emulatorReceived table _ _) _
        rw [emulatorReceived, if_neg full]
        exact .request history moved (by omega)
  | @reply done pending op doe next replies rsp exchanges rest stream got history settled transit
      unfinished =>
      cases rest with
      | nil => exact (recv_blocked stepped).elim
      | cons byte rest =>
          rcases transit.send stepped with ⟨rest', stream', rfl, moved, fewer⟩
          exact ⟨pending.length * workOp +
              (rest'.length + (Transaction.layout.size - got.length) + workDown),
            by omega, .reply history settled moved unfinished⟩
  | down history earlier transit unfinished => exact (recv_blocked stepped).elim
  | ready history earlier => exact (recv_blocked stepped).elim

theorem Tracks.step {system after : System} {work : Nat} {turn : Turn}
    (tracks : Tracks table requests system work) (stepped : step table system turn = some after) :
    ∃ less, less < work ∧ Tracks table requests after less := by
  cases turn with
  | daemon count => exact tracks.daemonStep stepped
  | server count => exact tracks.serverStep stepped
  | emulator count => exact tracks.emulatorStep stepped

end Steps

/-! ## What the stages say -/

/-- The byte streams between the processes. -/
def System.streams (system : System) : List (List Byte) :=
  [system.toServer, system.requestPipe, system.replyPipe, system.toDaemon]

/-- The bytes of one operation or one transaction. -/
def IsRecord (bytes : List Byte) : Prop :=
  (∃ op, bytes = ConfigOp.layout.encode op) ∨ ∃ record, bytes = Transaction.layout.encode record

/-- Of any two streams one is empty, and all bytes under way belong to one
record. -/
structure OneInFlight (system : System) : Prop where
  one : system.streams.Pairwise fun left right => left = [] ∨ right = []
  record : ∃ bytes, IsRecord bytes ∧ system.streams.flatten <:+: bytes

/-- Every operation the device handed out or will hand out is accounted for:
written back, in the chain (at most one) or still pending. -/
def Accounted (system : System) : Prop :=
  ∃ inside : List ConfigOp, inside.length ≤ 1 ∧
    requests = requests.take system.written.length ++ inside ++ system.pending

variable {table requests}

theorem oneInFlight_of {system : System} {stream bytes : List Byte} (record : IsRecord bytes)
    (piece : stream <:+: bytes) (flat : system.streams.flatten = stream)
    (one : system.streams.Pairwise fun left right => left = [] ∨ right = []) :
    OneInFlight system :=
  ⟨one, bytes, record, flat ▸ piece⟩

theorem Tracks.oneInFlight {system : System} {work : Nat}
    (tracks : Tracks table requests system work) : OneInFlight system := by
  have blank : IsRecord (ConfigOp.layout.encode ⟨0, 0, 0, 0⟩) := Or.inl ⟨_, rfl⟩
  cases tracks with
  | idle history =>
      apply oneInFlight_of blank List.nil_infix rfl
      simp [System.streams, System.resting]
  | up history transit unfinished =>
      apply oneInFlight_of (Or.inl ⟨_, rfl⟩) transit.segment
      · simp [System.streams, System.resting]
      · simp [System.streams, System.resting]
  | request history transit unfinished =>
      apply oneInFlight_of (Or.inr ⟨_, rfl⟩) transit.segment
      · simp [System.streams, System.resting]
      · simp [System.streams, System.resting]
  | reply history settled transit unfinished =>
      apply oneInFlight_of (Or.inr ⟨_, rfl⟩) transit.segment
      · simp [System.streams, System.resting]
      · simp [System.streams, System.resting]
  | down history earlier transit unfinished =>
      apply oneInFlight_of (Or.inl ⟨_, rfl⟩) transit.segment
      · simp [System.streams, System.resting]
      · simp [System.streams, System.resting]
  | ready history earlier =>
      apply oneInFlight_of blank List.nil_infix rfl
      simp [System.streams, System.resting]

theorem length_answers {ops : List ConfigOp} {replies : List Transaction}
    (answered : replies.length = ops.length) : (answers ops replies).length = ops.length := by
  rw [answers, List.length_zipWith, answered, Nat.min_self]

/-- What has been written back, and what is still to come. -/
theorem Tracks.accounts {system : System} {work : Nat}
    (tracks : Tracks table requests system work) :
    ∃ done inside doe replies, requests = done ++ inside ++ system.pending ∧
      inside.length ≤ 1 ∧ Settled table done doe replies ∧
      system.written = answers done replies ∧ Numbered system.exchanges ∧
      done.length ≤ system.exchanges.length := by
  cases tracks with
  | @idle done pending doe replies exchanges history =>
      refine ⟨done, [], doe, replies, ?_, Nat.zero_le 1, history.settled, rfl,
        history.numbered, Nat.le_of_eq history.counted.symm⟩
      rw [List.append_nil]
      exact history.split
  | @up done pending op doe replies exchanges _ _ _ history
  | @request done pending op doe replies exchanges _ _ _ history
  | @reply done pending op doe _ replies _ exchanges _ _ _ history =>
      refine ⟨done, [op], doe, replies, ?_, Nat.le_refl 1, history.settled, rfl,
        history.numbered, Nat.le_of_eq history.counted.symm⟩
      rw [List.append_assoc]
      exact history.split
  | @down done pending op before _ replies _ exchanges _ _ _ history earlier
  | @ready done pending op before _ replies _ exchanges history earlier =>
      refine ⟨done, [op], before, replies, history.split, Nat.le_refl 1, earlier, rfl,
        history.numbered, ?_⟩
      rw [System.resting, history.counted, List.length_append]
      exact Nat.le_add_right _ _

/-- As long as an operation is not written back some process can go on. -/
theorem Tracks.enabled {system : System} {work : Nat}
    (tracks : Tracks table requests system work)
    (unwritten : system.written.length < requests.length) :
    ∃ turn next, Relay.step table system turn = some next := by
  cases tracks with
  | @idle done pending doe replies exchanges history =>
      cases pending with
      | nil =>
          have written := length_answers history.settled.length_eq
          rw [history.split, List.append_nil] at unwritten
          exact absurd unwritten (Nat.not_lt.mpr (Nat.le_of_eq written.symm))
      | cons op pending => exact ⟨.daemon 0, _, rfl⟩
  | @up _ _ _ _ _ _ rest _ _ history transit unfinished =>
      rcases transit.progress (ConfigOp.layout.length_encode _) unfinished with
        left | moved
      · cases rest with
        | nil => exact absurd rfl left
        | cons byte rest => exact ⟨.daemon 1, _, rfl⟩
      · exact ⟨.server 1, transfer_enabled moved _⟩
  | @request _ _ _ _ _ _ rest _ _ history transit unfinished =>
      rcases transit.progress (Transaction.layout.length_encode _) unfinished with
        left | moved
      · cases rest with
        | nil => exact absurd rfl left
        | cons byte rest => exact ⟨.server 1, _, rfl⟩
      · exact ⟨.emulator 1, transfer_enabled moved _⟩
  | @reply _ _ _ _ _ _ _ _ rest _ _ history settled transit unfinished =>
      rcases transit.progress (Transaction.layout.length_encode _) unfinished with
        left | moved
      · cases rest with
        | nil => exact absurd rfl left
        | cons byte rest => exact ⟨.emulator 1, _, rfl⟩
      · exact ⟨.server 1, transfer_enabled moved _⟩
  | @down _ _ _ _ _ _ _ _ rest _ _ history earlier transit unfinished =>
      rcases transit.progress (ConfigOp.layout.length_encode _) unfinished with
        left | moved
      · cases rest with
        | nil => exact absurd rfl left
        | cons byte rest => exact ⟨.server 1, _, rfl⟩
      · exact ⟨.daemon 1, transfer_enabled moved _⟩
  | ready history earlier => exact ⟨.daemon 0, _, rfl⟩

/-! ## The chain -/

variable (table requests)

/-- The relay chain is transparent.  Under every schedule of the three processes
the operations written back are, in order, those handed out with status zero and
the value of the emulator's own iteration on the bare access; the `k`-th
transaction and the reply consumed for it carry packet number `k`; at most one
record is under way; every operation is accounted for; and no schedule can go on
for ever or get stuck before all of them are written back. -/
theorem relay_transparent :
    ∃ doe replies, run table Doe.zero (requests.map directly) = .ok (doe, replies) ∧
      List.Forall₂ Succeeds requests replies ∧
      ∀ turns system, execute (step table) (System.start requests) turns = some system →
        system.written <+: List.zipWith expected requests replies ∧
        Numbered system.exchanges ∧ system.written.length ≤ system.exchanges.length ∧
        OneInFlight system ∧ Accounted requests system ∧
        turns.length ≤ requests.length * workOp ∧
        (system.written.length < requests.length →
          ∃ turn next, step table system turn = some next) := by
  rcases (settled_nil table).extend requests with ⟨doe, replies, settled⟩
  rw [List.nil_append, List.nil_append] at settled
  refine ⟨doe, replies, settled.ran, settled.succeeds, ?_⟩
  intro turns system executed
  rcases execute_tracked (Tracks table requests) (fun _ _ _ _ => Tracks.step)
      (tracks_start table requests) executed with
    ⟨left, bound, tracks⟩
  rcases tracks.accounts with
    ⟨done, inside, before, early, split, single, earlySettled, written, numbered, counted⟩
  have length : system.written.length = done.length := by
    rw [written, length_answers earlySettled.length_eq]
  refine ⟨?_, numbered, ?_, tracks.oneInFlight, ⟨inside, single, ?_⟩, ?_, tracks.enabled⟩
  · -- the replies so far are the first replies to all operations
    rcases earlySettled.extend (inside ++ system.pending) with ⟨final, more, whole⟩
    rw [← List.append_assoc, ← split] at whole
    have same := settled.ran
    rw [whole.ran] at same
    cases same
    have boundary := earlySettled.length_eq
    refine ⟨List.zipWith expected (inside ++ system.pending) more, ?_⟩
    rw [written, answers_eq_expected earlySettled.succeeds, ← List.zipWith_append boundary.symm,
      ← List.append_assoc, ← split]
  · rw [length]
    exact counted
  · rw [length, split, List.append_assoc, List.take_left, ← List.append_assoc]
  · omega

end RemoteRootport.Relay
