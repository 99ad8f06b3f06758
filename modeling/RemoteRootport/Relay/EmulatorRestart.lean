import RemoteRootport.Relay.Stack
import RemoteRootport.Relay.Transparency

/-!
# Restarting the emulator

`doe-emu` may be killed and started again while the rest of the chain runs.  The thin
server holds both named pipes open, so what is in them stays, but what the emulator has
read and not answered is lost, and so are the mailbox and the place of the capability.
Between two records the chain goes on with a fresh device for the operations that had
not been answered.  In the middle of one it waits for ever.
-/

namespace RemoteRootport.Relay

open RemoteRootport.Bytes
open RemoteRootport.Machine
open RemoteRootport.Wire
open RemoteRootport.DoeEmu
open RemoteRootport.Service

/-- `doe-emu` has been killed and started again. -/
def System.restartEmulator (system : System) : System :=
  { system with emulator := .reading [], doe := Doe.zero }

variable (table : List Protocol)

/-- The first operations completed by one device and the rest by a fresh one. -/
def completionsAcross (requests : List ConfigOp) (replies : Nat) : List ConfigOp :=
  completions table .unlocated (requests.take replies) ++
    completions table .unlocated (requests.drop replies)

theorem completionsAcross_append (first second : List ConfigOp) :
    completionsAcross table (first ++ second) first.length =
      completions table .unlocated first ++ completions table .unlocated second := by
  rw [completionsAcross, List.take_left, List.drop_left]

/-! ## Counting replies -/

/-- One for a step in which the emulator turns from a transaction to its reply. -/
def replied (before after : System) : Nat :=
  match before.emulator, after.emulator with
  | .reading _, .writing _ => 1
  | _, _ => 0

/-- How many transactions the emulator answers in a schedule. -/
def repliesIn : System → List Turn → Nat
  | _, [] => 0
  | system, turn :: rest =>
      match step table system turn with
      | none => 0
      | some next => replied system next + repliesIn next rest

/-- What `xread` has of a reply. -/
def Server.replyGot : Server → List Byte
  | .reading _ _ got => got
  | _ => []

/-- What `pipe_write` has left of a reply. -/
def Emulator.replyRest : Emulator → List Byte
  | .writing rest => rest
  | _ => []

/-- The size of all replies so far, wherever their bytes are. -/
def System.replyBytes (system : System) : Nat :=
  system.exchanges.length * Transaction.layout.size + system.server.replyGot.length +
    system.replyPipe.length + system.emulator.replyRest.length

theorem Server.replyGot_wrote (op : ConfigOp) (req : Transaction) (rest : List Byte) :
    (Server.wrote op req rest).replyGot = [] := by
  cases rest with
  | nil => rfl
  | cons byte rest => rfl

theorem Server.replyGot_sent (rest : List Byte) : (Server.sent rest).replyGot = [] := by
  cases rest with
  | nil => rfl
  | cons byte rest => rfl

theorem Emulator.replyRest_wrote (rest : List Byte) : (Emulator.wrote rest).replyRest = rest := by
  cases rest with
  | nil => rfl
  | cons byte rest => rfl

theorem replied_of_same {before after : System} (same : after.emulator = before.emulator) :
    replied before after = 0 := by
  rw [replied, same]
  cases before.emulator <;> rfl

theorem replied_of_writing {before after : System} {rest : List Byte}
    (writing : before.emulator = .writing rest) : replied before after = 0 := by
  rw [replied, writing]

section Replies

variable {table} {system next : System} {count : Nat}

theorem replyBytes_daemonStep (stepped : daemonStep system count = some next) :
    next.emulator = system.emulator ∧ next.replyBytes = system.replyBytes := by
  rw [daemonStep] at stepped
  split at stepped
  case h_1 =>
      split at stepped
      case h_1 => cases stepped
      case h_2 =>
          cases stepped
          exact ⟨rfl, rfl⟩
  case h_2 | h_3 =>
      rcases Option.map_eq_some_iff.mp stepped with ⟨pieces, -, rfl⟩
      exact ⟨rfl, rfl⟩
  case h_4 =>
      cases stepped
      exact ⟨rfl, rfl⟩

/-- The thin server moves the bytes of replies and makes exchanges of them. -/
theorem replyBytes_serverStep (stepped : serverStep system count = some next) :
    next.emulator = system.emulator ∧ next.replyBytes = system.replyBytes := by
  rcases system with ⟨pending, daemon, toServer, server, seq, requestPipe, replyPipe, emulator, doe,
    toDaemon, written, exchanges⟩
  cases server with
  | receiving got =>
      rcases Option.map_eq_some_iff.mp stepped with ⟨pieces, -, rfl⟩
      change (serverReceived _ pieces.1).emulator = _ ∧ (serverReceived _ pieces.1).replyBytes = _
      rw [serverReceived]
      split
      case isTrue => exact ⟨rfl, rfl⟩
      case isFalse => exact ⟨rfl, rfl⟩
  | writing op req rest =>
      rcases Option.map_eq_some_iff.mp stepped with ⟨pieces, -, rfl⟩
      refine ⟨rfl, ?_⟩
      rw [System.replyBytes, Server.replyGot_wrote]
      rfl
  | reading op req got =>
      rcases Option.map_eq_some_iff.mp stepped with ⟨pieces, received, rfl⟩
      rcases recvSome_eq_some received with ⟨positive, bound, fits, rfl⟩
      change count ≤ replyPipe.length at bound
      have longer := length_append_take got bound
      change (serverReplied _ op req (got ++ replyPipe.take count)).emulator = _ ∧
        (serverReplied _ op req (got ++ replyPipe.take count)).replyBytes = _
      rw [serverReplied]
      split
      case isTrue full =>
          refine ⟨rfl, ?_⟩
          simp only [System.replyBytes, Server.replyGot, List.length_append, List.length_nil,
            List.length_drop, List.length_singleton, Nat.succ_mul]
          omega
      case isFalse =>
          refine ⟨rfl, ?_⟩
          simp only [System.replyBytes, Server.replyGot, longer, List.length_drop]
          omega
  | sending rest =>
      rcases Option.map_eq_some_iff.mp stepped with ⟨pieces, -, rfl⟩
      refine ⟨rfl, ?_⟩
      rw [System.replyBytes, Server.replyGot_sent]
      rfl

/-- The emulator adds a whole reply for every transaction it answers. -/
theorem replyBytes_emulatorStep (stepped : emulatorStep table system count = some next) :
    next.replyBytes = system.replyBytes + replied system next * Transaction.layout.size := by
  rcases system with ⟨pending, daemon, toServer, server, seq, requestPipe, replyPipe, emulator, doe,
    toDaemon, written, exchanges⟩
  cases emulator with
  | reading got =>
      rcases Option.map_eq_some_iff.mp stepped with ⟨pieces, -, rfl⟩
      change (emulatorReceived table _ pieces.1).replyBytes =
        _ + replied _ (emulatorReceived table _ pieces.1) * _
      rw [emulatorReceived]
      split
      case isTrue =>
          split
          case h_1 doe' rsp _ =>
              simp only [System.replyBytes, Emulator.replyRest, replied,
                Transaction.layout.length_encode, List.length_nil, Nat.one_mul, Nat.add_zero]
          case h_2 =>
              simp only [System.replyBytes, Emulator.replyRest, replied, Nat.zero_mul, Nat.add_zero]
      case isFalse =>
          simp only [System.replyBytes, Emulator.replyRest, replied, Nat.zero_mul, Nat.add_zero]
  | writing rest =>
      rcases Option.map_eq_some_iff.mp stepped with ⟨pieces, sent, rfl⟩
      rcases sendSome_eq_some sent with ⟨positive, bound, rfl⟩
      change count ≤ rest.length at bound
      have moved : (replyPipe ++ rest.take count).length + (rest.drop count).length =
          replyPipe.length + rest.length := by
        rw [List.length_append, List.length_take, List.length_drop]
        omega
      rw [replied_of_writing rfl, Nat.zero_mul, Nat.add_zero, System.replyBytes,
        Emulator.replyRest_wrote, Nat.add_assoc, moved, ← Nat.add_assoc]
      rfl
  | stopped => cases stepped

theorem replyBytes_step {turn : Turn} (stepped : step table system turn = some next) :
    next.replyBytes = system.replyBytes + replied system next * Transaction.layout.size := by
  cases turn with
  | daemon count =>
      rcases replyBytes_daemonStep stepped with ⟨same, bytes⟩
      rw [replied_of_same same, bytes, Nat.zero_mul, Nat.add_zero]
  | server count =>
      rcases replyBytes_serverStep stepped with ⟨same, bytes⟩
      rw [replied_of_same same, bytes, Nat.zero_mul, Nat.add_zero]
  | emulator count => exact replyBytes_emulatorStep stepped

/-- All bytes of the replies are accounted for in every schedule. -/
theorem replyBytes_execute {turns : List Turn} {final : System}
    (executed : execute (step table) system turns = some final) :
    final.replyBytes =
      system.replyBytes + repliesIn table system turns * Transaction.layout.size := by
  induction turns generalizing system with
  | nil =>
      cases executed
      rw [repliesIn, Nat.zero_mul, Nat.add_zero]
  | cons turn rest ih =>
      rcases execute_cons executed with ⟨next, stepped, continued⟩
      rw [ih continued, replyBytes_step stepped, repliesIn, stepped, Nat.add_mul, Nat.add_assoc]

theorem replyBytes_start {requests : List ConfigOp} {turns : List Turn} {final : System}
    (executed : execute (step table) (System.start requests) turns = some final) :
    final.replyBytes = repliesIn table (System.start requests) turns * Transaction.layout.size := by
  have none : (System.start requests).replyBytes = 0 := by
    simp only [System.replyBytes, System.start, System.resting, Server.replyGot,
      Emulator.replyRest, List.length_nil, Nat.zero_mul]
  rw [replyBytes_execute executed, none, Nat.zero_add]

/-- Where no reply is under way all of them are in the exchanges. -/
theorem replies_of_quiet {replies : Nat}
    (bytes : system.replyBytes = replies * Transaction.layout.size)
    (got : system.server.replyGot = []) (pipe : system.replyPipe = [])
    (rest : system.emulator.replyRest = []) : replies = system.exchanges.length := by
  rw [System.replyBytes, got, pipe, rest, List.length_nil, Nat.add_zero] at bytes
  exact Nat.eq_of_mul_eq_mul_right (by decide) bytes.symm

/-- Where a reply is under way it is the one that is not in the exchanges yet. -/
theorem replies_of_underway {replies : Nat}
    (bytes : system.replyBytes = replies * Transaction.layout.size)
    (underway : system.server.replyGot.length + system.replyPipe.length +
      system.emulator.replyRest.length = Transaction.layout.size) :
    replies = system.exchanges.length + 1 := by
  apply Nat.eq_of_mul_eq_mul_right (by decide : 0 < Transaction.layout.size)
  rw [← bytes, System.replyBytes, Nat.succ_mul]
  omega

end Replies

/-! ## What was settled before -/

/-- The replies to bare accesses complete the operations as the device does. -/
theorem answers_values (device : Device) (ops : List ConfigOp) :
    answers ops (List.zipWith replyWith (ops.map directly)
      (device.values table (ops.map directly))) = completions table device ops := by
  induction ops generalizing device with
  | nil => rfl
  | cons op rest ih =>
      have served : (_, complete op (replyWith (directly op) _)) = _ :=
        complete_serve table device rfl (offsetOf_translate 0 op)
          (Transaction.firstDword_setFirstDword _ _)
      rw [List.map_cons, Device.values_cons, List.zipWith_cons_cons, answers,
        List.zipWith_cons_cons]
      change _ = (operate table device op).2 :: completions table (operate table device op).1 rest
      rw [← served, ← ih]
      rfl

theorem served_directly (ops : List ConfigOp) : served (ops.map directly) = ops.map directly := by
  induction ops with
  | nil => rfl
  | cons op rest ih => rw [List.map_cons, served_running _ (quits_directly op), ih]

section Settled

variable {table}

theorem Settled.answers_eq {ops : List ConfigOp} {doe : Doe} {replies : List Transaction}
    (settled : Settled table ops doe replies) :
    answers ops replies = completions table .unlocated ops := by
  rcases run_refines_device table (ops.map directly) with ⟨_, ran, -⟩
  rw [settled.ran, served_directly] at ran
  cases ran
  exact answers_values table .unlocated ops

/-- The operations with a reply are completed by one device, the others by a fresh
one. -/
theorem History.completionsAcross_eq {requests done rest : List ConfigOp} {doe : Doe}
    {earlier : List Transaction} {exchanges : List (Transaction × Transaction)}
    (history : History table requests done rest doe earlier exchanges) {replies : Nat}
    (counted : replies = exchanges.length) :
    completionsAcross table requests replies =
      answers done earlier ++ completions table .unlocated rest := by
  rw [counted, history.counted, history.split, completionsAcross_append,
    ← history.settled.answers_eq]

end Settled

/-! ## Between two records -/

/-- A client of the stack gets the completions of the device it stands for. -/
theorem converse_embodies {doe : Doe} {device : Device} (embodies : Embodies doe device)
    (seq : Dword) (ops : List ConfigOp) :
    converse chardevDaemon (thinServer.over (emulate table)) () (seq, doe) ops =
      some (completions table device ops) :=
  (converse_of_simulates chardevDaemon (stack_simulates table) embodies () ops).trans
    (converse_chardev (operate table) device ops)

/-- The emulator has just been started and nothing is in the pipes. -/
theorem fresh_idle :
    Idle (responding transactions allCalls (emulate table)) Doe.zero
      ⟨⟨.receiving [], Doe.zero⟩, [], []⟩ :=
  ⟨rfl, rfl, .receiving⟩

/-- The emulator answers the transaction for an operation as the device does. -/
theorem emulate_translate {doe : Doe} {device : Device} (embodies : Embodies doe device)
    (seq : Dword) (op : ConfigOp) :
    ∃ result, emulate table doe (translate seq op) = some result ∧
      complete op result.2 = (operate table device op).2 ∧
      Embodies result.1 (operate table device op).1 := by
  rcases runStep_embodies table embodies (quits_translate seq op) with ⟨next, stepped, related⟩
  have completed : (_, complete op (replyWith (translate seq op) _)) = _ :=
    complete_serve table device rfl (offsetOf_translate seq op)
      (Transaction.firstDword_setFirstDword _ _)
  rw [← completed]
  exact ⟨_, emulate_of_runStep stepped, rfl, related⟩

variable {table} {requests : List ConfigOp} {system : System} {work : Nat}

/-- An exchange under way leads to its answer and to what the device completes behind
it. -/
theorem converses_exchanging {answer : (Dword × Doe) × ConfigOp} {device : Device}
    {asker : Asker} {port : Port StackPoint}
    (underway : Underway (stackServing table) answer asker port work)
    (embodies : Embodies answer.1.2 device) (delivered pending : List ConfigOp) :
    ∃ bound, Converses chardevDaemon (stackServing table)
      (delivered ++ answer.2 :: completions table device pending)
      ⟨pending, .exchanging asker, (), port, delivered⟩ bound :=
  ⟨_, .exchanging underway (converse_embodies table embodies answer.1.1 pending) rfl⟩

/-- Restarted between two records, the chain is on the way to what a fresh device
completes of the operations that had no reply. -/
theorem restart_converses (tracks : Tracks table requests system work)
    (between : system.emulator = .reading []) {replies : Nat}
    (bytes : system.replyBytes = replies * Transaction.layout.size) :
    ∃ bound, Converses chardevDaemon (stackServing table)
      (completionsAcross table requests replies) system.restartEmulator.view bound := by
  cases tracks with
  | @idle done pending doe earlier exchanges history =>
      refine ⟨pending.length * jobWork (stackServing table), ?_⟩
      rw [history.completionsAcross_eq (replies_of_quiet bytes rfl rfl rfl)]
      exact .idle (idle_relaying operations (fresh_idle table))
        (converse_embodies table embodies_zero _ pending) rfl
  | @up done pending op doe earlier exchanges rest stream got history transit unfinished =>
      rcases emulate_translate table embodies_zero (BitVec.ofNat 32 done.length + 1) op with
        ⟨result, answered, completed, related⟩
      have served : thinServer.over (emulate table) (BitVec.ofNat 32 done.length, Doe.zero) op =
          some ((BitVec.ofNat 32 done.length + 1, result.1), complete op result.2) := by
        change (emulate table Doe.zero (translate _ op)).map _ = _
        rw [answered]
        rfl
      have underway : Underway (stackServing table) _ _ _ _ :=
        .asking served transit unfinished (.receiving (fresh_idle table))
      rcases converses_exchanging underway related (answers done earlier) pending with
        ⟨bound, converses⟩
      refine ⟨bound, ?_⟩
      rw [history.completionsAcross_eq (replies_of_quiet bytes rfl rfl rfl)]
      rw [completed, ← Daemon.view_sent] at converses
      exact converses
  | @request done pending op doe earlier exchanges rest stream got history transit unfinished =>
      cases between
      rcases emulate_translate table embodies_zero (nextNumber done) op with
        ⟨result, answered, completed, related⟩
      have asking : Underway (responding transactions allCalls (emulate table)) result _ _ _ :=
        .asking answered transit unfinished .receiving
      have underway : Underway (stackServing table)
          ((nextNumber done, result.1), complete op result.2) _ _ _ :=
        .working (.working asking)
      rcases converses_exchanging underway related (answers done earlier) pending with
        ⟨bound, converses⟩
      have none := replies_of_quiet bytes (Server.replyGot_wrote _ _ rest) rfl rfl
      refine ⟨bound, ?_⟩
      rw [history.completionsAcross_eq none]
      rw [completed, ← Server.view_wrote op (translate (nextNumber done) op)] at converses
      exact converses
  | @reply done pending op doe next earlier rsp exchanges rest stream got history settled transit
      unfinished =>
      have sent : rest = [] := by
        cases rest with
        | nil => rfl
        | cons byte rest => cases between
      subst sent
      have answering : Underway (responding transactions allCalls (emulate table))
          (Doe.zero, relabel (nextNumber done) 1 1 rsp) _ _ _ :=
        .answering transit unfinished .receiving
      have underway : Underway (stackServing table)
          ((nextNumber done, Doe.zero), complete op rsp) _ _ _ :=
        .working (.working answering)
      rcases converses_exchanging underway embodies_zero (answers done earlier) pending with
        ⟨bound, converses⟩
      have one : replies = (done ++ [op]).length := by
        have length := transit.length
        rw [Transaction.layout.length_encode] at length
        rw [replies_of_underway bytes length, List.length_append]
        exact congrArg Nat.succ history.counted
      refine ⟨bound, ?_⟩
      rw [one, history.split, List.append_cons, completionsAcross_append, ← settled.answers_eq,
        answers_snoc history.settled.length_eq, List.append_assoc]
      exact converses
  | @down done pending op before doe replied rsp exchanges rest stream got history earlier transit
      unfinished =>
      have runs : (stackServing table).Runs
          ⟨RelayStage.sent rest, nextNumber done, ⟨⟨.receiving [], Doe.zero⟩, [], []⟩⟩
          (.sent (nextNumber done, Doe.zero) rest) := by
        cases rest with
        | nil => exact .receiving (fresh_idle table)
        | cons byte rest => exact .sending (fresh_idle table)
      have underway : Underway (stackServing table)
          ((nextNumber done, Doe.zero), complete op rsp) _ _ _ :=
        .answering transit unfinished runs
      rcases converses_exchanging underway embodies_zero (answers done replied) pending with
        ⟨bound, converses⟩
      have all := replies_of_quiet bytes (Server.replyGot_sent rest) rfl rfl
      refine ⟨bound, ?_⟩
      rw [history.completionsAcross_eq all, answers_snoc earlier.length_eq, List.append_assoc]
      rw [← Server.view_sent] at converses
      exact converses
  | @ready done pending op before doe replied rsp exchanges history earlier =>
      refine ⟨pending.length * jobWork (stackServing table) + 1, ?_⟩
      rw [history.completionsAcross_eq (replies_of_quiet bytes rfl rfl rfl),
        answers_snoc earlier.length_eq, List.append_assoc]
      exact .delivering (idle_relaying operations (fresh_idle table))
        (converse_embodies table embodies_zero _ pending) rfl

/-! ## In the middle of a record -/

/-- The thin server waits for a reply that will never be complete: the emulator waits
for a transaction of which too little is left, or it has forgotten that it owes the
rest of a reply. -/
inductive Starved (written : List ConfigOp) (system : System) : Prop where
  | request {op : ConfigOp} {req : Transaction} {rest got : List Byte}
      (daemon : system.daemon = .receiving []) (quiet : system.toDaemon = [])
      (server : system.server = .wrote op req rest) (emulator : system.emulator = .reading got)
      (owed : system.replyPipe = [])
      (short : rest.length + system.requestPipe.length + got.length < Transaction.layout.size)
      (same : system.written = written)
  | reply {op : ConfigOp} {req : Transaction} {got : List Byte}
      (daemon : system.daemon = .receiving []) (quiet : system.toDaemon = [])
      (server : system.server = .reading op req got) (emulator : system.emulator = .reading [])
      (idle : system.requestPipe = [])
      (short : got.length + system.replyPipe.length < Transaction.layout.size)
      (same : system.written = written)

section Starved

variable {written : List ConfigOp} {next : System}

theorem Starved.written_eq (starved : Starved written system) : system.written = written := by
  cases starved with
  | request _ _ _ _ _ _ same => exact same
  | reply _ _ _ _ _ _ same => exact same

theorem Starved.step (starved : Starved written system) {turn : Turn}
    (stepped : step table system turn = some next) : Starved written next := by
  rcases system with ⟨pending, daemon, toServer, server, seq, requestPipe, replyPipe, emulator, doe,
    toDaemon, done, exchanges⟩
  cases starved with
  | @request op req rest got waits quiet serving reading owed short same =>
      simp only at waits quiet serving reading owed short same
      subst waits quiet serving reading owed
      cases turn with
      | daemon count => exact (recv_blocked stepped).elim
      | server count =>
          cases rest with
          | nil => exact (recv_blocked stepped).elim
          | cons byte rest =>
              rcases Option.map_eq_some_iff.mp stepped with ⟨left, sent, rfl⟩
              rcases sendSome_eq_some sent with ⟨positive, bound, rfl⟩
              refine .request rfl rfl rfl rfl rfl ?_ same
              simp only [List.length_drop, List.length_append, List.length_take] at short ⊢
              omega
      | emulator count =>
          rcases Option.map_eq_some_iff.mp stepped with ⟨left, received, rfl⟩
          rcases recvSome_eq_some received with ⟨positive, bound, fits, rfl⟩
          change count ≤ requestPipe.length at bound
          have longer := length_append_take got bound
          change Starved written (emulatorReceived table _ (got ++ requestPipe.take count))
          rw [emulatorReceived, if_neg (by omega)]
          refine .request rfl rfl rfl rfl rfl ?_ same
          simp only [List.length_drop, longer]
          omega
  | @reply op req got waits quiet serving reading idle short same =>
      simp only at waits quiet serving reading idle short same
      subst waits quiet serving reading idle
      cases turn with
      | daemon count => exact (recv_blocked stepped).elim
      | server count =>
          rcases Option.map_eq_some_iff.mp stepped with ⟨left, received, rfl⟩
          rcases recvSome_eq_some received with ⟨positive, bound, fits, rfl⟩
          change count ≤ replyPipe.length at bound
          have longer := length_append_take got bound
          change Starved written (serverReplied _ op req (got ++ replyPipe.take count))
          rw [serverReplied, if_neg (by omega)]
          refine .reply rfl rfl rfl rfl rfl ?_ same
          simp only [List.length_drop, longer]
          omega
      | emulator count => exact (recv_blocked stepped).elim

/-- Restarted in the middle of a record, the chain starves, with an operation that has
not been written back. -/
theorem restart_starves (tracks : Tracks table requests system work)
    (middle : system.emulator ≠ .reading []) :
    Starved system.written system.restartEmulator ∧ system.written.length < requests.length := by
  cases tracks with
  | idle | up | down | ready => exact absurd rfl middle
  | @request done pending op doe replies exchanges rest stream got history transit unfinished =>
      have begun : got ≠ [] := fun nothing => middle (congrArg Emulator.reading nothing)
      have length := transit.length
      have lost := List.length_pos_iff.mpr begun
      rw [Transaction.layout.length_encode] at length
      constructor
      · refine .request rfl rfl rfl rfl rfl ?_ rfl
        change rest.length + stream.length + 0 < _
        omega
      · change (answers done replies).length < _
        rw [length_answers history.settled.length_eq, history.split, List.length_append,
          List.length_cons]
        omega
  | @reply done pending op doe next replies rsp exchanges rest stream got history settled transit
      unfinished =>
      have unsent : rest ≠ [] := by
        intro sent
        subst sent
        exact middle rfl
      have length := transit.length
      have lost := List.length_pos_iff.mpr unsent
      rw [Transaction.layout.length_encode] at length
      constructor
      · refine .reply rfl rfl rfl rfl rfl ?_ rfl
        change got.length + stream.length < _
        omega
      · change (answers done replies).length < _
        rw [length_answers history.settled.length_eq, history.split, List.length_append,
          List.length_cons]
        omega

end Starved

/-! ## The emulator and the chain -/

/-- The emulator can be restarted between two records and not otherwise.  Between two
records, every schedule from there on writes back what one device completes of the
operations the emulator has answered and a fresh one of all others, can go on until all
of it is written back, and ends.  In the middle of a record the operation under way, and
with it all others, is never written back. -/
theorem emulator_restart {turns : List Turn}
    (executed : execute (step table) (System.start requests) turns = some system) :
    (system.emulator = .reading [] →
      let replies := repliesIn table (System.start requests) turns
      ∃ bound, ∀ later final, execute (step table) system.restartEmulator later = some final →
        final.written <+: completionsAcross table requests replies ∧ later.length ≤ bound ∧
          (final.written ≠ completionsAcross table requests replies →
            ∃ turn next, step table final turn = some next)) ∧
    (system.emulator ≠ .reading [] →
      ∀ later final, execute (step table) system.restartEmulator later = some final →
        final.written = system.written ∧ final.written.length < requests.length) := by
  rcases execute_tracked (Tracks table requests) (fun _ _ _ _ tracks stepped => tracks.step stepped)
      (tracks_start table requests) executed with ⟨work, -, tracks⟩
  constructor
  · intro between
    rcases restart_converses tracks between (replyBytes_start executed) with ⟨bound, converses⟩
    refine ⟨bound, ?_⟩
    intro later final resumed
    rcases execute_tracked (Converses chardevDaemon (stackServing table) _)
        (fun _ _ _ _ => Converses.turn) converses
        (execute_map System.view Turn.view (view_step table) resumed) with ⟨left, counted, onward⟩
    rw [List.length_map] at counted
    exact ⟨onward.delivered_prefix, by omega,
      fun missing => enabled_of_view table (onward.enabled allCalls missing)⟩
  · intro middle later final resumed
    rcases restart_starves tracks middle with ⟨starved, missing⟩
    have same := (execute_invariant (Starved system.written)
      (fun _ _ _ starving stepped => starving.step stepped) starved resumed).written_eq
    rw [same]
    exact ⟨rfl, missing⟩

/-- A poll, a start without a request, which is an error, and another poll. -/
def errorOps : List ConfigOp :=
  [⟨0x14, 0x19c, 0, 0⟩, ⟨averyOpWrite, 0x198, doeCtrlGo, 0⟩, ⟨0x14, 0x19c, 0, 0⟩]

/-- The first poll on its way through the chain, until the emulator has answered it. -/
def pollAnswered : List Turn :=
  [.daemon 0, .daemon 16, .server 16, .server 344, .emulator 344, .emulator 344]

/-- Restarted after its first reply, the emulator has forgotten where it is: the start is
lost and the second poll shows no error.  Restarted when it has read a hundred bytes, it
leaves the first poll unanswered. -/
theorem emulator_restart_error :
    (∃ system, execute (step protocols) (System.start errorOps) pollAnswered = some system ∧
      ∀ later final, execute (step protocols) system.restartEmulator later = some final →
        final.written <+:
          [⟨0x14, 0x19c, 0, 0⟩, ⟨averyOpWrite, 0x198, 0, 0⟩, ⟨0x14, 0x19c, 0, 0⟩]) ∧
    ∃ system, execute (step protocols) (System.start errorOps)
        (pollAnswered.take 4 ++ [.emulator 100]) = some system ∧
      ∀ later final, execute (step protocols) system.restartEmulator later = some final →
        final.written = [] := by
  constructor
  · have ran : (execute (step protocols) (System.start errorOps) pollAnswered).map
        (fun system => (system.emulator, system.replyBytes)) =
          some (.reading [], 1 * Transaction.layout.size) := by
      decide +kernel
    rcases Option.map_eq_some_iff.mp ran with ⟨system, executed, seen⟩
    simp only [Prod.mk.injEq] at seen
    have bytes := replyBytes_start executed
    rw [seen.2] at bytes
    have replies := Nat.eq_of_mul_eq_mul_right (by decide) bytes
    rcases (emulator_restart executed).1 seen.1 with ⟨bound, resumes⟩
    refine ⟨system, executed, ?_⟩
    intro later final resumed
    have written := (resumes later final resumed).1
    rw [← replies] at written
    exact written
  · have ran : (execute (step protocols) (System.start errorOps)
        (pollAnswered.take 4 ++ [.emulator 100])).map
          (fun system => (decide (system.emulator = .reading []), system.written)) =
        some (false, []) := by
      decide +kernel
    rcases Option.map_eq_some_iff.mp ran with ⟨system, executed, seen⟩
    simp only [Prod.mk.injEq, decide_eq_false_iff_not] at seen
    refine ⟨system, executed, ?_⟩
    intro later final resumed
    rw [((emulator_restart executed).2 seen.1 later final resumed).1]
    exact seen.2

end RemoteRootport.Relay
