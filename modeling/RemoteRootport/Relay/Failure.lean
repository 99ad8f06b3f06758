import RemoteRootport.Machine.Mortality
import RemoteRootport.Relay.Stack
import RemoteRootport.Relay.Transparency

/-!
# The chain when processes die

Every call of `daemon-doe`, `thin-server` and `doe-emu` may fail, and then the
process exits; it may also be killed.  What has been written back is right whatever
dies when.  A process that waits for the other end of the TCP connection notices its
death, but both named pipes are opened for reading and writing by both sides, so a
thin server that waits for a reply never learns that the emulator is gone.
-/

namespace RemoteRootport.Relay

open RemoteRootport.Bytes
open RemoteRootport.Machine
open RemoteRootport.Wire
open RemoteRootport.DoeEmu
open RemoteRootport.Service

inductive Process where
  | daemon
  | server
  | emulator
  deriving DecidableEq, Repr

/-- The process that makes the next system call. -/
def Turn.process : Turn → Process
  | .daemon _ => .daemon
  | .server _ => .server
  | .emulator _ => .emulator

/-- The chain with the processes that still run. -/
abbrev MortalChain : Type := Mortal System Process

/-- One system call that succeeds, or the end of a process. -/
def failingStep (table : List Protocol) : MortalChain → Occurrence Turn Process →
    Option MortalChain :=
  mortalStep Turn.process (step table)

def MortalChain.start (requests : List ConfigOp) : MortalChain :=
  ⟨.start requests, {.daemon, .server, .emulator}⟩

/-- A process is in `recv` on the connection, has read everything that was sent, and
the process at the other end is gone: `recv` returns zero and the process exits.
Reads of the named pipes never return zero, since the reader itself holds the
writing end as well. -/
inductive HungUp (chain : MortalChain) : Process → Prop where
  | daemon {got : List Byte} (waiting : chain.state.daemon = .receiving got)
      (drained : chain.state.toDaemon = []) (closed : .server ∉ chain.living) :
      HungUp chain .daemon
  | server {got : List Byte} (waiting : chain.state.server = .receiving got)
      (drained : chain.state.toServer = []) (closed : .daemon ∉ chain.living) :
      HungUp chain .server

/-- The thin server waits for a reply that a dead emulator does not send, and the
daemon, if it runs, waits for the thin server. -/
structure Wedged (chain : MortalChain) : Prop where
  dead : .emulator ∉ chain.living
  alive : .server ∈ chain.living
  waiting : ∃ op req got, chain.state.server = .reading op req got
  drained : chain.state.replyPipe = []
  quiet : chain.state.toDaemon = []
  daemon : .daemon ∈ chain.living → chain.state.daemon = .receiving []

/-- Nothing happens any more unless another process is killed. -/
abbrev StuckChain (table : List Protocol) (chain : MortalChain) : Prop :=
  Stuck Turn.process (step table) HungUp chain

/-! ## Where the chain gets stuck -/

section Stuck

variable {table : List Protocol} {requests : List ConfigOp} {chain : MortalChain} {work : Nat}

/-- A chain that gets stuck has written back everything, or has lost both the daemon
and the thin server, or waits for a dead emulator. -/
theorem stuck_cases (tracks : Tracks table requests chain.state work)
    (stuck : StuckChain table chain) :
    .daemon ∈ chain.living ∧ chain.state.written.length = requests.length ∨
      .daemon ∉ chain.living ∧ .server ∉ chain.living ∨ Wedged chain := by
  rcases chain with ⟨system, living⟩
  change Tracks table requests system work at tracks
  have deaf {got : List Byte} (waiting : system.server = .receiving got)
      (drained : system.toServer = []) (closed : .daemon ∉ living) : .server ∉ living :=
    fun alive => stuck.calls .server alive (.server waiting drained closed)
  have deserted {got : List Byte} (waiting : system.daemon = .receiving got)
      (drained : system.toDaemon = []) (closed : .server ∉ living) : .daemon ∉ living :=
    fun alive => stuck.calls .daemon alive (.daemon waiting drained closed)
  cases tracks with
  | @idle done pending doe replies exchanges history =>
      by_cases alive : .daemon ∈ living
      · cases pending with
        | nil =>
            left
            refine ⟨alive, ?_⟩
            rw [history.split, List.append_nil]
            exact length_answers history.settled.length_eq
        | cons op pending => exact absurd alive (stuck.ended (.daemon 0) ⟨_, rfl⟩)
      · exact Or.inr (Or.inl ⟨alive, deaf rfl rfl alive⟩)
  | @up done pending op doe replies exchanges rest stream got history transit unfinished =>
      right
      left
      cases stream with
      | nil =>
          rcases transit.unsent (ConfigOp.layout.length_encode _) unfinished with ⟨byte, left, rfl⟩
          have dead : .daemon ∉ living := stuck.ended (.daemon 1) ⟨_, rfl⟩
          exact ⟨dead, deaf rfl rfl dead⟩
      | cons byte stream =>
          have dead : .server ∉ living :=
            stuck.ended (.server 1) (transfer_enabled (recvSome_cons unfinished byte stream) _)
          cases rest with
          | nil => exact ⟨deserted rfl rfl dead, dead⟩
          | cons byte rest => exact ⟨stuck.ended (.daemon 1) ⟨_, rfl⟩, dead⟩
  | @request done pending op doe replies exchanges rest stream got history transit unfinished =>
      right
      by_cases alive : .server ∈ living
      · right
        cases rest with
        | cons byte rest => exact absurd alive (stuck.ended (.server 1) ⟨_, rfl⟩)
        | nil =>
            cases stream with
            | nil =>
                rcases transit.unsent (Transaction.layout.length_encode _) unfinished with
                  ⟨_, _, impossible⟩
                cases impossible
            | cons byte stream =>
                have dead : .emulator ∉ living := stuck.ended (.emulator 1)
                  (transfer_enabled (recvSome_cons unfinished byte stream) _)
                exact ⟨dead, alive, ⟨_, _, _, rfl⟩, rfl, rfl, fun _ => rfl⟩
      · exact Or.inl ⟨deserted rfl rfl alive, alive⟩
  | @reply done pending op doe next replies rsp exchanges rest stream got history settled transit
      unfinished =>
      right
      by_cases alive : .server ∈ living
      · right
        cases stream with
        | cons byte stream =>
            exact absurd alive (stuck.ended (.server 1)
              (transfer_enabled (recvSome_cons unfinished byte stream) _))
        | nil =>
            rcases transit.unsent (Transaction.layout.length_encode _) unfinished with
              ⟨byte, left, rfl⟩
            have dead : .emulator ∉ living := stuck.ended (.emulator 1) ⟨_, rfl⟩
            exact ⟨dead, alive, ⟨_, _, _, rfl⟩, rfl, rfl, fun _ => rfl⟩
      · exact Or.inl ⟨deserted rfl rfl alive, alive⟩
  | @down done pending op before doe replies rsp exchanges rest stream got history earlier transit
      unfinished =>
      right
      left
      cases stream with
      | nil =>
          rcases transit.unsent (ConfigOp.layout.length_encode _) unfinished with ⟨byte, left, rfl⟩
          have dead : .server ∉ living := stuck.ended (.server 1) ⟨_, rfl⟩
          exact ⟨deserted rfl rfl dead, dead⟩
      | cons byte stream =>
          have dead : .daemon ∉ living :=
            stuck.ended (.daemon 1) (transfer_enabled (recvSome_cons unfinished byte stream) _)
          cases rest with
          | nil => exact ⟨dead, deaf rfl rfl dead⟩
          | cons byte rest => exact ⟨dead, stuck.ended (.server 1) ⟨_, rfl⟩⟩
  | @ready done pending op before doe replies rsp exchanges history earlier =>
      have dead : .daemon ∉ living := stuck.ended (.daemon 0) ⟨_, rfl⟩
      exact Or.inr (Or.inl ⟨dead, deaf rfl rfl dead⟩)

/-- Nobody notices that the emulator is gone. -/
theorem Wedged.stuck (wedged : Wedged chain) : StuckChain table chain := by
  rcases wedged with ⟨dead, alive, ⟨op, req, got, waiting⟩, drained, quiet, daemon⟩
  constructor
  · intro turn running
    cases turn with
    | daemon count =>
        change daemonStep chain.state count = none
        rw [daemonStep, daemon running, quiet]
        simp only [recvSome_nil, Option.map_none]
    | server count =>
        change serverStep chain.state count = none
        rw [serverStep, waiting, drained]
        simp only [recvSome_nil, Option.map_none]
    | emulator count => exact absurd running dead
  · intro process running hungUp
    cases hungUp with
    | daemon _ _ closed => exact closed alive
    | server receiving =>
        rw [waiting] at receiving
        cases receiving

end Stuck

variable (table : List Protocol)

/-- The chain when processes die.  Whatever process dies at whatever point, the
operations written back are, in order, those the device completes; a schedule does
not go on for ever; and where it gets stuck everything has been written back, or
daemon and thin server are both gone, or a dead emulator is being waited for.  In the
last case the chain stays stuck: no call of a running process will ever return. -/
theorem chain_survives (requests : List ConfigOp) {occurrences : List (Occurrence Turn Process)}
    {chain : MortalChain}
    (executed : execute (failingStep table) (.start requests) occurrences = some chain) :
    chain.state.written <+: completions table .unlocated requests ∧
      occurrences.length ≤ requests.length * jobWork (stackServing table) + 3 ∧
      (StuckChain table chain →
        .daemon ∈ chain.living ∧ chain.state.written = completions table .unlocated requests ∨
          .daemon ∉ chain.living ∧ .server ∉ chain.living ∨ Wedged chain) ∧
      (Wedged chain → StuckChain table chain) := by
  rcases execute_actions executed with ⟨acted, counted⟩
  rcases execute_written table requests acted with ⟨written, bounded⟩
  rcases execute_tracked (Tracks table requests) (fun _ _ _ _ tracks stepped => tracks.step stepped)
      (tracks_start table requests) acted with ⟨work, -, tracks⟩
  refine ⟨written, ?_, ?_, fun wedged => wedged.stuck⟩
  · have three : (MortalChain.start requests).living.card = 3 := rfl
    rw [three] at counted
    omega
  · intro stuck
    rcases stuck_cases tracks stuck with ⟨alive, length⟩ | others
    · left
      refine ⟨alive, written.eq_of_length ?_⟩
      rw [length, length_completions]
    · exact Or.inr others

/-- The emulator dies before it reads the transaction. -/
def orphanedRead : List (Occurrence Turn Process) :=
  [.act (.daemon 0), .act (.daemon 16), .act (.server 16), .act (.server 344), .exit .emulator]

/-- Then the read is never completed, though nobody else dies. -/
theorem chain_survives_orphanedRead :
    ∃ chain, execute (failingStep protocols) (.start [pollOp]) orphanedRead = some chain ∧
      chain.living = {.daemon, .server} ∧ StuckChain protocols chain ∧ chain.state.written = [] := by
  have ran : (execute (failingStep protocols) (.start [pollOp]) orphanedRead).map (fun chain =>
      (chain.living, chain.state.server.view, chain.state.daemon, chain.state.written,
        chain.state.replyPipe ++ chain.state.toDaemon)) =
      some ({.daemon, .server}, .exchanging pollOp (.awaiting []), .receiving [], [], []) := by
    decide +kernel
  rcases Option.map_eq_some_iff.mp ran with ⟨chain, executed, seen⟩
  simp only [Prod.mk.injEq, List.append_eq_nil_iff] at seen
  rcases seen with ⟨living, server, daemon, written, drained, quiet⟩
  have wedged : Wedged chain := by
    refine ⟨?_, ?_, ?_, drained, quiet, fun _ => daemon⟩
    · rw [living]
      decide
    · rw [living]
      decide
    · cases waiting : chain.state.server with
      | reading op req got => exact ⟨op, req, got, rfl⟩
      | receiving | writing | sending =>
          rw [waiting] at server
          cases server
  exact ⟨chain, executed, living, (chain_survives protocols [pollOp] executed).2.2.2 wedged, written⟩

end RemoteRootport.Relay
