import Mathlib.Data.List.Basic
import RemoteRootport.Machine.Schedule

/-!
# Bringing up the relay

What the three processes of the relay do before they enter their loops, as far as
they depend on each other.  `thin-server` creates the named pipes, opens them, binds,
listens and waits for a connection; `doe-emu` opens the pipes and exits if one of
them does not exist; a daemon connects and exits if nobody listens.  A script starts
the processes and waits for what its probes look at; scripts and processes run at
the same time.
-/

namespace RemoteRootport.Launch

open RemoteRootport.Machine

/-! ## Processes -/

inductive Service where
  | daemon
  | thinServer
  | doeEmu
  deriving DecidableEq, Repr

/-- Where `daemon-doe` or `daemon-doe-netlink` is: before, in or behind
`connect_remote`. -/
inductive Daemon where
  | unstarted
  | connecting
  | serving
  | exited
  deriving DecidableEq, Repr

/-- The next call of `main` of `thin-server`. -/
inductive ThinServer where
  | unstarted
  | creatingRequest
  | creatingReply
  | openingRequest
  | openingReply
  | binding
  | listening
  | accepting
  | serving
  | exited
  deriving DecidableEq, Repr

/-- The next call of `open_pipes` of `doe-emu`. -/
inductive DoeEmu where
  | unstarted
  | openingRequest
  | openingReply
  | running
  | exited
  deriving DecidableEq, Repr

def requestPipe : String := "request_server_pipe"

def replyPipe : String := "reply_server_pipe"

/-- The names in the pipe directory, the two states of port 5555 that the probes look
for, and the processes. -/
structure Host where
  files : List String
  listening : Bool
  established : Bool
  daemon : Daemon
  thinServer : ThinServer
  doeEmu : DoeEmu
  deriving DecidableEq, Repr

/-- No process has been started. -/
def Host.idle (files : List String) (listening : Bool) : Host where
  files := files
  listening := listening
  established := false
  daemon := .unstarted
  thinServer := .unstarted
  doeEmu := .unstarted

/-- The next call of a process, if it returns. -/
def processStep (host : Host) : Service → Option Host
  | .daemon =>
      match host.daemon with
      | .connecting =>
          if host.listening then some { host with established := true, daemon := .serving }
          else some { host with daemon := .exited }
      | _ => none
  | .thinServer =>
      match host.thinServer with
      | .creatingRequest =>
          some { host with files := host.files.insert requestPipe, thinServer := .creatingReply }
      | .creatingReply =>
          some { host with files := host.files.insert replyPipe, thinServer := .openingRequest }
      | .openingRequest =>
          if requestPipe ∈ host.files then some { host with thinServer := .openingReply }
          else some { host with thinServer := .exited }
      | .openingReply =>
          if replyPipe ∈ host.files then some { host with thinServer := .binding }
          else some { host with thinServer := .exited }
      | .binding =>
          if host.listening then some { host with thinServer := .exited }
          else some { host with thinServer := .listening }
      | .listening => some { host with listening := true, thinServer := .accepting }
      | .accepting =>
          if host.established then some { host with thinServer := .serving } else none
      | _ => none
  | .doeEmu =>
      match host.doeEmu with
      | .openingRequest =>
          if requestPipe ∈ host.files then some { host with doeEmu := .openingReply }
          else some { host with doeEmu := .exited }
      | .openingReply =>
          if replyPipe ∈ host.files then some { host with doeEmu := .running }
          else some { host with doeEmu := .exited }
      | _ => none

/-! ## Scripts -/

/-- Start a service that depends on others, or sleep until a probe succeeds. -/
inductive Command where
  | start (service : Service) (deps : List Service)
  | await (ready : Host → Bool)

def Host.started (host : Host) : Service → Bool
  | .daemon => host.daemon != .unstarted
  | .thinServer => host.thinServer != .unstarted
  | .doeEmu => host.doeEmu != .unstarted

/-- A new process is at its first call. -/
def Host.spawn (host : Host) : Service → Host
  | .daemon => { host with daemon := .connecting }
  | .thinServer => { host with thinServer := .creatingRequest }
  | .doeEmu => { host with doeEmu := .openingRequest }

/-- No script starts a service twice. -/
def Host.start (host : Host) (service : Service) : Host :=
  if host.started service then host else host.spawn service

theorem start_of_started {host : Host} {service : Service} (started : host.started service = true) :
    host.start service = host :=
  if_pos started

theorem start_of_unstarted {host : Host} {service : Service}
    (unstarted : ¬host.started service = true) :
    host.start service = host.spawn service :=
  if_neg unstarted

/-- A host and what is left of a script; `aborted` if the script gave up because a
dependency was missing. -/
structure Bringup where
  host : Host
  script : List Command
  aborted : Bool

inductive Actor where
  | script
  | process (service : Service)
  deriving DecidableEq, Repr

def launchStep (launch : Bringup) : Actor → Option Bringup
  | .script =>
      match launch.script with
      | [] => none
      | .start service deps :: script =>
          if deps.all launch.host.started then
            some { launch with host := launch.host.start service, script }
          else
            some { launch with script := [], aborted := true }
      | .await ready :: script =>
          if ready launch.host then some { launch with script } else none
  | .process service =>
      (processStep launch.host service).map fun host => { launch with host }

def Bringup.begin (host : Host) (script : List Command) : Bringup :=
  ⟨host, script, false⟩

/-! ## One step -/

section Steps

variable {launch next : Bringup}

/-- A step of the script takes one command off and does nothing else to a host but
start a service. -/
theorem launchStep_script (stepped : launchStep launch .script = some next) :
    ∃ command rest, launch.script = command :: rest ∧
      match command with
      | .start service deps =>
          if deps.all launch.host.started then
            next = { launch with host := launch.host.start service, script := rest }
          else
            next = { launch with script := [], aborted := true }
      | .await ready => ready launch.host = true ∧ next = { launch with script := rest } := by
  rw [launchStep] at stepped
  split at stepped
  case h_1 => cases stepped
  case h_2 service deps rest script =>
      refine ⟨_, rest, script, ?_⟩
      split at stepped
      case isTrue met =>
          cases stepped
          exact (if_pos met).mpr rfl
      case isFalse missing =>
          cases stepped
          exact (if_neg missing).mpr rfl
  case h_3 ready rest script =>
      rcases Option.ite_none_right_eq_some.mp stepped with ⟨succeeded, same⟩
      cases same
      exact ⟨_, rest, script, succeeded, rfl⟩

theorem launchStep_process {service : Service}
    (stepped : launchStep launch (.process service) = some next) :
    ∃ host, processStep launch.host service = some host ∧ next = { launch with host } := by
  rcases Option.map_eq_some_iff.mp stepped with ⟨host, moved, rfl⟩
  exact ⟨host, moved, rfl⟩

variable {host after : Host}

theorem daemon_cases (moved : processStep host .daemon = some after) :
    host.daemon = .connecting ∧
      (host.listening = true ∧ after = { host with established := true, daemon := .serving } ∨
        host.listening = false ∧ after = { host with daemon := .exited }) := by
  rw [processStep] at moved
  split at moved
  case h_1 connecting =>
      refine ⟨connecting, ?_⟩
      split at moved
      case isTrue listening =>
          cases moved
          exact Or.inl ⟨listening, rfl⟩
      case isFalse deaf =>
          cases moved
          exact Or.inr ⟨Bool.eq_false_iff.mpr deaf, rfl⟩
  case h_2 => cases moved

theorem doeEmu_cases (moved : processStep host .doeEmu = some after) :
    (host.doeEmu = .openingRequest ∧
      (requestPipe ∈ host.files ∧ after = { host with doeEmu := .openingReply } ∨
        requestPipe ∉ host.files ∧ after = { host with doeEmu := .exited })) ∨
    (host.doeEmu = .openingReply ∧
      (replyPipe ∈ host.files ∧ after = { host with doeEmu := .running } ∨
        replyPipe ∉ host.files ∧ after = { host with doeEmu := .exited })) := by
  rw [processStep] at moved
  split at moved
  case h_1 opening =>
      refine Or.inl ⟨opening, ?_⟩
      split at moved
      case isTrue exists_ =>
          cases moved
          exact Or.inl ⟨exists_, rfl⟩
      case isFalse missing =>
          cases moved
          exact Or.inr ⟨missing, rfl⟩
  case h_2 opening =>
      refine Or.inr ⟨opening, ?_⟩
      split at moved
      case isTrue exists_ =>
          cases moved
          exact Or.inl ⟨exists_, rfl⟩
      case isFalse missing =>
          cases moved
          exact Or.inr ⟨missing, rfl⟩
  case h_3 => cases moved

/-- A call of `thin-server` that returns. -/
inductive ServerCall (host : Host) : Host → Prop where
  | createRequest (point : host.thinServer = .creatingRequest) :
      ServerCall host
        { host with files := host.files.insert requestPipe, thinServer := .creatingReply }
  | createReply (point : host.thinServer = .creatingReply) :
      ServerCall host
        { host with files := host.files.insert replyPipe, thinServer := .openingRequest }
  | openRequest (point : host.thinServer = .openingRequest) (there : requestPipe ∈ host.files) :
      ServerCall host { host with thinServer := .openingReply }
  | openReply (point : host.thinServer = .openingReply) (there : replyPipe ∈ host.files) :
      ServerCall host { host with thinServer := .binding }
  | bind (point : host.thinServer = .binding) (free : host.listening = false) :
      ServerCall host { host with thinServer := .listening }
  | listen (point : host.thinServer = .listening) :
      ServerCall host { host with listening := true, thinServer := .accepting }
  | accept (point : host.thinServer = .accepting) (connected : host.established = true) :
      ServerCall host { host with thinServer := .serving }
  | fail (cause : host.thinServer = .openingRequest ∧ requestPipe ∉ host.files ∨
        host.thinServer = .openingReply ∧ replyPipe ∉ host.files ∨
        host.thinServer = .binding ∧ host.listening = true) :
      ServerCall host { host with thinServer := .exited }

theorem thinServer_call (moved : processStep host .thinServer = some after) :
    ServerCall host after := by
  rw [processStep] at moved
  split at moved
  case h_1 point =>
      cases moved
      exact .createRequest point
  case h_2 point =>
      cases moved
      exact .createReply point
  case h_3 point =>
      split at moved
      case isTrue there =>
          cases moved
          exact .openRequest point there
      case isFalse missing =>
          cases moved
          exact .fail (Or.inl ⟨point, missing⟩)
  case h_4 point =>
      split at moved
      case isTrue there =>
          cases moved
          exact .openReply point there
      case isFalse missing =>
          cases moved
          exact .fail (Or.inr (Or.inl ⟨point, missing⟩))
  case h_5 point =>
      split at moved
      case isTrue taken =>
          cases moved
          exact .fail (Or.inr (Or.inr ⟨point, taken⟩))
      case isFalse free =>
          cases moved
          exact .bind point (Bool.eq_false_iff.mpr free)
  case h_6 point =>
      cases moved
      exact .listen point
  case h_7 point =>
      rcases Option.ite_none_right_eq_some.mp moved with ⟨connected, same⟩
      cases same
      exact .accept point connected
  case h_8 => cases moved

end Steps

/-! ## Runs end -/

def Daemon.work : Daemon → Nat
  | .unstarted | .connecting => 1
  | .serving | .exited => 0

def ThinServer.work : ThinServer → Nat
  | .unstarted | .creatingRequest => 7
  | .creatingReply => 6
  | .openingRequest => 5
  | .openingReply => 4
  | .binding => 3
  | .listening => 2
  | .accepting => 1
  | .serving | .exited => 0

def DoeEmu.work : DoeEmu → Nat
  | .unstarted | .openingRequest => 2
  | .openingReply => 1
  | .running | .exited => 0

/-- The calls the processes can still make. -/
def Host.work (host : Host) : Nat :=
  host.daemon.work + host.thinServer.work + host.doeEmu.work

def Bringup.work (launch : Bringup) : Nat :=
  launch.host.work + launch.script.length

theorem work_processStep {host after : Host} {service : Service}
    (moved : processStep host service = some after) : after.work < host.work := by
  cases service with
  | daemon =>
      rcases daemon_cases moved with ⟨point, ⟨-, rfl⟩ | ⟨-, rfl⟩⟩
      · simp only [Host.work, point, Daemon.work]
        omega
      · simp only [Host.work, point, Daemon.work]
        omega
  | thinServer =>
      cases thinServer_call moved with
      | createRequest point | createReply point | listen point =>
          simp only [Host.work, point, ThinServer.work]
          omega
      | openRequest point | openReply point | bind point | accept point =>
          simp only [Host.work, point, ThinServer.work]
          omega
      | fail cause =>
          rcases cause with ⟨point, -⟩ | ⟨point, -⟩ | ⟨point, -⟩
          all_goals
            simp only [Host.work, point, ThinServer.work]
            omega
  | doeEmu =>
      rcases doeEmu_cases moved with
        ⟨point, ⟨-, rfl⟩ | ⟨-, rfl⟩⟩ | ⟨point, ⟨-, rfl⟩ | ⟨-, rfl⟩⟩
      all_goals
        simp only [Host.work, point, DoeEmu.work]
        omega

theorem work_start (host : Host) (service : Service) : (host.start service).work = host.work := by
  by_cases started : host.started service = true
  · rw [start_of_started started]
  · rw [start_of_unstarted started]
    cases service with
    | daemon =>
        have point : host.daemon = .unstarted := by simpa [Host.started] using started
        simp only [Host.work, Host.spawn, point, Daemon.work]
    | thinServer =>
        have point : host.thinServer = .unstarted := by simpa [Host.started] using started
        simp only [Host.work, Host.spawn, point, ThinServer.work]
    | doeEmu =>
        have point : host.doeEmu = .unstarted := by simpa [Host.started] using started
        simp only [Host.work, Host.spawn, point, DoeEmu.work]

theorem work_launchStep {launch next : Bringup} {actor : Actor}
    (stepped : launchStep launch actor = some next) : next.work < launch.work := by
  cases actor with
  | script =>
      rcases launchStep_script stepped with ⟨command, rest, script, outcome⟩
      have longer : launch.script.length = rest.length + 1 := by
        rw [script, List.length_cons]
      rw [Bringup.work, Bringup.work, longer]
      cases command with
      | start service deps =>
          by_cases met : deps.all launch.host.started
          · rw [(if_pos met).mp outcome, work_start]
            exact Nat.add_lt_add_left (Nat.lt_succ_self _) _
          · rw [(if_neg met).mp outcome]
            exact Nat.add_lt_add_left (Nat.succ_pos _) _
      | await ready =>
          rw [outcome.2]
          exact Nat.add_lt_add_left (Nat.lt_succ_self _) _
  | process service =>
      rcases launchStep_process stepped with ⟨host, moved, rfl⟩
      exact Nat.add_lt_add_right (work_processStep moved) _

/-- No schedule goes on for ever. -/
theorem execute_work {launch final : Bringup} {actors : List Actor}
    (executed : execute launchStep launch actors = some final) :
    actors.length ≤ launch.work := by
  have tracked := execute_tracked (fun state left => state.work = left)
    (fun _ _ _ next same stepped => ⟨next.work, same ▸ work_launchStep stepped, rfl⟩) rfl executed
  rcases tracked with ⟨left, bounded, -⟩
  omega

/-! ## Where nothing moves -/

theorem daemon_quiet {host : Host} (quiet : processStep host .daemon = none) :
    host.daemon ≠ .connecting := by
  intro point
  rw [processStep, point] at quiet
  dsimp only at quiet
  split at quiet
  all_goals cases quiet

theorem doeEmu_quiet {host : Host} (quiet : processStep host .doeEmu = none) :
    host.doeEmu ≠ .openingRequest ∧ host.doeEmu ≠ .openingReply := by
  constructor
  all_goals
    intro point
    rw [processStep, point] at quiet
    dsimp only at quiet
    split at quiet
    all_goals cases quiet

theorem thinServer_quiet {host : Host} (quiet : processStep host .thinServer = none) :
    host.thinServer = .unstarted ∨ host.thinServer = .exited ∨ host.thinServer = .serving ∨
      host.thinServer = .accepting ∧ host.established = false := by
  cases point : host.thinServer with
  | unstarted => exact Or.inl rfl
  | exited => exact Or.inr (Or.inl rfl)
  | serving => exact Or.inr (Or.inr (Or.inl rfl))
  | accepting =>
      rw [processStep, point] at quiet
      refine Or.inr (Or.inr (Or.inr ⟨rfl, ?_⟩))
      cases connected : host.established with
      | false => rfl
      | true =>
          rw [connected] at quiet
          cases quiet
  | creatingRequest | creatingReply | listening =>
      rw [processStep, point] at quiet
      cases quiet
  | openingRequest | openingReply | binding =>
      rw [processStep, point] at quiet
      dsimp only at quiet
      split at quiet
      all_goals cases quiet

end RemoteRootport.Launch
