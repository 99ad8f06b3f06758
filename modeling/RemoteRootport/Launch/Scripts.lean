import RemoteRootport.Launch.Following

/-!
# The start scripts

`run_doe2cosim.sh` starts all processes at once and waits for a connection;
`run_doe2cosim_improved.sh` and `run_doe2cosim.py` start them one by one, each when
the probe of the one before has succeeded.  The order decides whether the relay comes
up: only `thin-server` creates the pipes and listens, so whatever is started before it
finds neither.
-/

namespace RemoteRootport.Launch

open RemoteRootport.Machine

/-! ## One by one, the daemon first -/

/-- The pattern `doe_*`. -/
def doeFile (name : String) : Bool :=
  "doe_".toList.isPrefixOf name.toList

/-- `start_all` of `run_doe2cosim.py` with its services and their probes:
`ready_daemon`, `ready_thin_srv` and `ready_doe_emu`. -/
def pythonScript : List Command :=
  [.start .daemon [],
    .await fun host => host.listening,
    .start .thinServer [.daemon],
    .await fun host => host.files.any doeFile,
    .start .doeEmu [.thinServer],
    .await fun host => host.doeEmu == .openingReply || host.doeEmu == .running]

theorem ordered_pythonScript : Ordered [] pythonScript := by
  simp [pythonScript, Ordered]

/-- Neither pipe matches the pattern. -/
theorem lacks_doeFile {host after : Host} {service : Service} (lacks : Lacks doeFile host)
    (moved : processStep host service = some after) : Lacks doeFile after := by
  intro file member
  rcases mem_files_processStep moved member with before | rfl | rfl
  · exact lacks file before
  · decide
  · decide

/-- Nobody listens and the daemon has not connected. -/
structure Deaf (host : Host) : Prop where
  listening : host.listening = false
  daemon : host.daemon ≠ .serving

theorem Deaf.start {host : Host} (deaf : Deaf host) : Deaf (host.start .daemon) := by
  by_cases started : host.started .daemon = true
  · rwa [start_of_started started]
  · rw [start_of_unstarted started]
    exact ⟨deaf.listening, Daemon.noConfusion⟩

theorem Deaf.process {host after : Host} (deaf : Deaf host)
    (moved : processStep host .daemon = some after) : Deaf after := by
  rcases daemon_cases moved with ⟨-, ⟨listening, -⟩ | ⟨-, rfl⟩⟩
  · rw [deaf.listening] at listening
    cases listening
  · exact ⟨deaf.listening, Daemon.noConfusion⟩

/-- `run_doe2cosim.py` does not bring up the relay.  Unless the pipe directory holds a
file that no process creates, `doe-emu` is never started; and if nobody listens
beforehand, neither is `thin-server`, since the script waits for the daemon to listen,
which only `thin-server` does. -/
theorem python_waits {files : List String} (clean : ∀ file ∈ files, doeFile file = false)
    {listening : Bool} {actors : List Actor} {final : Bringup}
    (executed : execute launchStep (.begin (.idle files listening) pythonScript) actors =
      some final) :
    final.script ≠ [] ∧ final.host.doeEmu = .unstarted ∧
      (listening = false →
        final.host.thinServer = .unstarted ∧ final.host.daemon ≠ .serving) := by
  have pipes := execute_waits ordered_pythonScript
    (rfl : pythonScript[3]? = some (.await fun host => host.files.any doeFile))
    (Lacks doeFile) (fun _ lacks => lacks.any) (fun _ service lacks _ => lacks.start service)
    (fun _ _ _ lacks _ moved => lacks_doeFile lacks moved) clean executed
  rcases pipes with ⟨position, before, follows, -⟩
  refine ⟨?_, doeEmu_of_unstarted (follows.unstarted before (by decide)), ?_⟩
  · intro finished
    rw [follows.remaining, List.drop_eq_nil_iff] at finished
    change 6 ≤ position at finished
    omega
  · intro silent
    have port := execute_waits ordered_pythonScript
      (rfl : pythonScript[1]? = some (.await fun host => host.listening)) Deaf
      (fun _ deaf => deaf.listening)
      (fun _ _ deaf early => by
        rw [List.mem_singleton.mp early]
        exact deaf.start)
      (fun _ _ _ deaf early moved => by
        rw [List.mem_singleton.mp early] at moved
        exact deaf.process moved)
      ⟨silent, Daemon.noConfusion⟩ executed
    rcases port with ⟨position, before, follows, deaf⟩
    exact ⟨thinServer_of_unstarted (follows.unstarted before (by decide)), deaf.daemon⟩

/-- On an empty directory the daemon exits and the script sleeps. -/
theorem python_waits_deserted :
    ∃ final, execute launchStep (.begin (.idle [] false) pythonScript)
        [.script, .process .daemon] = some final ∧
      final.host.daemon = .exited ∧ final.script ≠ [] ∧ final.host.thinServer = .unstarted := by
  have ran : execute launchStep (.begin (.idle [] false) pythonScript)
      [.script, .process .daemon] =
        some ⟨{ Host.idle [] false with daemon := .exited }, pythonScript.drop 1, false⟩ := rfl
  rcases python_waits (List.forall_mem_nil _) ran with ⟨unfinished, -, deserted⟩
  exact ⟨_, ran, rfl, unfinished, (deserted rfl).1⟩

/-! ## One by one, the emulator first -/

/-- The pattern `*_server_pipe`. -/
def serverPipeFile (name : String) : Bool :=
  "_server_pipe".toList.isSuffixOf name.toList

/-- `start_svc` of `run_doe2cosim_improved.sh` for each of its services, with their
probes: `ready_doe_emu`, `ready_thin_srv` and `ready_daemon`. -/
def improvedScript : List Command :=
  [.start .doeEmu [],
    .await fun host => host.files.any serverPipeFile,
    .start .thinServer [.doeEmu],
    .await fun host => host.listening,
    .start .daemon [.thinServer],
    .await fun host => host.established]

theorem ordered_improvedScript : Ordered [] improvedScript := by
  simp [improvedScript, Ordered]

/-- There is no pipe and the emulator has opened none. -/
structure Pipeless (host : Host) : Prop where
  lacks : Lacks serverPipeFile host
  doeEmu : host.doeEmu ≠ .openingReply ∧ host.doeEmu ≠ .running

theorem Pipeless.start {host : Host} (pipeless : Pipeless host) : Pipeless (host.start .doeEmu) := by
  by_cases started : host.started .doeEmu = true
  · rwa [start_of_started started]
  · refine ⟨pipeless.lacks.start .doeEmu, ?_⟩
    rw [start_of_unstarted started]
    exact ⟨DoeEmu.noConfusion, DoeEmu.noConfusion⟩

theorem Pipeless.process {host after : Host} (pipeless : Pipeless host)
    (moved : processStep host .doeEmu = some after) : Pipeless after := by
  rcases doeEmu_cases moved with ⟨-, ⟨there, -⟩ | ⟨-, rfl⟩⟩ | ⟨opened, -⟩
  · have listed := pipeless.lacks requestPipe there
    exact absurd listed (by decide)
  · exact ⟨pipeless.lacks, DoeEmu.noConfusion, DoeEmu.noConfusion⟩
  · exact absurd opened pipeless.doeEmu.1

/-- The pipes of an earlier run are still there. -/
structure LeftOver (files : List String) : Prop where
  request : requestPipe ∈ files
  reply : replyPipe ∈ files

/-- What `run_doe2cosim_improved.sh` keeps on pipes left over. -/
structure Smooth (launch : Bringup) : Prop where
  coming : ∃ position, Coming improvedScript position launch
  pipes : LeftOver launch.host.files
  unfailed : Unfailed launch.host

theorem stable_improvedScript (ready : Host → Bool) (member : .await ready ∈ improvedScript) :
    Stable ready := by
  simp only [improvedScript, List.mem_cons, reduceCtorEq, Command.await.injEq, List.not_mem_nil,
    false_or, or_false] at member
  rcases member with rfl | rfl | rfl
  · exact stable_files serverPipeFile
  · exact stable_listening
  · exact stable_established

/-- A file that is there stays there. -/
theorem mem_files_launchStep {launch next : Bringup} {actor : Actor}
    (stepped : launchStep launch actor = some next) {file : String}
    (member : file ∈ launch.host.files) : file ∈ next.host.files := by
  cases actor with
  | process service =>
      rcases launchStep_process stepped with ⟨host, moved, rfl⟩
      exact (processStep_grows moved).2.2 file member
  | script =>
      rcases launchStep_script stepped with ⟨command, rest, -, outcome⟩
      cases command with
      | start service deps =>
          by_cases met : deps.all launch.host.started
          · rw [(if_pos met).mp outcome, start_files]
            exact member
          · rw [(if_neg met).mp outcome]
            exact member
      | await ready =>
          rw [outcome.2]
          exact member

section Smooth

variable {launch next : Bringup} {actor : Actor}

/-- The daemon is started behind the probe for a listener. -/
theorem Smooth.punctual (smooth : Smooth launch) (stepped : launchStep launch actor = some next) :
    Punctual launch actor := by
  cases actor with
  | script => trivial
  | process service =>
      cases service with
      | daemon =>
          rcases smooth.coming with ⟨position, coming⟩
          rcases launchStep_process stepped with ⟨host, moved, -⟩
          have late : 4 ≤ position := by
            by_contra early
            exact coming.follows.unstarted (by omega : position ≤ 4) (by decide)
              (started_of_processStep moved)
          apply coming.passed fun host => host.listening
          apply List.take_subset_take_left improvedScript late
          simp [improvedScript]
      | thinServer => trivial
      | doeEmu => exact ⟨fun _ => smooth.pipes.request, fun _ => smooth.pipes.reply⟩

theorem Smooth.step (smooth : Smooth launch) (stepped : launchStep launch actor = some next) :
    Smooth next := by
  refine ⟨?_, ?_, smooth.unfailed.step (smooth.punctual stepped) stepped⟩
  · rcases smooth.coming with ⟨position, coming⟩
    exact coming.step ordered_improvedScript stable_improvedScript stepped
  · exact ⟨mem_files_launchStep stepped smooth.pipes.request,
      mem_files_launchStep stepped smooth.pipes.reply⟩

/-- No probe of the script fails for good. -/
theorem Smooth.up (smooth : Smooth launch) (quiet : ∀ actor, launchStep launch actor = none) :
    Up launch := by
  rcases smooth.coming with ⟨position, coming⟩
  apply coming.up smooth.unfailed quiet (by intro service; cases service <;> decide)
  rcases coming.follows.quiet (quiet .script) with finished | ⟨ready, here, failing⟩
  · exact finished
  · exfalso
    match position, here with
    | 1, rfl =>
        exact failing
          (List.any_eq_true.mpr ⟨requestPipe, smooth.pipes.request, by decide⟩)
    | 3, rfl =>
        have listening := (accepting_of_quiet
          ((coming.follows.started .thinServer).mpr (by decide)) coming.sound
          (processStep_quiet quiet .thinServer)).1
        exact failing listening
    | 5, rfl =>
        exact failing (coming.connected smooth.unfailed quiet (by decide))

end Smooth

/-- `run_doe2cosim_improved.sh` depends on what an earlier run has left.  Without a pipe
it waits for ever for `doe-emu` to create one, which `doe-emu` never does; on both pipes
it brings up the relay, whatever the order of the calls, as long as the port is free. -/
theorem improved_needs_pipes {files : List String} {listening : Bool} {actors : List Actor}
    {final : Bringup}
    (executed : execute launchStep (.begin (.idle files listening) improvedScript) actors =
      some final) :
    ((∀ file ∈ files, serverPipeFile file = false) →
      final.script ≠ [] ∧ final.host.thinServer = .unstarted ∧
        final.host.daemon = .unstarted ∧ final.host.doeEmu ≠ .running) ∧
    (LeftOver files → listening = false →
      actors.length ≤ 16 ∧ ((∀ actor, launchStep final actor = none) → Up final)) := by
  constructor
  · intro clean
    have pipes := execute_waits ordered_improvedScript
      (rfl : improvedScript[1]? = some (.await fun host => host.files.any serverPipeFile))
      Pipeless (fun _ pipeless => pipeless.lacks.any)
      (fun _ _ pipeless early => by
        rw [List.mem_singleton.mp early]
        exact pipeless.start)
      (fun _ _ _ pipeless early moved => by
        rw [List.mem_singleton.mp early] at moved
        exact pipeless.process moved)
      ⟨clean, DoeEmu.noConfusion, DoeEmu.noConfusion⟩ executed
    rcases pipes with ⟨position, before, follows, pipeless⟩
    refine ⟨?_, thinServer_of_unstarted (follows.unstarted before (by decide)),
      daemon_of_unstarted (follows.unstarted before (by decide)), pipeless.doeEmu.2⟩
    intro finished
    rw [follows.remaining, List.drop_eq_nil_iff] at finished
    change 6 ≤ position at finished
    omega
  · intro leftOver free
    subst free
    refine ⟨execute_work executed, ?_⟩
    have smooth := execute_invariant Smooth (fun _ _ _ smooth stepped => smooth.step stepped)
      ⟨⟨0, coming_begin files improvedScript⟩, leftOver, unfailed_idle files false⟩ executed
    exact smooth.up

/-- All sixteen steps of a launch on the pipes of an earlier run. -/
theorem improved_needs_pipes_rerun :
    ∃ final, execute launchStep (.begin (.idle [requestPipe, replyPipe] false) improvedScript)
        [.script, .script, .script, .process .thinServer, .process .doeEmu, .process .thinServer,
          .process .thinServer, .process .doeEmu, .process .thinServer, .process .thinServer,
          .process .thinServer, .script, .script, .process .daemon, .script,
          .process .thinServer] = some final ∧ Up final := by
  refine ⟨⟨⟨[requestPipe, replyPipe], true, true, .serving, .serving, .running⟩, [], false⟩, ?_⟩
  have ran : execute launchStep (.begin (.idle [requestPipe, replyPipe] false) improvedScript)
      [.script, .script, .script, .process .thinServer, .process .doeEmu, .process .thinServer,
        .process .thinServer, .process .doeEmu, .process .thinServer, .process .thinServer,
        .process .thinServer, .script, .script, .process .daemon, .script,
        .process .thinServer] =
      some ⟨⟨[requestPipe, replyPipe], true, true, .serving, .serving, .running⟩, [], false⟩ := by
    rfl
  refine ⟨ran, ((improved_needs_pipes ran).2 ⟨by decide, by decide⟩ rfl).2 ?_⟩
  intro actor
  cases actor with
  | script => rfl
  | process service => cases service <;> rfl

/-! ## All at once -/

/-- `run_redirect` of `run_tdx_doe2cosim.sh`. -/
def tdxScript : List Command :=
  [.start .thinServer [], .start .doeEmu [], .start .daemon []]

/-- `run_redirect` of `run_doe2cosim.sh`, up to where the native root port is removed. -/
def redirectScript : List Command :=
  tdxScript ++ [.await fun host => host.established]

/-- A script that starts everything at once, and waits for a connection or for nothing. -/
def StartsAtOnce (script : List Command) : Prop :=
  script = tdxScript ∨ script = redirectScript

section StartsAtOnce

variable {script : List Command} {launch : Bringup}

theorem StartsAtOnce.ordered (starts : StartsAtOnce script) : Ordered [] script := by
  rcases starts with rfl | rfl
  · simp [tdxScript, Ordered]
  · simp [redirectScript, tdxScript, Ordered]

theorem StartsAtOnce.stable (starts : StartsAtOnce script) (ready : Host → Bool)
    (member : .await ready ∈ script) : Stable ready := by
  rcases starts with rfl | rfl
  · simp [tdxScript] at member
  · simp only [redirectScript, tdxScript, List.mem_append, List.mem_cons, reduceCtorEq,
      Command.await.injEq, List.not_mem_nil, false_or, or_false] at member
    rw [member]
    exact stable_established

theorem StartsAtOnce.complete (starts : StartsAtOnce script) (service : Service) :
    service ∈ startsOf script := by
  rcases starts with rfl | rfl <;> cases service <;> decide

/-- The only probe is for a connection, which a daemon that has not failed gets. -/
theorem StartsAtOnce.finished (starts : StartsAtOnce script) {position : Nat}
    (coming : Coming script position launch) (unfailed : Unfailed launch.host)
    (quiet : ∀ actor, launchStep launch actor = none) : launch.script = [] := by
  rcases coming.follows.quiet (quiet .script) with finished | ⟨ready, here, failing⟩
  · exact finished
  · exfalso
    rcases starts with rfl | rfl
    · match position, here with
      | 3, impossible => cases impossible
    · match position, here with
      | 3, rfl => exact failing (coming.connected unfailed quiet (by decide))

end StartsAtOnce

/-- The scripts that start everything at once bring up the relay in exactly the
schedules in which the daemon connects after `thin-server` has begun to listen and
`doe-emu` opens each pipe after it has been created.  That `run_doe2cosim.sh` goes on
means that the daemon is connected and the pipes exist, and nothing about `doe-emu`. -/
theorem startsAtOnce_up_iff {script : List Command} (starts : StartsAtOnce script)
    {files : List String} {actors : List Actor} {final : Bringup}
    (executed : execute launchStep (.begin (.idle files false) script) actors = some final) :
    (script = redirectScript → final.script = [] →
      final.host.daemon = .serving ∧ LeftOver final.host.files) ∧
    ((∀ actor, launchStep final actor = none) →
      (Up final ↔ Guarded launchStep Punctual (.begin (.idle files false) script) actors)) := by
  have settled := execute_invariant (fun launch => ∃ position, Coming script position launch)
    (fun _ _ _ comes stepped => by
      rcases comes with ⟨position, coming⟩
      exact coming.step starts.ordered starts.stable stepped)
    ⟨0, coming_begin files script⟩ executed
  rcases settled with ⟨position, coming⟩
  constructor
  · intro redirect finished
    rw [coming.follows.remaining, List.drop_eq_nil_iff] at finished
    have established : final.host.established = true := by
      apply coming.passed fun host => host.established
      rw [List.take_of_length_le finished, redirect]
      exact List.mem_append_right tdxScript List.mem_cons_self
    have late := coming.sound.listening.mp (coming.sound.connected established)
    exact ⟨coming.sound.established.mp established,
      coming.sound.request (by omega), coming.sound.reply (by omega)⟩
  · intro quiet
    constructor
    · intro up
      exact guarded_of_unspoilt (fun launch => ¬Unfailed launch.host)
        (fun _ _ _ stepped early => failed_of_early stepped early)
        (fun _ _ _ failed stepped => failed_stays failed stepped) executed
        (fun failed => failed up.unfailed)
    · intro punctual
      have unfailed := execute_guarded (fun launch => Unfailed launch.host)
        (fun _ _ _ unfailed timely stepped => unfailed.step timely stepped)
        (unfailed_idle files false) punctual executed
      exact coming.up unfailed quiet starts.complete (starts.finished coming unfailed quiet)

/-- The root port is removed though `doe-emu` came too early and has exited. -/
theorem startsAtOnce_up_iff_early :
    ∃ final, execute launchStep (.begin (.idle [] false) redirectScript)
        ([.script, .script, .process .doeEmu, .script] ++
          List.replicate 6 (.process .thinServer) ++
          [.process .daemon, .script, .process .thinServer]) = some final ∧
      final.script = [] ∧ final.host.daemon = .serving ∧ final.host.doeEmu = .exited ∧
      ¬Guarded launchStep Punctual (.begin (.idle [] false) redirectScript)
        ([.script, .script, .process .doeEmu, .script] ++
          List.replicate 6 (.process .thinServer) ++
          [.process .daemon, .script, .process .thinServer]) := by
  have ran : execute launchStep (.begin (.idle [] false) redirectScript)
      ([.script, .script, .process .doeEmu, .script] ++
        List.replicate 6 (.process .thinServer) ++
        [.process .daemon, .script, .process .thinServer]) =
      some ⟨⟨[replyPipe, requestPipe], true, true, .serving, .serving, .exited⟩, [], false⟩ := rfl
  rcases startsAtOnce_up_iff (Or.inr rfl) ran with ⟨goesOn, comesUp⟩
  refine ⟨_, ran, rfl, (goesOn rfl rfl).1, rfl, ?_⟩
  intro punctual
  have up := (comesUp (by
    intro actor
    cases actor with
    | script => rfl
    | process service => cases service <;> rfl)).mpr punctual
  cases up.doeEmu

end RemoteRootport.Launch
