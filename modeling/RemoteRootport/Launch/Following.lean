import RemoteRootport.Launch.Host

/-!
# Following a script

A script does one command after the other while the processes it has started run.  It
waits at a probe that the services started so far cannot make succeed; and where the
port is free and nobody calls too early, it leaves everything connected.
-/

namespace RemoteRootport.Launch

open RemoteRootport.Machine

/-! ## One command after the other -/

/-- The services some commands start. -/
def startsOf (commands : List Command) : List Service :=
  commands.filterMap fun command =>
    match command with
    | .start service _ => some service
    | .await _ => none

/-- Every service is started after those it depends on. -/
def Ordered : List Service → List Command → Prop
  | _, [] => True
  | started, .start service deps :: rest =>
      (∀ dep ∈ deps, dep ∈ started) ∧ Ordered (service :: started) rest
  | started, .await _ :: rest => Ordered started rest

/-- The script has got to a position and the services before it have been started. -/
structure Follows (script : List Command) (position : Nat) (launch : Bringup) : Prop where
  remaining : launch.script = script.drop position
  started : ∀ service, launch.host.started service = true ↔
    service ∈ startsOf (script.take position)
  running : launch.aborted = false

section Following

variable {script : List Command} {position : Nat} {launch next : Bringup}

theorem Ordered.deps_mem {started : List Service} (ordered : Ordered started script)
    {service : Service} {deps : List Service}
    (command : script[position]? = some (.start service deps)) :
    ∀ dep ∈ deps, dep ∈ started ∨ dep ∈ startsOf (script.take position) := by
  induction script generalizing started position with
  | nil => cases command
  | cons first rest ih =>
      cases position with
      | zero =>
          cases command
          intro dep member
          exact Or.inl (ordered.1 dep member)
      | succ position =>
          intro dep member
          cases first with
          | start other needs =>
              rcases ih ordered.2 command dep member with earlier | later
              · rcases List.mem_cons.mp earlier with rfl | before
                · exact Or.inr List.mem_cons_self
                · exact Or.inl before
              · exact Or.inr (List.mem_cons_of_mem _ later)
          | await ready => exact ih ordered command dep member

/-- A process is started by a script only. -/
theorem started_processStep {host after : Host} {service : Service}
    (moved : processStep host service = some after) (other : Service) :
    after.started other = host.started other := by
  cases service with
  | daemon =>
      rcases daemon_cases moved with ⟨point, ⟨-, rfl⟩ | ⟨-, rfl⟩⟩
      all_goals
        cases other with
        | daemon =>
            simp only [Host.started, point]
            rfl
        | thinServer => rfl
        | doeEmu => rfl
  | thinServer =>
      cases thinServer_call moved with
      | createRequest point | createReply point | listen point | openRequest point
      | openReply point | bind point | accept point =>
          cases other with
          | daemon => rfl
          | thinServer =>
              simp only [Host.started, point]
              rfl
          | doeEmu => rfl
      | fail cause =>
          cases other with
          | daemon => rfl
          | thinServer =>
              rcases cause with ⟨point, -⟩ | ⟨point, -⟩ | ⟨point, -⟩
              all_goals
                simp only [Host.started, point]
                rfl
          | doeEmu => rfl
  | doeEmu =>
      rcases doeEmu_cases moved with
        ⟨point, ⟨-, rfl⟩ | ⟨-, rfl⟩⟩ | ⟨point, ⟨-, rfl⟩ | ⟨-, rfl⟩⟩
      all_goals
        cases other with
        | daemon => rfl
        | thinServer => rfl
        | doeEmu =>
            simp only [Host.started, point]
            rfl

theorem started_start (host : Host) (service other : Service) :
    (host.start service).started other = true ↔ host.started other = true ∨ other = service := by
  by_cases started : host.started service = true
  · rw [start_of_started started]
    constructor
    · exact Or.inl
    · intro either
      rcases either with already | rfl
      · exact already
      · exact started
  · rw [start_of_unstarted started]
    cases service with
    | daemon => cases other <;> simp [Host.spawn, Host.started]
    | thinServer => cases other <;> simp [Host.spawn, Host.started]
    | doeEmu => cases other <;> simp [Host.spawn, Host.started]

theorem Follows.process (follows : Follows script position launch) {host : Host}
    {service : Service} (moved : processStep launch.host service = some host) :
    Follows script position { launch with host } := by
  refine ⟨follows.remaining, ?_, follows.running⟩
  intro other
  rw [← follows.started other]
  exact iff_of_eq (congrArg (· = true) (started_processStep moved other))

/-- The next command of a script whose services are in order. -/
theorem Follows.command (ordered : Ordered [] script) (follows : Follows script position launch)
    (stepped : launchStep launch .script = some next) :
    ∃ command, script[position]? = some command ∧ Follows script (position + 1) next ∧
      match command with
      | .start service _ => next.host = launch.host.start service
      | .await ready => ready launch.host = true ∧ next.host = launch.host := by
  rcases launchStep_script stepped with ⟨command, rest, remaining, outcome⟩
  rw [follows.remaining] at remaining
  have here : script[position]? = some command := by
    rw [← List.head?_drop, remaining]
    rfl
  have taken : script.take (position + 1) = script.take position ++ [command] := by
    rw [List.take_add_one, here]
    rfl
  have left : rest = script.drop (position + 1) := by
    rw [← List.drop_drop, remaining]
    rfl
  refine ⟨command, here, ?_⟩
  cases command with
  | start service deps =>
      have met : deps.all launch.host.started = true := by
        rw [List.all_eq_true]
        intro dep member
        rcases ordered.deps_mem here dep member with impossible | earlier
        · cases impossible
        · exact (follows.started dep).mpr earlier
      have same := (if_pos met).mp outcome
      rw [same]
      refine ⟨⟨left, ?_, follows.running⟩, rfl⟩
      intro other
      rw [started_start, follows.started, taken, startsOf, startsOf, List.filterMap_append,
        List.mem_append]
      exact or_congr_right List.mem_singleton.symm
  | await ready =>
      rcases outcome with ⟨succeeded, rfl⟩
      refine ⟨⟨left, ?_, follows.running⟩, succeeded, rfl⟩
      intro other
      rw [follows.started, taken, startsOf, startsOf, List.filterMap_append, List.mem_append]
      exact (or_iff_left List.not_mem_nil).symm

theorem mem_startsOf_mono {first second : Nat} (le : first ≤ second) {service : Service}
    (member : service ∈ startsOf (script.take first)) : service ∈ startsOf (script.take second) := by
  rcases List.mem_filterMap.mp member with ⟨command, early, starts⟩
  exact List.mem_filterMap.mpr ⟨command, List.take_subset_take_left script le early, starts⟩

/-- A process that moves has been started. -/
theorem started_of_processStep {host after : Host} {service : Service}
    (moved : processStep host service = some after) : host.started service = true := by
  cases service with
  | daemon =>
      rw [Host.started, (daemon_cases moved).1]
      rfl
  | thinServer =>
      cases thinServer_call moved with
      | createRequest point | createReply point | listen point | openRequest point
      | openReply point | bind point | accept point =>
          rw [Host.started, point]
          rfl
      | fail cause =>
          rcases cause with ⟨point, -⟩ | ⟨point, -⟩ | ⟨point, -⟩
          all_goals
            rw [Host.started, point]
            rfl
  | doeEmu =>
      rcases doeEmu_cases moved with ⟨point, -⟩ | ⟨point, -⟩
      all_goals
        rw [Host.started, point]
        rfl

theorem follows_begin (files : List String) (listening : Bool) (script : List Command) :
    Follows script 0 (.begin (.idle files listening) script) where
  remaining := rfl
  started service := by
    cases service <;> exact iff_of_false Bool.false_ne_true List.not_mem_nil
  running := rfl

theorem Follows.unstarted (follows : Follows script position launch) {limit : Nat}
    (before : position ≤ limit) {service : Service}
    (later : service ∉ startsOf (script.take limit)) : ¬launch.host.started service = true :=
  fun started => later (mem_startsOf_mono before ((follows.started service).mp started))

/-- A script stays before a probe that cannot succeed as long as a property of the host
holds which the services started before it keep. -/
theorem execute_waits (ordered : Ordered [] script) {limit : Nat} {ready : Host → Bool}
    (probe : script[limit]? = some (.await ready)) (property : Host → Prop)
    (blocked : ∀ host, property host → ready host = false)
    (starting : ∀ host service, property host → service ∈ startsOf (script.take limit) →
      property (host.start service))
    (running : ∀ host after service, property host → service ∈ startsOf (script.take limit) →
      processStep host service = some after → property after)
    {files : List String} {listening : Bool} (initially : property (.idle files listening))
    {actors : List Actor} {final : Bringup}
    (executed : execute launchStep (.begin (.idle files listening) script) actors = some final) :
    ∃ position ≤ limit, Follows script position final ∧ property final.host := by
  apply execute_invariant
    (fun launch => ∃ position ≤ limit, Follows script position launch ∧ property launch.host) _
    ⟨0, Nat.zero_le _, follows_begin files listening script, initially⟩ executed
  intro launch actor next waits stepped
  rcases waits with ⟨position, before, follows, holds⟩
  cases actor with
  | process service =>
      rcases launchStep_process stepped with ⟨host, moved, rfl⟩
      have early : service ∈ startsOf (script.take limit) :=
        mem_startsOf_mono before ((follows.started service).mp (started_of_processStep moved))
      exact ⟨position, before, follows.process moved, running _ _ service holds early moved⟩
  | script =>
      rcases follows.command ordered stepped with ⟨command, here, later, outcome⟩
      by_cases last : position = limit
      · rw [last, probe] at here
        cases here
        have refused := blocked _ holds
        rw [outcome.1] at refused
        cases refused
      · refine ⟨position + 1, by omega, later, ?_⟩
        cases command with
        | start service deps =>
            have early : service ∈ startsOf (script.take limit) := by
              apply mem_startsOf_mono (by omega : position + 1 ≤ limit)
              rw [List.take_add_one, here]
              exact List.mem_filterMap.mpr ⟨_, List.mem_append_right _ List.mem_cons_self, rfl⟩
            rw [outcome]
            exact starting _ service holds early
        | await other =>
            rw [outcome.2]
            exact holds

end Following

theorem daemon_of_unstarted {host : Host} (unstarted : ¬host.started .daemon = true) :
    host.daemon = .unstarted := by
  simpa [Host.started] using unstarted

theorem thinServer_of_unstarted {host : Host} (unstarted : ¬host.started .thinServer = true) :
    host.thinServer = .unstarted := by
  simpa [Host.started] using unstarted

theorem doeEmu_of_unstarted {host : Host} (unstarted : ¬host.started .doeEmu = true) :
    host.doeEmu = .unstarted := by
  simpa [Host.started] using unstarted

theorem start_files (host : Host) (service : Service) :
    (host.start service).files = host.files := by
  by_cases started : host.started service = true
  · rw [start_of_started started]
  · rw [start_of_unstarted started]
    cases service <;> rfl

/-- Only the two pipes are ever created. -/
theorem mem_files_processStep {host after : Host} {service : Service}
    (moved : processStep host service = some after) {file : String} (member : file ∈ after.files) :
    file ∈ host.files ∨ file = requestPipe ∨ file = replyPipe := by
  cases service with
  | daemon =>
      rcases daemon_cases moved with ⟨-, ⟨-, rfl⟩ | ⟨-, rfl⟩⟩
      all_goals exact Or.inl member
  | thinServer =>
      cases thinServer_call moved with
      | createRequest point =>
          rcases List.mem_insert_iff.mp member with created | before
          · exact Or.inr (Or.inl created)
          · exact Or.inl before
      | createReply point =>
          rcases List.mem_insert_iff.mp member with created | before
          · exact Or.inr (Or.inr created)
          · exact Or.inl before
      | listen | openRequest | openReply | bind | accept | fail => exact Or.inl member
  | doeEmu =>
      rcases doeEmu_cases moved with ⟨-, ⟨-, rfl⟩ | ⟨-, rfl⟩⟩ | ⟨-, ⟨-, rfl⟩ | ⟨-, rfl⟩⟩
      all_goals exact Or.inl member

/-- No file matches a pattern. -/
def Lacks (pattern : String → Bool) (host : Host) : Prop :=
  ∀ file ∈ host.files, pattern file = false

section Lacks

variable {pattern : String → Bool} {host after : Host}

theorem Lacks.any (lacks : Lacks pattern host) : host.files.any pattern = false := by
  rw [List.any_eq_false]
  intro file member
  rw [lacks file member]
  exact Bool.false_ne_true

theorem Lacks.start (lacks : Lacks pattern host) (service : Service) :
    Lacks pattern (host.start service) := by
  rw [Lacks, start_files]
  exact lacks

end Lacks

/-! ## A port of our own -/

/-- How far `thin-server` has got. -/
def ThinServer.progress : ThinServer → Nat
  | .unstarted | .exited => 0
  | .creatingRequest => 1
  | .creatingReply => 2
  | .openingRequest => 3
  | .openingReply => 4
  | .binding => 5
  | .listening => 6
  | .accepting => 7
  | .serving => 8

/-- Nobody else has the port: the pipes and the port are as far as `thin-server` has
brought them, it has not failed, and the connection is that of the daemon. -/
structure Sound (host : Host) : Prop where
  alive : host.thinServer ≠ .exited
  request : 2 ≤ host.thinServer.progress → requestPipe ∈ host.files
  reply : 3 ≤ host.thinServer.progress → replyPipe ∈ host.files
  listening : host.listening = true ↔ 7 ≤ host.thinServer.progress
  established : host.established = true ↔ host.daemon = .serving
  connected : host.established = true → host.listening = true

theorem sound_idle (files : List String) : Sound (.idle files false) where
  alive := ThinServer.noConfusion
  request early := absurd early (show ¬2 ≤ 0 by decide)
  reply early := absurd early (show ¬3 ≤ 0 by decide)
  listening := iff_of_false Bool.false_ne_true (show ¬7 ≤ 0 by decide)
  established := iff_of_false Bool.false_ne_true Daemon.noConfusion
  connected impossible := by cases impossible

/-- A daemon that is not connected has no connection. -/
theorem Sound.unconnected {host : Host} (sound : Sound host) (apart : host.daemon ≠ .serving) :
    ¬host.established = true :=
  fun established => apart (sound.established.mp established)

/-- `thin-server` does not listen before it is through with the pipes. -/
theorem Sound.silent {host : Host} (sound : Sound host) {point : ThinServer}
    (at_ : host.thinServer = point) (early : point.progress < 7) : ¬host.listening = true := by
  intro listening
  have late := sound.listening.mp listening
  rw [at_] at late
  omega

theorem Sound.start {host : Host} (sound : Sound host) (service : Service) :
    Sound (host.start service) := by
  by_cases started : host.started service = true
  · rwa [start_of_started started]
  · rw [start_of_unstarted started]
    cases service with
    | daemon =>
        have apart : host.daemon ≠ .serving := by
          rw [daemon_of_unstarted started]
          exact Daemon.noConfusion
        exact { sound with
          established := iff_of_false (sound.unconnected apart) Daemon.noConfusion }
    | thinServer =>
        have silent := sound.silent (thinServer_of_unstarted started) (by decide)
        exact
          { alive := ThinServer.noConfusion
            request := fun early => absurd early (show ¬2 ≤ 1 by decide)
            reply := fun early => absurd early (show ¬3 ≤ 1 by decide)
            listening := iff_of_false silent (show ¬7 ≤ 1 by decide)
            established := sound.established
            connected := sound.connected }
    | doeEmu => exact { sound with }

theorem Sound.call {host after : Host} (sound : Sound host) (call : ServerCall host after) :
    Sound after := by
  rcases sound with ⟨alive, request, reply, listening, established, connected⟩
  cases call with
  | createRequest point =>
      rw [point] at listening
      exact ⟨ThinServer.noConfusion, fun _ => List.mem_insert_self,
        fun early => absurd early (show ¬3 ≤ 2 by decide), listening.trans (by simp [ThinServer.progress]),
        established, connected⟩
  | createReply point =>
      rw [point] at request listening
      exact ⟨ThinServer.noConfusion, fun _ => List.mem_insert_of_mem (request (by decide)),
        fun _ => List.mem_insert_self, listening.trans (by simp [ThinServer.progress]), established, connected⟩
  | openRequest point | openReply point =>
      rw [point] at request reply listening
      exact ⟨ThinServer.noConfusion, fun _ => request (by decide), fun _ => reply (by decide),
        listening.trans (by simp [ThinServer.progress]), established, connected⟩
  | bind point free =>
      rw [point] at request reply listening
      exact ⟨ThinServer.noConfusion, fun _ => request (by decide), fun _ => reply (by decide),
        listening.trans (by simp [ThinServer.progress]), established, connected⟩
  | listen point =>
      rw [point] at request reply
      exact ⟨ThinServer.noConfusion, fun _ => request (by decide), fun _ => reply (by decide),
        iff_of_true rfl (Nat.le_refl 7), established, fun _ => rfl⟩
  | accept point =>
      rw [point] at request reply listening
      exact ⟨ThinServer.noConfusion, fun _ => request (by decide), fun _ => reply (by decide),
        listening.trans (by simp [ThinServer.progress]), established, connected⟩
  | fail cause =>
      rcases cause with ⟨point, missing⟩ | ⟨point, missing⟩ | ⟨point, taken⟩
      · rw [point] at request
        exact absurd (request (by decide)) missing
      · rw [point] at reply
        exact absurd (reply (by decide)) missing
      · rw [point] at listening
        exact absurd (listening.mp taken) (by decide)

theorem Sound.process {host after : Host} (sound : Sound host) {service : Service}
    (moved : processStep host service = some after) : Sound after := by
  cases service with
  | daemon =>
      rcases daemon_cases moved with ⟨point, ⟨listening, rfl⟩ | ⟨-, rfl⟩⟩
      · exact { sound with
          established := iff_of_true rfl rfl
          connected := fun _ => listening }
      · have apart : host.daemon ≠ .serving := by
          rw [point]
          exact Daemon.noConfusion
        exact { sound with
          established := iff_of_false (sound.unconnected apart) Daemon.noConfusion }
  | thinServer => exact sound.call (thinServer_call moved)
  | doeEmu =>
      rcases doeEmu_cases moved with ⟨-, ⟨-, rfl⟩ | ⟨-, rfl⟩⟩ | ⟨-, ⟨-, rfl⟩ | ⟨-, rfl⟩⟩
      all_goals exact { sound with }

/-! ## Coming up -/

/-- A probe that keeps succeeding once it has. -/
structure Stable (ready : Host → Bool) : Prop where
  start : ∀ host service, ready host = true → ready (host.start service) = true
  process : ∀ host after service, ready host = true → processStep host service = some after →
    ready after = true

/-- Files are not removed, and the port is not closed. -/
theorem processStep_grows {host after : Host} {service : Service}
    (moved : processStep host service = some after) :
    (host.listening = true → after.listening = true) ∧
      (host.established = true → after.established = true) ∧
      ∀ file ∈ host.files, file ∈ after.files := by
  cases service with
  | daemon =>
      rcases daemon_cases moved with ⟨-, ⟨-, rfl⟩ | ⟨-, rfl⟩⟩
      · exact ⟨id, fun _ => rfl, fun _ => id⟩
      · exact ⟨id, id, fun _ => id⟩
  | thinServer =>
      cases thinServer_call moved with
      | createRequest | createReply => exact ⟨id, id, fun _ => List.mem_insert_of_mem⟩
      | listen => exact ⟨fun _ => rfl, id, fun _ => id⟩
      | openRequest | openReply | bind | accept | fail => exact ⟨id, id, fun _ => id⟩
  | doeEmu =>
      rcases doeEmu_cases moved with ⟨-, ⟨-, rfl⟩ | ⟨-, rfl⟩⟩ | ⟨-, ⟨-, rfl⟩ | ⟨-, rfl⟩⟩
      all_goals exact ⟨id, id, fun _ => id⟩

theorem start_ports (host : Host) (service : Service) :
    (host.start service).listening = host.listening ∧
      (host.start service).established = host.established := by
  by_cases started : host.started service = true
  · rw [start_of_started started]
    exact ⟨rfl, rfl⟩
  · rw [start_of_unstarted started]
    cases service <;> exact ⟨rfl, rfl⟩

theorem stable_listening : Stable fun host => host.listening where
  start host service listening := (start_ports host service).1.trans listening
  process _ _ _ listening moved := (processStep_grows moved).1 listening

theorem stable_established : Stable fun host => host.established where
  start host service established := (start_ports host service).2.trans established
  process _ _ _ established moved := (processStep_grows moved).2.1 established

theorem stable_files (pattern : String → Bool) : Stable fun host => host.files.any pattern where
  start host service found := by rwa [start_files]
  process _ _ _ found moved := by
    rcases List.any_eq_true.mp found with ⟨file, member, fits⟩
    exact List.any_eq_true.mpr ⟨file, (processStep_grows moved).2.2 file member, fits⟩

/-- The script is at a position, everything before it has been done, and the probes
passed on the way still succeed. -/
structure Coming (script : List Command) (position : Nat) (launch : Bringup) : Prop where
  follows : Follows script position launch
  sound : Sound launch.host
  passed : ∀ ready, .await ready ∈ script.take position → ready launch.host = true

section Coming

variable {script : List Command} {position : Nat} {launch next : Bringup}

theorem coming_begin (files : List String) (script : List Command) :
    Coming script 0 (.begin (.idle files false) script) where
  follows := follows_begin files false script
  sound := sound_idle files
  passed _ impossible := by cases impossible

theorem Coming.step (ordered : Ordered [] script)
    (stable : ∀ ready, .await ready ∈ script → Stable ready) (coming : Coming script position launch)
    {actor : Actor} (stepped : launchStep launch actor = some next) :
    ∃ later, Coming script later next := by
  cases actor with
  | process service =>
      rcases launchStep_process stepped with ⟨host, moved, rfl⟩
      refine ⟨position, coming.follows.process moved, coming.sound.process moved, ?_⟩
      intro ready member
      exact (stable ready (List.mem_of_mem_take member)).process _ _ service
        (coming.passed ready member) moved
  | script =>
      rcases coming.follows.command ordered stepped with ⟨command, here, later, outcome⟩
      have taken : script.take (position + 1) = script.take position ++ [command] := by
        rw [List.take_add_one, here]
        rfl
      refine ⟨position + 1, later, ?_, ?_⟩
      · cases command with
        | start service deps =>
            rw [outcome]
            exact coming.sound.start service
        | await ready =>
            rw [outcome.2]
            exact coming.sound
      · intro ready member
        rw [taken, List.mem_append] at member
        cases command with
        | start service deps =>
            rw [outcome]
            rcases member with before | now
            · exact (stable ready (List.mem_of_mem_take before)).start _ service
                (coming.passed ready before)
            · cases List.mem_singleton.mp now
        | await other =>
            rw [outcome.2]
            rcases member with before | now
            · exact coming.passed ready before
            · cases List.mem_singleton.mp now
              exact outcome.1

/-- A script that cannot go on is at its end or before a probe that fails. -/
theorem Follows.quiet (follows : Follows script position launch)
    (quiet : launchStep launch .script = none) :
    launch.script = [] ∨ ∃ ready, script[position]? = some (.await ready) ∧
      ¬ready launch.host = true := by
  rw [launchStep] at quiet
  split at quiet
  case h_1 finished => exact Or.inl finished
  case h_2 =>
      split at quiet
      all_goals cases quiet
  case h_3 ready rest remaining =>
      right
      refine ⟨ready, ?_, ?_⟩
      · rw [← List.head?_drop, ← follows.remaining, remaining]
        rfl
      · split at quiet
        case isTrue => cases quiet
        case isFalse failed => exact failed

end Coming

/-! ## Calling in time -/

/-- Neither the daemon nor the emulator has failed. -/
structure Unfailed (host : Host) : Prop where
  daemon : host.daemon ≠ .exited
  doeEmu : host.doeEmu ≠ .exited

/-- A daemon connects when somebody listens, and `doe-emu` opens a pipe that exists. -/
def Punctual (launch : Bringup) : Actor → Prop
  | .process .daemon => launch.host.listening = true
  | .process .doeEmu =>
      (launch.host.doeEmu = .openingRequest → requestPipe ∈ launch.host.files) ∧
        (launch.host.doeEmu = .openingReply → replyPipe ∈ launch.host.files)
  | _ => True

theorem exited_start (host : Host) (service : Service) :
    ((host.start service).daemon = .exited ↔ host.daemon = .exited) ∧
      ((host.start service).doeEmu = .exited ↔ host.doeEmu = .exited) := by
  by_cases started : host.started service = true
  · rw [start_of_started started]
    exact ⟨Iff.rfl, Iff.rfl⟩
  · rw [start_of_unstarted started]
    cases service with
    | daemon =>
        rw [daemon_of_unstarted started]
        exact ⟨iff_of_false Daemon.noConfusion Daemon.noConfusion, Iff.rfl⟩
    | thinServer => exact ⟨Iff.rfl, Iff.rfl⟩
    | doeEmu =>
        rw [doeEmu_of_unstarted started]
        exact ⟨Iff.rfl, iff_of_false DoeEmu.noConfusion DoeEmu.noConfusion⟩

section Punctuality

variable {launch next : Bringup} {actor : Actor}

/-- A script does not make anybody fail. -/
theorem exited_script (stepped : launchStep launch .script = some next) :
    (next.host.daemon = .exited ↔ launch.host.daemon = .exited) ∧
      (next.host.doeEmu = .exited ↔ launch.host.doeEmu = .exited) := by
  rcases launchStep_script stepped with ⟨command, rest, -, outcome⟩
  cases command with
  | start service deps =>
      by_cases met : deps.all launch.host.started
      · rw [(if_pos met).mp outcome]
        exact exited_start launch.host service
      · rw [(if_neg met).mp outcome]
        exact ⟨Iff.rfl, Iff.rfl⟩
  | await ready =>
      rw [outcome.2]
      exact ⟨Iff.rfl, Iff.rfl⟩

/-- Who calls in time does not fail. -/
theorem Unfailed.step (unfailed : Unfailed launch.host) (punctual : Punctual launch actor)
    (stepped : launchStep launch actor = some next) : Unfailed next.host := by
  cases actor with
  | script =>
      rcases exited_script stepped with ⟨daemon, doeEmu⟩
      exact ⟨daemon.not.mpr unfailed.daemon, doeEmu.not.mpr unfailed.doeEmu⟩
  | process service =>
      rcases launchStep_process stepped with ⟨host, moved, rfl⟩
      cases service with
      | daemon =>
          rcases daemon_cases moved with ⟨-, ⟨-, rfl⟩ | ⟨deaf, -⟩⟩
          · exact ⟨Daemon.noConfusion, unfailed.doeEmu⟩
          · rw [Punctual, deaf] at punctual
            cases punctual
      | thinServer =>
          cases thinServer_call moved with
          | createRequest | createReply | listen | openRequest | openReply | bind | accept
          | fail => exact ⟨unfailed.daemon, unfailed.doeEmu⟩
      | doeEmu =>
          rcases doeEmu_cases moved with
            ⟨point, ⟨-, rfl⟩ | ⟨missing, -⟩⟩ | ⟨point, ⟨-, rfl⟩ | ⟨missing, -⟩⟩
          · exact ⟨unfailed.daemon, DoeEmu.noConfusion⟩
          · exact absurd (punctual.1 point) missing
          · exact ⟨unfailed.daemon, DoeEmu.noConfusion⟩
          · exact absurd (punctual.2 point) missing

/-- Who calls too early fails. -/
theorem failed_of_early (stepped : launchStep launch actor = some next)
    (early : ¬Punctual launch actor) : ¬Unfailed next.host := by
  intro unfailed
  cases actor with
  | script => exact early trivial
  | process service =>
      rcases launchStep_process stepped with ⟨host, moved, rfl⟩
      cases service with
      | daemon =>
          rcases daemon_cases moved with ⟨-, ⟨listening, -⟩ | ⟨-, rfl⟩⟩
          · exact early listening
          · exact unfailed.daemon rfl
      | thinServer => exact early trivial
      | doeEmu =>
          rcases doeEmu_cases moved with
            ⟨point, ⟨there, -⟩ | ⟨-, rfl⟩⟩ | ⟨point, ⟨there, -⟩ | ⟨-, rfl⟩⟩
          · apply early
            refine ⟨fun _ => there, ?_⟩
            intro other
            rw [point] at other
            cases other
          · exact unfailed.doeEmu rfl
          · apply early
            refine ⟨?_, fun _ => there⟩
            intro other
            rw [point] at other
            cases other
          · exact unfailed.doeEmu rfl

/-- Whoever has failed stays so. -/
theorem failed_stays (failed : ¬Unfailed launch.host)
    (stepped : launchStep launch actor = some next) : ¬Unfailed next.host := by
  intro unfailed
  apply failed
  cases actor with
  | script =>
      rcases exited_script stepped with ⟨daemon, doeEmu⟩
      exact ⟨daemon.not.mp unfailed.daemon, doeEmu.not.mp unfailed.doeEmu⟩
  | process service =>
      rcases launchStep_process stepped with ⟨host, moved, rfl⟩
      cases service with
      | daemon =>
          rcases daemon_cases moved with ⟨point, ⟨-, rfl⟩ | ⟨-, rfl⟩⟩
          · refine ⟨?_, unfailed.doeEmu⟩
            rw [point]
            exact Daemon.noConfusion
          · exact absurd rfl unfailed.daemon
      | thinServer =>
          cases thinServer_call moved with
          | createRequest | createReply | listen | openRequest | openReply | bind | accept
          | fail => exact ⟨unfailed.daemon, unfailed.doeEmu⟩
      | doeEmu =>
          rcases doeEmu_cases moved with
            ⟨point, ⟨-, rfl⟩ | ⟨-, rfl⟩⟩ | ⟨point, ⟨-, rfl⟩ | ⟨-, rfl⟩⟩
          all_goals
            refine ⟨unfailed.daemon, ?_⟩
            rw [point]
            exact DoeEmu.noConfusion

end Punctuality

/-! ## Being up -/

/-- Everything has been started, opened and connected, and the script goes on. -/
structure Up (launch : Bringup) : Prop where
  script : launch.script = []
  daemon : launch.host.daemon = .serving
  thinServer : launch.host.thinServer = .serving
  doeEmu : launch.host.doeEmu = .running

section Quiet

variable {host : Host}

/-- A daemon that has been started and has not failed gets its connection. -/
theorem serving_of_quiet (started : host.started .daemon = true) (alive : host.daemon ≠ .exited)
    (quiet : processStep host .daemon = none) : host.daemon = .serving := by
  cases point : host.daemon with
  | unstarted =>
      rw [Host.started, point] at started
      cases started
  | connecting => exact absurd point (daemon_quiet quiet)
  | serving => rfl
  | exited => exact absurd point alive

/-- An emulator that has been started and has not failed runs. -/
theorem running_of_quiet (started : host.started .doeEmu = true) (alive : host.doeEmu ≠ .exited)
    (quiet : processStep host .doeEmu = none) : host.doeEmu = .running := by
  cases point : host.doeEmu with
  | unstarted =>
      rw [Host.started, point] at started
      cases started
  | openingRequest => exact absurd point (doeEmu_quiet quiet).1
  | openingReply => exact absurd point (doeEmu_quiet quiet).2
  | running => rfl
  | exited => exact absurd point alive

/-- A thin server that has been started gets as far as it can without a daemon. -/
theorem accepting_of_quiet (started : host.started .thinServer = true) (sound : Sound host)
    (quiet : processStep host .thinServer = none) :
    host.listening = true ∧ (host.established = true → host.thinServer = .serving) := by
  rcases thinServer_quiet quiet with point | point | point | ⟨point, waiting⟩
  · rw [Host.started, point] at started
    cases started
  · exact absurd point sound.alive
  · refine ⟨sound.listening.mpr ?_, fun _ => point⟩
    rw [point]
    decide
  · refine ⟨sound.listening.mpr ?_, ?_⟩
    · rw [point]
      decide
    · intro established
      rw [waiting] at established
      cases established

end Quiet

section Settling

variable {script : List Command} {position : Nat} {launch : Bringup}

theorem processStep_quiet (quiet : ∀ actor, launchStep launch actor = none) (service : Service) :
    processStep launch.host service = none :=
  Option.map_eq_none_iff.mp (quiet (.process service))

/-- Once a daemon has been started and nothing moves, it has its connection. -/
theorem Coming.connected (coming : Coming script position launch)
    (unfailed : Unfailed launch.host) (quiet : ∀ actor, launchStep launch actor = none)
    (started : .daemon ∈ startsOf (script.take position)) : launch.host.established = true :=
  coming.sound.established.mpr
    (serving_of_quiet ((coming.follows.started .daemon).mpr started) unfailed.daemon
      (processStep_quiet quiet .daemon))

/-- A script that has started everything and is through leaves the relay up. -/
theorem Coming.up (coming : Coming script position launch) (unfailed : Unfailed launch.host)
    (quiet : ∀ actor, launchStep launch actor = none)
    (complete : ∀ service, service ∈ startsOf script) (finished : launch.script = []) :
    Up launch := by
  have started (service : Service) : service ∈ startsOf (script.take position) := by
    rw [coming.follows.remaining, List.drop_eq_nil_iff] at finished
    rw [List.take_of_length_le finished]
    exact complete service
  have connected := coming.connected unfailed quiet (started .daemon)
  refine ⟨finished, coming.sound.established.mp connected, ?_, ?_⟩
  · exact (accepting_of_quiet ((coming.follows.started .thinServer).mpr (started .thinServer))
      coming.sound (processStep_quiet quiet .thinServer)).2 connected
  · exact running_of_quiet ((coming.follows.started .doeEmu).mpr (started .doeEmu))
      unfailed.doeEmu (processStep_quiet quiet .doeEmu)

theorem Up.unfailed (up : Up launch) : Unfailed launch.host where
  daemon := by
    rw [up.daemon]
    exact Daemon.noConfusion
  doeEmu := by
    rw [up.doeEmu]
    exact DoeEmu.noConfusion

theorem unfailed_idle (files : List String) (listening : Bool) :
    Unfailed (.idle files listening) :=
  ⟨Daemon.noConfusion, DoeEmu.noConfusion⟩

end Settling

end RemoteRootport.Launch
